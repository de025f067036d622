import Roster.Proofs.Batch.Table

namespace Roster.Batch

namespace References

variable {refs refs' : References}

def Agree (tokens : String → Prop) (refs refs' : References) : Prop :=
  ∀ t, tokens t → refs.get? t = refs'.get? t

theorem Agree.mono {tokens tokens' : String → Prop} (h : Agree tokens refs refs')
    (hsub : ∀ t, tokens' t → tokens t) : Agree tokens' refs refs' :=
  fun t ht => h t (hsub t ht)

theorem resolve_congr {s : String} (h : Agree (s = refer ·) refs refs') :
    refs.resolve s = refs'.resolve s := by
  cases ht : token? s with
  | none => rw [resolve_of_token?_eq_none refs ht, resolve_of_token?_eq_none refs' ht]
  | some t =>
    obtain rfl := token?_eq_some_iff.1 ht
    rw [resolve_refer, resolve_refer, h t rfl]

theorem target_congr {s : String} (h : Agree (s = refer ·) refs refs') :
    refs.target s = refs'.target s := by
  rw [target, target, resolve_congr h]

theorem substituteItems_congr {items : List Json}
    (h : ∀ v ∈ items, refs.substitute v = refs'.substitute v) :
    refs.substituteItems items = refs'.substituteItems items := by
  induction items with
  | nil => rfl
  | cons v rest ih =>
    rw [substituteItems, substituteItems, h v List.mem_cons_self,
      ih fun w hw => h w (List.mem_cons_of_mem _ hw)]

theorem substituteMembers_congr {members : List (String × Json)}
    (h : ∀ m ∈ members, refs.substitute m.2 = refs'.substitute m.2) :
    refs.substituteMembers members = refs'.substituteMembers members := by
  induction members with
  | nil => rfl
  | cons m rest ih =>
    rw [substituteMembers, substituteMembers, h m List.mem_cons_self,
      ih fun w hw => h w (List.mem_cons_of_mem _ hw)]

theorem substitute_congr {v : Json} (h : Agree (refer · ∈ v.texts) refs refs') :
    refs.substitute v = refs'.substitute v := by
  induction v with
  | null => rfl
  | bool b => rfl
  | number x => rfl
  | string s =>
    have hs : refs.resolve s = refs'.resolve s :=
      resolve_congr (h.mono fun t ht => by simp [Json.texts, ← ht])
    rw [substitute, substitute, hs]
  | array items ih =>
    rw [substitute, substitute, substituteItems_congr]
    refine fun v hv => ih v hv (h.mono fun t ht => ?_)
    rw [Json.texts, Json.textsOfItems_eq]
    exact List.mem_flatMap.2 ⟨v, hv, ht⟩
  | object members ih =>
    rw [substitute, substitute, substituteMembers_congr]
    refine fun m hm => ih m hm (h.mono fun t ht => ?_)
    rw [Json.texts, Json.textsOfMembers_eq]
    exact List.mem_flatMap.2 ⟨m, hm, ht⟩

theorem resolved_congr {v : Json} (h : Agree (refer · ∈ v.texts) refs refs') :
    refs.resolved v = refs'.resolved v := by
  rw [resolved, resolved, substitute_congr h]

end References

namespace Operation

variable {σ : Type} {op : Operation} {refs refs' : References}

theorem mapM_resolved_congr (h : References.Agree op.Meets refs refs') {data : Option Json}
    (hdata : op.requireData = .ok data) : data.mapM refs.resolved = data.mapM refs'.resolved := by
  obtain ⟨-, rfl⟩ | ⟨hverb, hop, -⟩ := requireData_eq_ok_iff.1 hdata
  · rfl
  · cases data with
    | none => rfl
    | some v =>
      have hv : refs.resolved v = refs'.resolved v :=
        References.resolved_congr (h.mono fun t ht => .inl ⟨hverb, v, hop, ht⟩)
      rw [Option.mapM_some, Option.mapM_some, hv]

theorem address_congr (h : References.Agree op.Meets refs refs') {path : Path}
    (hpath : Path.parse op.path = .ok path) (payload : Option Json) :
    op.address refs path.identifier payload = op.address refs' path.identifier payload := by
  obtain ⟨segment, identifier⟩ := path
  cases identifier with
  | none => unfold address; cases op.verb <;> cases payload <;> rfl
  | some raw =>
    have hraw (hverb : op.verb ≠ .create) : refs.target raw = refs'.target raw :=
      References.target_congr (h.mono fun t ht => .inr ⟨hverb, segment, ht ▸ hpath⟩)
    cases hverb : op.verb with
    | create => simp only [address, hverb]
    | update => cases payload <;> simp only [address, hverb, hraw (by simp [hverb])]
    | delete => simp only [address, hverb, hraw (by simp [hverb])]

theorem plan_congr (h : References.Agree op.Meets refs refs') (registry : Registry σ) :
    op.plan registry refs = op.plan registry refs' := by
  rw [plan_eq_bind, plan_eq_bind]
  cases hdata : op.requireData with
  | error cause => rfl
  | ok data =>
    apply congrArg (op.requireName >>= ·)
    funext _
    rw [mapM_resolved_congr h hdata]
    apply congrArg (data.mapM refs'.resolved >>= ·)
    funext payload
    cases hpath : Path.parse op.path with
    | error cause => rfl
    | ok path =>
      apply congrArg (registry.resolve path.segment >>= ·)
      funext entry
      rw [address_congr h hpath]

end Operation

theorem Endpoint.perform_congr {σ : Type} (e : Endpoint σ) {op : Operation} {refs refs' : References}
    (h : References.Agree op.Meets refs refs') (s : σ) : e.perform op refs s = e.perform op refs' s := by
  rw [perform, perform, Operation.plan_congr h]

theorem References.Agree.remember {tokens : String → Prop} {refs refs' : References}
    (h : Agree tokens refs refs') (op : Operation) (effect : Effect) :
    Agree tokens (op.remember refs effect) (op.remember refs' effect) := by
  intro t ht
  unfold Operation.remember
  split
  · rw [Store.get?_insert, Store.get?_insert, h t ht]
  · exact h t ht

end Roster.Batch
