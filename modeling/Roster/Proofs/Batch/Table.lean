import Roster.Proofs.Batch.Reference
import Roster.Proofs.Batch.Run

namespace Roster.Batch

variable {σ : Type}

namespace Request

theorem repeated?_eq_none_iff {seen names : List String} :
    repeated? seen names = none ↔ names.Nodup ∧ ∀ name ∈ names, name ∉ seen := by
  induction names generalizing seen with
  | nil => simp [repeated?]
  | cons name rest ih =>
    rw [repeated?]
    split
    · rename_i h
      exact ⟨nofun, fun hr => absurd h (hr.2 name List.mem_cons_self)⟩
    · rename_i h
      rw [ih, List.nodup_cons]
      constructor
      · rintro ⟨hnodup, hrest⟩
        refine ⟨⟨fun hmem => hrest name hmem List.mem_cons_self, hnodup⟩, ?_⟩
        rintro x (_ | ⟨_, hx⟩)
        · exact h
        · exact fun hs => hrest x hx (List.mem_cons_of_mem _ hs)
      · rintro ⟨⟨hmem, hnodup⟩, hrest⟩
        refine ⟨hnodup, fun x hx hs => ?_⟩
        rcases List.mem_cons.1 hs with rfl | hs
        · exact hmem hx
        · exact hrest x (List.mem_cons_of_mem _ hx) hs

theorem check_eq_ok_iff {limits : Limits} {r : Request} :
    r.check limits = .ok () ↔ r.operations.length ≤ limits.maxOperations ∧ r.names.Nodup := by
  have hnodup : repeated? [] r.names = none ↔ r.names.Nodup := by simp [repeated?_eq_none_iff]
  rw [check, ← hnodup]
  split
  · rename_i h
    exact ⟨nofun, fun hr => absurd hr.1 (Nat.not_le_of_lt h)⟩
  · rename_i h
    cases repeated? [] r.names with
    | none => simp [Nat.le_of_not_lt h]
    | some name => simp

end Request

theorem index_unique {α β : Type} {f : α → Option β} {l : List α} (h : (l.filterMap f).Nodup) {i j : Nat}
    {a b : α} {x : β} (hi : l[i]? = some a) (hj : l[j]? = some b) (ha : f a = some x)
    (hb : f b = some x) : i = j := by
  rw [List.Nodup, List.pairwise_filterMap, List.pairwise_iff_getElem] at h
  obtain ⟨hi', rfl⟩ := List.getElem?_eq_some_iff.1 hi
  obtain ⟨hj', rfl⟩ := List.getElem?_eq_some_iff.1 hj
  rcases Nat.lt_trichotomy i j with hlt | rfl | hlt
  · exact absurd rfl (h i j hi' hj' hlt x ha x hb)
  · rfl
  · exact absurd rfl (h j i hj' hi' hlt x hb x ha)

namespace Attempt

def addition? (a : Attempt σ) : Option (String × Uuid) :=
  match a.outcome, a.op.name? with
  | .ok (.created id, _), some name => some (name, id)
  | _, _ => none

theorem addition?_eq_some_iff {a : Attempt σ} {name : String} {id : Uuid} :
    a.addition? = some (name, id) ↔
      a.op.name? = some name ∧ ∃ location, a.outcome = .ok (.created id, location) := by
  rw [addition?]
  rcases a.outcome with e | ⟨_ | _ | _, location⟩ <;> cases a.op.name? <;> simp [and_comm]

theorem refs_progress (a : Attempt σ) :
    a.progress.refs =
      match a.addition? with
      | some (name, id) => a.before.refs.insert name id
      | none => a.before.refs := by
  rw [progress, addition?]
  rcases a.outcome with e | ⟨_ | _ | _, location⟩ <;> simp only [Operation.remember]
  cases a.op.name? <;> rfl

theorem get?_refs_progress (a : Attempt σ) (h : ∀ name ∈ a.op.name?, a.before.refs.get? name = none)
    (name : String) (id : Uuid) :
    a.progress.refs.get? name = some id ↔
      a.before.refs.get? name = some id ∨ a.addition? = some (name, id) := by
  rw [a.refs_progress]
  cases ha : a.addition? with
  | none => simp
  | some entry =>
    obtain ⟨known, id'⟩ := entry
    have hnone := h known (addition?_eq_some_iff.1 ha).1
    simp only [Store.get?_insert, Option.some.injEq, Prod.mk.injEq]
    by_cases hn : name = known
    · subst hn
      simp [hnone]
    · simp [hn, Ne.symm hn]

structure Created (e : Endpoint σ) (a : Attempt σ) (name : String) (id : Uuid) : Prop where
  verb : a.op.verb = .create
  bulkId : a.op.bulkId = some name
  succeeded : a.result.isSuccess = true
  answered : ∃ segment entry payload,
    a.op.plan e.registry a.before.refs = .ok ⟨segment, entry, .create payload⟩ ∧
      entry.handler.create payload a.state = (.ok id, a.after)

theorem created_iff {e : Endpoint σ} {a : Attempt σ} (ha : e.attempt a.op a.before a.state = a)
    {name : String} {id : Uuid} : Created e a name id ↔ a.addition? = some (name, id) := by
  have hperform := e.perform_of_made ha
  rw [addition?_eq_some_iff]
  constructor
  · rintro ⟨hverb, hbulkId, -, segment, entry, payload, hplan, hanswer⟩
    rw [e.perform_of_plan hplan, Dispatch.invoke, hanswer] at hperform
    have hplanned := Operation.plan_eq_ok_iff.1 hplan
    cases hplanned with
    | create _ hname =>
      obtain ⟨-, hb, -⟩ := Operation.name?_eq_some_iff.1 hname
      obtain rfl := Option.some.inj (hbulkId.symm.trans hb)
      exact ⟨hname, _, (congrArg Prod.fst hperform).symm⟩
  · rintro ⟨hname, location, houtcome⟩
    rw [houtcome] at hperform
    obtain ⟨⟨segment, entry, dispatch⟩, hplan, -, hinvoke⟩ := e.perform_eq_ok hperform
    obtain ⟨payload, rfl, hanswer⟩ := Dispatch.invoke_eq_created hinvoke
    obtain ⟨hverb, hbulkId, -⟩ := Operation.name?_eq_some_iff.1 hname
    refine ⟨hverb, hbulkId, ?_, segment, entry, payload, hplan, hanswer⟩
    rw [result, houtcome]
    rfl

end Attempt

theorem exists_lt_succ_cons {α : Type} {P : α → Prop} {x : α} {l : List α} {i : Nat} :
    (∃ j a, j < i + 1 ∧ (x :: l)[j]? = some a ∧ P a) ↔
      P x ∨ ∃ j a, j < i ∧ l[j]? = some a ∧ P a := by
  constructor
  · rintro ⟨_ | j, a, hj, ha, hP⟩
    · cases ha
      exact .inl hP
    · exact .inr ⟨j, a, Nat.lt_of_succ_lt_succ hj, ha, hP⟩
  · rintro (hP | ⟨j, a, hj, ha, hP⟩)
    · exact ⟨0, x, Nat.succ_pos i, rfl, hP⟩
    · exact ⟨j + 1, a, Nat.succ_lt_succ hj, ha, hP⟩

namespace Endpoint

variable (e : Endpoint σ)

theorem get?_refs_iff {ops : List Operation} {p : Progress} {s : σ}
    (hnodup : (ops.filterMap Operation.name?).Nodup)
    (hfresh : ∀ name ∈ ops.filterMap Operation.name?, p.refs.get? name = none)
    {i : Nat} {a : Attempt σ} (h : (e.trace ops p s)[i]? = some a) (name : String) (id : Uuid) :
    a.before.refs.get? name = some id ↔ p.refs.get? name = some id ∨
      ∃ j b, j < i ∧ (e.trace ops p s)[j]? = some b ∧ b.addition? = some (name, id) := by
  induction ops generalizing p s i with
  | nil => simp [trace] at h
  | cons op ops ih =>
    rw [trace] at h ⊢
    cases i with
    | zero =>
      cases h
      simp
    | succ i =>
      have hop : ∀ name ∈ op.name?, p.refs.get? name = none := fun name hname =>
        hfresh name (List.mem_filterMap.2 ⟨op, List.mem_cons_self, hname⟩)
      have hrest : (ops.filterMap Operation.name?).Nodup ∧
          ∀ name ∈ op.name?, name ∉ ops.filterMap Operation.name? := by
        rw [List.filterMap_cons] at hnodup
        cases hname : op.name? with
        | none => simpa [hname] using hnodup
        | some name => simpa [hname, and_comm] using hnodup
      have hfresh' : ∀ name ∈ ops.filterMap Operation.name?,
          (e.attempt op p s).progress.refs.get? name = none := by
        intro name hname
        rw [Option.eq_none_iff_forall_ne_some]
        intro id' hid
        obtain hp | hentry := ((e.attempt op p s).get?_refs_progress hop name id').1 hid
        · rw [attempt_before, hfresh name] at hp
          · simp at hp
          · obtain ⟨op', hmem, h'⟩ := List.mem_filterMap.1 hname
            exact List.mem_filterMap.2 ⟨op', List.mem_cons_of_mem _ hmem, h'⟩
        · exact hrest.2 name (Attempt.addition?_eq_some_iff.1 hentry).1 hname
      rw [ih hrest.1 hfresh' h, (e.attempt op p s).get?_refs_progress hop, exists_lt_succ_cons, or_assoc]
      rfl

end Endpoint

def Dispatch.payload? : Dispatch → Option Json
  | .create payload | .update _ payload => some payload
  | .delete _ => none

/-- The operation cannot do without the reference. -/
def Operation.Meets (op : Operation) (token : String) : Prop :=
  (op.verb ≠ .delete ∧ ∃ data, op.data = some data ∧ refer token ∈ data.texts) ∨
    (op.verb ≠ .create ∧ ∃ segment, Path.parse op.path = .ok ⟨segment, some (refer token)⟩)

def Source (e : Endpoint σ) (as : List (Attempt σ)) (i : Nat) (name : String) (id : Uuid) : Prop :=
  ∃ j b, j < i ∧ as[j]? = some b ∧ b.Created e name id

/-- What the references of the `i`-th attempt stand for. -/
structure ReferencesKnown (e : Endpoint σ) (as : List (Attempt σ)) (i : Nat) (a : Attempt σ) :
    Prop where
  table : ∀ name id, a.before.refs.get? name = some id ↔ Source e as i name id
  unique : ∀ (name : String) (id id' : Uuid) (j j' : Nat) (b b' : Attempt σ), as[j]? = some b →
    as[j']? = some b' → b.Created e name id → b'.Created e name id' → j = j'
  kept : ∀ (name : String) (id : Uuid) (j : Nat) (b : Attempt σ), i ≤ j → as[j]? = some b →
    a.before.refs.get? name = some id → b.before.refs.get? name = some id
  resolves : ∀ token id, a.before.refs.resolve (refer token) = .ok (some id) ↔ Source e as i token id
  identifies : ∀ token id, a.before.refs.target (refer token) = .ok id ↔ Source e as i token id
  refused : ∀ token, a.op.Meets token → (∀ id, ¬ Source e as i token id) → a.failed = true
  replaced : ∀ plan payload, a.op.plan e.registry a.before.refs = .ok plan →
    plan.dispatch.payload? = some payload → ∃ data, a.op.data = some data ∧
      payload = data.mapTexts a.before.refs.replace ∧
      (∀ token, refer token ∈ data.texts →
        ∃ id, Source e as i token id ∧ a.before.refs.replace (refer token) = id.text) ∧
      ∀ text ∈ payload.texts, token? text = none

theorem Operation.resolved_of_plan {op : Operation} {registry : Registry σ} {refs : References}
    {plan : Plan σ} {payload : Json} (h : op.plan registry refs = .ok plan)
    (hpayload : plan.dispatch.payload? = some payload) :
    ∃ data, op.data = some data ∧ refs.resolved data = .ok payload := by
  cases plan_eq_ok_iff.1 h with
  | create _ _ hdata hresolved => exact Option.some.inj hpayload ▸ ⟨_, hdata, hresolved⟩
  | update _ hdata hresolved => exact Option.some.inj hpayload ▸ ⟨_, hdata, hresolved⟩
  | delete => simp [Dispatch.payload?] at hpayload

theorem Operation.isSome_of_meets {op : Operation} {registry : Registry σ} {refs : References}
    {plan : Plan σ} {token : String} (h : op.plan registry refs = .ok plan) (hm : op.Meets token) :
    (refs.get? token).isSome := by
  rcases hm with ⟨hverb, data, hdata, hmem⟩ | ⟨hverb, segment, hpath⟩
  · have hresolved : ∃ payload, refs.resolved data = .ok payload := by
      cases plan_eq_ok_iff.1 h with
      | create _ _ hdata' hresolved => exact ⟨_, Option.some.inj (hdata.symm.trans hdata') ▸ hresolved⟩
      | update _ hdata' hresolved => exact ⟨_, Option.some.inj (hdata.symm.trans hdata') ▸ hresolved⟩
      | delete hverb' => exact absurd hverb' hverb
    obtain ⟨payload, hresolved⟩ := hresolved
    exact (refs.resolved_eq_ok_iff.1 hresolved).1 token hmem
  · have htarget : ∃ id, refs.target (refer token) = .ok id := by
      cases plan_eq_ok_iff.1 h with
      | create hverb' => exact absurd hverb' hverb
      | update _ _ _ hpath' _ htarget =>
        obtain ⟨-, ⟨⟩⟩ := Path.mk.inj (Except.ok.inj (hpath.symm.trans hpath'))
        exact ⟨_, htarget⟩
      | delete _ hpath' _ htarget =>
        obtain ⟨-, ⟨⟩⟩ := Path.mk.inj (Except.ok.inj (hpath.symm.trans hpath'))
        exact ⟨_, htarget⟩
    obtain ⟨id, htarget⟩ := htarget
    exact Option.isSome_iff_exists.2 ⟨id, refs.target_refer_eq_ok_iff.1 htarget⟩

theorem start_referencesKnown (e : Endpoint σ) (caller : Caller σ) (r : Request) (s : σ)
    (hr : r.check e.limits = .ok ()) (i : Nat) (a : Attempt σ)
    (ha : (e.start caller r s).attempts[i]? = some a) :
    ReferencesKnown e (e.start caller r s).attempts i a := by
  have hnodup : (r.operations.filterMap Operation.name?).Nodup := (Request.check_eq_ok_iff.1 hr).2
  have hentry {j : Nat} {b : Attempt σ} (h : (e.start caller r s).attempts[j]? = some b)
      (name : String) (id : Uuid) : b.Created e name id ↔ b.addition? = some (name, id) :=
    Attempt.created_iff (e.made_of_start h)
  have htable {j : Nat} {b : Attempt σ} (h : (e.start caller r s).attempts[j]? = some b)
      (name : String) (id : Uuid) :
      b.before.refs.get? name = some id ↔ Source e (e.start caller r s).attempts j name id := by
    rw [e.get?_refs_iff hnodup (fun _ _ => rfl) (e.getElem?_trace_of_start h)]
    refine (or_iff_right (by simp)).trans ⟨?_, ?_⟩
    · rintro ⟨k, c, hk, hc, hid⟩
      have hlt : k < (e.start caller r s).attempts.length :=
        Nat.lt_trans hk (List.getElem?_eq_some_iff.1 h).1
      have hc' := List.getElem?_eq_getElem hlt
      obtain rfl := Option.some.inj ((e.getElem?_trace_of_start hc').symm.trans hc)
      exact ⟨k, _, hk, hc', (hentry hc' name id).2 hid⟩
    · rintro ⟨k, c, hk, hc, hid⟩
      exact ⟨k, c, hk, e.getElem?_trace_of_start hc, (hentry hc name id).1 hid⟩
  constructor
  case table => exact htable ha
  case unique =>
    intro name id id' j j' b b' hb hb' hid hid'
    exact index_unique hnodup (e.getElem?_operations_of_start hb)
      (e.getElem?_operations_of_start hb')
      (Attempt.addition?_eq_some_iff.1 ((hentry hb name id).1 hid)).1
      (Attempt.addition?_eq_some_iff.1 ((hentry hb' name id').1 hid')).1
  case kept =>
    intro name id j b hij hb hid
    obtain ⟨k, c, hk, hc⟩ := (htable ha name id).1 hid
    exact (htable hb name id).2 ⟨k, c, Nat.lt_of_lt_of_le hk hij, hc⟩
  case resolves =>
    intro token id
    rw [References.resolve_refer_eq_ok_iff, htable ha]
  case identifies =>
    intro token id
    rw [References.target_refer_eq_ok_iff, htable ha]
  case refused =>
    intro token hm hno
    have hperform := e.perform_of_made (e.made_of_start ha)
    rw [Attempt.failed]
    split
    · rename_i out houtcome
      rw [houtcome] at hperform
      obtain ⟨plan, hplan, -⟩ := e.perform_eq_ok hperform
      obtain ⟨id, hid⟩ := Option.isSome_iff_exists.1 (Operation.isSome_of_meets hplan hm)
      exact absurd ((htable ha token id).1 hid) (hno id)
    · rfl
  case replaced =>
    intro plan payload hplan hpayload
    obtain ⟨data, hdata, hresolved⟩ := Operation.resolved_of_plan hplan hpayload
    obtain ⟨hall, hreplaced⟩ := (References.resolved_eq_ok_iff _).1 hresolved
    refine ⟨data, hdata, hreplaced, ?_, fun text ht => References.token?_of_mem_resolved _ hresolved ht⟩
    intro token ht
    obtain ⟨id, hid⟩ := Option.isSome_iff_exists.1 (hall token ht)
    refine ⟨id, (htable ha token id).1 hid, ?_⟩
    rw [References.replace, (References.resolve_refer_eq_ok_iff _).2 hid]

theorem start_referencesKnown_chain :
    ∃ a, (numbering.start {} chain 7).attempts[1]? = some a ∧
      chain.check numbering.limits = .ok () ∧
      ReferencesKnown numbering (numbering.start {} chain 7).attempts 1 a :=
  ⟨_, rfl, rfl, start_referencesKnown numbering {} chain 7 rfl 1 _ rfl⟩

end Roster.Batch
