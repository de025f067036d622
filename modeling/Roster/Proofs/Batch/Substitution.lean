import Roster.Proofs.Batch.Locality
import Roster.Proofs.Json.Leaves

/-! What resolving a payload leaves behind.  It goes through the texts in the order of their places, puts identifiers in
the place of references, and stops at the first one that refers to nothing. -/

namespace Roster.Batch.References

open Json (Leaf Place)

variable (refs : References)

inductive Replaces : Leaf → Leaf → Prop
  | reference {p : Place} {token : String} {id : Uuid} :
    refs.get? token = some id → Replaces (p, refer token) (p, id.text)
  | other {p : Place} {s : String} : (∀ token, s ≠ refer token) → Replaces (p, s) (p, s)

inductive Walk : List Leaf → List Leaf → Except ProtocolError Unit → Prop
  | done : Walk [] [] (.ok ())
  | pass {l l' : Leaf} {ls ls' : List Leaf} {outcome : Except ProtocolError Unit} :
    refs.Replaces l l' → Walk ls ls' outcome → Walk (l :: ls) (l' :: ls') outcome
  | stop {p : Place} {token : String} (ls : List Leaf) :
    refs.get? token = none → Walk ((p, refer token) :: ls) ((p, refer token) :: ls) (.error (unknown token))

/-- The first reference among some texts that refers to nothing, and what stands before and after it. -/
structure FirstUnknown (ls done : List Leaf) (p : Place) (token : String) (rest : List Leaf) : Prop where
  split : ls = done ++ (p, refer token) :: rest
  known : ∀ p' token', (p', refer token') ∈ done → (refs.get? token').isSome
  unknown : refs.get? token = none

variable {refs} {ls ls' ms ms' done rest : List Leaf} {outcome : Except ProtocolError Unit}

theorem Replaces.under {l l' : Leaf} (step : Json.Step) (h : refs.Replaces l l') :
    refs.Replaces (l.under step) (l'.under step) := by
  cases h with
  | reference h => exact .reference h
  | other h => exact .other h

theorem Replaces.isSome {l l' : Leaf} {token : String} (h : refs.Replaces l l') (hl : l.2 = refer token) :
    (refs.get? token).isSome := by
  cases h with
  | reference h => exact refer_injective hl ▸ Option.isSome_of_eq_some h
  | other h => exact absurd hl (h token)

namespace Walk

theorem under (step : Json.Step) (h : refs.Walk ls ls' outcome) :
    refs.Walk (ls.map (Leaf.under step)) (ls'.map (Leaf.under step)) outcome := by
  induction h with
  | done => exact .done
  | pass hl _ ih => exact .pass (hl.under step) ih
  | stop ls h => exact .stop _ h

theorem append (h : refs.Walk ls ls' (.ok ())) (h' : refs.Walk ms ms' outcome) :
    refs.Walk (ls ++ ms) (ls' ++ ms') outcome := by
  generalize hok : Except.ok () = o at h
  induction h with
  | done => exact h'
  | pass hl _ ih => exact .pass hl (ih hok)
  | stop => cases hok

theorem append_of_error {cause : ProtocolError} (h : refs.Walk ls ls' (.error cause)) (ms : List Leaf) :
    refs.Walk (ls ++ ms) (ls' ++ ms) (.error cause) := by
  generalize herror : Except.error cause = o at h
  induction h with
  | done => cases herror
  | pass hl _ ih => exact .pass hl (ih herror)
  | stop ls h => exact .stop _ h

theorem complete (h : refs.Walk ls ls' outcome)
    (hknown : ∀ p token, (p, refer token) ∈ ls → (refs.get? token).isSome) :
    outcome = .ok () ∧ List.Forall₂ refs.Replaces ls ls' := by
  induction h with
  | done => exact ⟨rfl, .nil⟩
  | pass hl _ ih =>
    obtain ⟨houtcome, hall⟩ := ih fun p token hm => hknown p token (List.mem_cons_of_mem _ hm)
    exact ⟨houtcome, .cons hl hall⟩
  | stop ls h =>
    have := hknown _ _ List.mem_cons_self
    simp [h] at this

theorem located (h : refs.Walk ls ls' outcome) {p : Place} {token : String} (hmem : (p, refer token) ∈ ls)
    (hunknown : refs.get? token = none) : ∃ done p token rest, refs.FirstUnknown ls done p token rest := by
  induction h with
  | done => cases hmem
  | @pass l l' ls ls' outcome hl _ ih =>
    rcases List.mem_cons.1 hmem with rfl | hmem
    · have := hl.isSome rfl
      simp [hunknown] at this
    · obtain ⟨done, p, token, rest, hfirst⟩ := ih hmem
      refine ⟨l :: done, p, token, rest, congrArg (l :: ·) hfirst.split, ?_, hfirst.unknown⟩
      intro p' token' hm
      rcases List.mem_cons.1 hm with rfl | hm
      · exact hl.isSome rfl
      · exact hfirst.known p' token' hm
  | stop ls h => exact ⟨[], _, _, ls, rfl, by simp, h⟩

theorem stopped {p : Place} {token : String} (h : refs.Walk ls ls' outcome)
    (hfirst : refs.FirstUnknown ls done p token rest) :
    outcome = .error (unknown token) ∧
      ∃ done', ls' = done' ++ (p, refer token) :: rest ∧ List.Forall₂ refs.Replaces done done' := by
  obtain ⟨hsplit, hknown, hunknown⟩ := hfirst
  induction done generalizing ls ls' with
  | nil =>
    cases h with
    | done => simp at hsplit
    | pass hreplaces _ =>
      have := hreplaces.isSome (congrArg Prod.snd (List.cons.inj hsplit).1)
      simp [hunknown] at this
    | stop ls h =>
      obtain ⟨heq, rfl⟩ := List.cons.inj hsplit
      obtain rfl := refer_injective (congrArg Prod.snd heq)
      exact ⟨rfl, [], congrArg (· :: ls) heq, .nil⟩
  | cons l done ih =>
    rw [List.cons_append] at hsplit
    subst hsplit
    cases h with
    | pass hl hrest =>
      obtain ⟨houtcome, done', rfl, hall⟩ :=
        ih hrest rfl fun p token hm => hknown p token (List.mem_cons_of_mem _ hm)
      exact ⟨houtcome, _ :: done', rfl, .cons hl hall⟩
    | stop _ h =>
      have := hknown _ _ List.mem_cons_self
      simp [h] at this

end Walk

variable (refs)

structure Passed (v w : Json) (outcome : Except ProtocolError Unit) : Prop where
  frame : w.frame = v.frame
  walk : refs.Walk v.leaves w.leaves outcome

theorem passed_items {items : List Json}
    (h : ∀ v ∈ items, refs.Passed v (refs.substitute v).1 (refs.substitute v).2) (n : Nat) :
    (refs.substituteItems items).1.map Json.frame = items.map Json.frame ∧
      refs.Walk (Json.leavesOfItems n items) (Json.leavesOfItems n (refs.substituteItems items).1)
        (refs.substituteItems items).2 := by
  induction items generalizing n with
  | nil => exact ⟨rfl, .done⟩
  | cons v rest ih =>
    have hv := h v List.mem_cons_self
    obtain ⟨hframe, hwalk⟩ := ih (fun w hw => h w (List.mem_cons_of_mem _ hw)) (n + 1)
    rw [substituteItems]
    rcases hs : refs.substitute v with ⟨w, cause | _⟩ <;> rw [hs] at hv
    · exact ⟨congrArg (· :: rest.map Json.frame) hv.frame, (hv.walk.under _).append_of_error _⟩
    · refine ⟨?_, (hv.walk.under _).append hwalk⟩
      rw [List.map_cons, List.map_cons, hframe]
      exact congrArg (· :: rest.map Json.frame) hv.frame

theorem passed_members {members : List (String × Json)}
    (h : ∀ m ∈ members, refs.Passed m.2 (refs.substitute m.2).1 (refs.substitute m.2).2) :
    (refs.substituteMembers members).1.map (fun m => (m.1, m.2.frame)) =
        members.map (fun m => (m.1, m.2.frame)) ∧
      refs.Walk (Json.leavesOfMembers members) (Json.leavesOfMembers (refs.substituteMembers members).1)
        (refs.substituteMembers members).2 := by
  induction members with
  | nil => exact ⟨rfl, .done⟩
  | cons m rest ih =>
    obtain ⟨k, v⟩ := m
    have hv := h (k, v) List.mem_cons_self
    obtain ⟨hframe, hwalk⟩ := ih fun m hm => h m (List.mem_cons_of_mem _ hm)
    rw [substituteMembers]
    rcases hs : refs.substitute v with ⟨w, cause | _⟩ <;> rw [hs] at hv
    · exact ⟨congrArg (fun f => (k, f) :: rest.map _) hv.frame, (hv.walk.under _).append_of_error _⟩
    · refine ⟨?_, (hv.walk.under _).append hwalk⟩
      rw [List.map_cons, List.map_cons, hframe]
      exact congrArg (fun f => (k, f) :: rest.map _) hv.frame

theorem passed_string (s : String) :
    refs.Passed (.string s) (refs.substitute (.string s)).1 (refs.substitute (.string s)).2 := by
  cases h : token? s with
  | none =>
    rw [substitute, resolve_of_token?_eq_none refs h]
    exact ⟨rfl, .pass (.other (token?_eq_none_iff.1 h)) .done⟩
  | some token =>
    obtain rfl := token?_eq_some_iff.1 h
    rw [substitute, resolve_refer]
    cases hid : refs.get? token with
    | none => exact ⟨rfl, .stop [] hid⟩
    | some id => exact ⟨rfl, .pass (.reference hid) .done⟩

theorem substitute_passed (v : Json) : refs.Passed v (refs.substitute v).1 (refs.substitute v).2 := by
  induction v with
  | null => exact ⟨rfl, .done⟩
  | bool b => exact ⟨rfl, .done⟩
  | number x => exact ⟨rfl, .done⟩
  | string s => exact refs.passed_string s
  | array items ih =>
    obtain ⟨hframe, hwalk⟩ := refs.passed_items ih 0
    rw [substitute]
    refine ⟨?_, hwalk⟩
    rw [Json.frame_array, Json.frame_array, hframe]
  | object members ih =>
    obtain ⟨hframe, hwalk⟩ := refs.passed_members ih
    rw [substitute]
    refine ⟨?_, hwalk⟩
    rw [Json.frame_object, Json.frame_object, hframe]

/-- What is left of a value, and whether all of it was gone through. -/
structure ExactlySubstituted (v w : Json) (outcome : Except ProtocolError Unit) : Prop where
  ascending : v.Sorted → v.leaves.Pairwise fun l m => Place.Before l.1 m.1
  frame : w.frame = v.frame
  complete : (∀ token, refer token ∈ v.texts → (refs.get? token).isSome) →
    outcome = .ok () ∧ List.Forall₂ refs.Replaces v.leaves w.leaves
  located : ∀ token, refer token ∈ v.texts → refs.get? token = none →
    ∃ done p token rest, refs.FirstUnknown v.leaves done p token rest
  stopped : ∀ done p token rest, refs.FirstUnknown v.leaves done p token rest →
    outcome = .error (.badRequest .invalidValue ("bulkId '" ++ token ++
        "' does not refer to a resource created earlier in this batch")) ∧
      ∃ done', w.leaves = done' ++ (p, refer token) :: rest ∧ List.Forall₂ refs.Replaces done done'

theorem substitute_exactlySubstituted (v : Json) :
    refs.ExactlySubstituted v (refs.substitute v).1 (refs.substitute v).2 where
  ascending := Json.Sorted.leaves_ascending
  frame := (refs.substitute_passed v).frame
  complete hknown := (refs.substitute_passed v).walk.complete fun p token h =>
    hknown token (Json.mem_texts_iff.2 ⟨p, h⟩)
  located token hmem hunknown := by
    obtain ⟨p, hleaf⟩ := Json.mem_texts_iff.1 hmem
    exact (refs.substitute_passed v).walk.located hleaf hunknown
  stopped _ _ _ _ hfirst := (refs.substitute_passed v).walk.stopped hfirst

-- The second reference refers to nothing; the third one is not looked at.
example : substitute ⟨[("a", ⟨.ofNat 128 1⟩)]⟩ (.object [("x", .array [.string "placeholder-ref:a",
      .string "placeholder-ref:b"]), ("y", .string "placeholder-ref:a")]) =
    (.object [("x", .array [.string "00000000-0000-0000-0000-000000000001",
      .string "placeholder-ref:b"]), ("y", .string "placeholder-ref:a")], .error (unknown "b")) := by decide

/-- What has been resolved refers to nothing, and a resolution looks at nothing but the tokens of the value. -/
structure Settled (v : Json) : Prop where
  idempotent : (refs.substitute v).2 = .ok () → ∀ refs' : References,
    refs'.substitute (refs.substitute v).1 = ((refs.substitute v).1, .ok ())
  determined : ∀ refs' : References, (∀ token, refer token ∈ v.texts → refs.get? token = refs'.get? token) →
    refs'.substitute v = refs.substitute v
  kept : (refs.substitute v).2 = .ok () → ∀ refs' : References,
    (∀ token id, refs.get? token = some id → refs'.get? token = some id) →
    refs'.substitute v = refs.substitute v

theorem substitute_eq_self {v : Json} (h : ∀ s ∈ v.texts, token? s = none) :
    refs.substitute v = (v, .ok ()) := by
  have hresolve (s : String) (hs : s ∈ v.texts) : refs.resolve s = .ok none :=
    resolve_of_token?_eq_none refs (h s hs)
  have hnone : v.texts.findSome? refs.refusal? = none :=
    List.findSome?_eq_none_iff.2 fun s hs => by rw [refusal?, hresolve s hs]
  have hself : v.mapTexts refs.replace = v :=
    Json.mapTexts_eq_self fun s hs => by rw [replace, hresolve s hs]
  have hspec := refs.substitute_spec v
  rw [hnone, hself] at hspec
  exact hspec

theorem resolved_of_substitute {v : Json} (h : (refs.substitute v).2 = .ok ()) :
    refs.resolved v = .ok (refs.substitute v).1 := by
  rw [resolved]
  generalize refs.substitute v = out at h
  obtain ⟨w, _⟩ := out
  cases h
  rfl

theorem substitute_settled (v : Json) : refs.Settled v := by
  constructor
  case idempotent =>
    intro hok refs'
    exact refs'.substitute_eq_self fun s hs => refs.token?_of_mem_resolved (refs.resolved_of_substitute hok) hs
  case determined =>
    intro refs' hagree
    exact (substitute_congr hagree).symm
  case kept =>
    intro hok refs' hextends
    have hknown := (refs.resolved_eq_ok_iff.1 (refs.resolved_of_substitute hok)).1
    refine (substitute_congr fun token ht => ?_).symm
    obtain ⟨id, hid⟩ := Option.isSome_iff_exists.1 (hknown token ht)
    rw [hid, hextends token id hid]

end Roster.Batch.References
