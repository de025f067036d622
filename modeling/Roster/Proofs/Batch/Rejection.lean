import Mathlib.Data.List.Forall2
import Roster.Proofs.Batch.Calls
import Roster.Proofs.Batch.Table

namespace Roster.Batch

/-- A creation that gives this name. Others give none, whatever their `bulkId` is, and the empty name is none. -/
structure Operation.Gives (op : Operation) (name : String) : Prop where
  verb : op.verb = .create
  bulkId : op.bulkId = some name
  nonempty : name ≠ ""

theorem Operation.gives_iff {op : Operation} {name : String} : op.Gives name ↔ op.name? = some name :=
  ⟨fun h => name?_eq_some_iff.2 ⟨h.verb, h.bulkId, h.nonempty⟩, fun h =>
    have ⟨verb, bulkId, nonempty⟩ := name?_eq_some_iff.1 h
    ⟨verb, bulkId, nonempty⟩⟩

def Operation.Nameless (op : Operation) : Prop :=
  op.verb ≠ .create ∨ op.bulkId = none ∨ op.bulkId = some ""

theorem Operation.Nameless.name? {op : Operation} (h : op.Nameless) : op.name? = none := by
  cases hname : op.name? with
  | none => rfl
  | some name =>
    have hgives := gives_iff.2 hname
    obtain h | h | h := h
    · exact absurd hgives.verb h
    · simp [hgives.bulkId] at h
    · simp [hgives.bulkId, hgives.nonempty] at h

namespace Request

def Repeats (r : Request) : Prop :=
  ∃ (i j : Nat) (x y : Operation) (name : String),
    i ≠ j ∧ r.operations[i]? = some x ∧ r.operations[j]? = some y ∧ x.Gives name ∧ y.Gives name

def RepeatsAt (r : Request) (i : Nat) (name : String) : Prop :=
  ∃ x, r.operations[i]? = some x ∧ x.Gives name ∧ ∃ j < i, ∃ y, r.operations[j]? = some y ∧ y.Gives name

structure FirstRepeat (r : Request) (i : Nat) (name : String) : Prop where
  repeats : r.RepeatsAt i name
  first : ∀ j < i, ∀ other, ¬ r.RepeatsAt j other

/-- Some operations may differ, as long as neither of them gives a name. -/
def SameNames (r r' : Request) : Prop :=
  List.Forall₂ (fun x y : Operation => x = y ∨ x.Nameless ∧ y.Nameless) r.operations r'.operations

theorem repeated?_eq_some {seen names : List String} {name : String} (h : repeated? seen names = some name) :
    ∃ before after, names = before ++ name :: after ∧ (name ∈ seen ∨ name ∈ before) ∧
      repeated? seen before = none := by
  induction names generalizing seen with
  | nil => simp [repeated?] at h
  | cons first rest ih =>
    rw [repeated?] at h
    split at h
    · rename_i hmem
      cases h
      exact ⟨[], rest, rfl, .inl hmem, rfl⟩
    · rename_i hmem
      obtain ⟨before, after, rfl, hname, hnone⟩ := ih h
      refine ⟨first :: before, after, rfl, ?_, ?_⟩
      · simpa [or_assoc, or_left_comm] using hname
      · rw [repeated?, if_neg hmem, hnone]

theorem RepeatsAt.not_nodup {r : Request} {i : Nat} {name : String} (h : r.RepeatsAt i name) :
    ¬ r.names.Nodup := by
  obtain ⟨x, hx, hgives, j, hj, y, hy, hgives'⟩ := h
  intro hnodup
  exact absurd (index_unique hnodup hy hx (Operation.gives_iff.1 hgives') (Operation.gives_iff.1 hgives))
    (Nat.ne_of_lt hj)

theorem firstRepeat_of_repeated? {r : Request} {name : String} (h : repeated? [] r.names = some name) :
    ∃ i, r.FirstRepeat i name := by
  obtain ⟨before, after, hnames, hname, hnone⟩ := repeated?_eq_some h
  obtain ⟨ops, ops', hops, hbefore, hafter⟩ := List.filterMap_eq_append_iff.1 hnames
  obtain ⟨others, op, rest, rfl, hothers, hop, -⟩ := List.filterMap_eq_cons_iff.1 hafter
  have hmem : name ∈ ops.filterMap Operation.name? := by
    rw [hbefore]
    exact hname.resolve_left List.not_mem_nil
  obtain ⟨y, hy, hgives⟩ := List.mem_filterMap.1 hmem
  obtain ⟨j, hj⟩ := List.getElem?_of_mem hy
  have hlt := (List.getElem?_eq_some_iff.1 hj).1
  -- Before the place that was found all names are different.
  have hnodup : ((ops ++ others).filterMap Operation.name?).Nodup := by
    rw [List.filterMap_append, List.filterMap_eq_nil_iff.2 hothers, List.append_nil, hbefore]
    exact (repeated?_eq_none_iff.1 hnone).1
  refine ⟨(ops ++ others).length, ?_, ?_⟩
  · refine ⟨op, ?_, Operation.gives_iff.2 hop, j, ?_, y, ?_, Operation.gives_iff.2 hgives⟩
    · simp [hops, ← List.append_assoc]
    · rw [List.length_append]
      exact Nat.lt_add_right _ hlt
    · rw [hops, List.getElem?_append_left hlt, hj]
  · rintro k hk other ⟨x, hx, hgives, i, hi, z, hz, hgives'⟩
    have hbelow {n : Nat} (hn : n ≤ k) : r.operations[n]? = (ops ++ others)[n]? := by
      rw [hops, ← List.append_assoc, List.getElem?_append_left (Nat.lt_of_le_of_lt hn hk)]
    rw [hbelow (Nat.le_refl k)] at hx
    rw [hbelow (Nat.le_of_lt hi)] at hz
    exact absurd (index_unique hnodup hz hx (Operation.gives_iff.1 hgives') (Operation.gives_iff.1 hgives))
      (Nat.ne_of_lt hi)

theorem FirstRepeat.unique {r : Request} {i j : Nat} {name other : String} (h : r.FirstRepeat i name)
    (h' : r.FirstRepeat j other) : i = j ∧ name = other := by
  obtain rfl : i = j := by
    rcases Nat.lt_trichotomy i j with hlt | heq | hlt
    · exact absurd h.repeats (h'.first i hlt name)
    · exact heq
    · exact absurd h'.repeats (h.first j hlt other)
  obtain ⟨x, hx, hgives, -⟩ := h.repeats
  obtain ⟨y, hy, hgives', -⟩ := h'.repeats
  obtain rfl := Option.some.inj (hx.symm.trans hy)
  exact ⟨rfl, Option.some.inj (hgives.bulkId.symm.trans hgives'.bulkId)⟩

theorem FirstRepeat.repeated? {r : Request} {i : Nat} {name : String} (h : r.FirstRepeat i name) :
    repeated? [] r.names = some name := by
  cases hfound : Request.repeated? [] r.names with
  | none => exact absurd (repeated?_eq_none_iff.1 hfound).1 h.repeats.not_nodup
  | some other =>
    obtain ⟨j, hj⟩ := firstRepeat_of_repeated? hfound
    rw [(h.unique hj).2]

theorem repeats_iff {r : Request} : r.Repeats ↔ ∃ i name, r.FirstRepeat i name := by
  constructor
  · rintro ⟨i, j, x, y, name, hne, hx, hy, hgives, hgives'⟩
    obtain ⟨k, hk⟩ : ∃ k, r.RepeatsAt k name := by
      rcases Nat.lt_or_gt_of_ne hne with hlt | hlt
      · exact ⟨j, y, hy, hgives', i, hlt, x, hx, hgives⟩
      · exact ⟨i, x, hx, hgives, j, hlt, y, hy, hgives'⟩
    cases hfound : Request.repeated? [] r.names with
    | none => exact absurd (repeated?_eq_none_iff.1 hfound).1 hk.not_nodup
    | some other =>
      obtain ⟨l, hl⟩ := firstRepeat_of_repeated? hfound
      exact ⟨l, other, hl⟩
  · rintro ⟨i, name, ⟨x, hx, hgives, j, hj, y, hy, hgives'⟩, -⟩
    exact ⟨i, j, x, y, name, (Nat.ne_of_lt hj).symm, hx, hy, hgives, hgives'⟩

theorem check_of_tooMany {limits : Limits} {r : Request} (h : limits.maxOperations < r.operations.length) :
    ∃ detail, r.check limits = .error (.badRequest .tooMany detail) := by
  rw [check, if_pos h]
  exact ⟨_, rfl⟩

theorem check_of_firstRepeat {limits : Limits} {r : Request} {i : Nat} {name : String}
    (hle : r.operations.length ≤ limits.maxOperations) (h : r.FirstRepeat i name) :
    r.check limits =
      .error (.badRequest .uniqueness ("bulkId '" ++ name ++ "' is used by more than one create")) := by
  rw [check, if_neg (Nat.not_lt_of_le hle), h.repeated?]

theorem check_eq_error_iff {limits : Limits} {r : Request} :
    (∃ cause, r.check limits = .error cause) ↔
      limits.maxOperations < r.operations.length ∨ r.Repeats := by
  constructor
  · rintro ⟨cause, h⟩
    by_cases hlt : limits.maxOperations < r.operations.length
    · exact .inl hlt
    · rw [check, if_neg hlt] at h
      cases hfound : Request.repeated? [] r.names with
      | none => simp [hfound] at h
      | some name => exact .inr (repeats_iff.2 ((firstRepeat_of_repeated? hfound).imp fun _ hi => ⟨name, hi⟩))
  · rintro (hlt | hrepeats)
    · exact (check_of_tooMany hlt).imp' _ fun _ h => h
    · by_cases hlt : limits.maxOperations < r.operations.length
      · exact (check_of_tooMany hlt).imp' _ fun _ h => h
      · obtain ⟨i, name, h⟩ := repeats_iff.1 hrepeats
        exact ⟨_, check_of_firstRepeat (Nat.le_of_not_lt hlt) h⟩

theorem filterMap_name?_eq {ops ops' : List Operation}
    (h : List.Forall₂ (fun x y : Operation => x = y ∨ x.Nameless ∧ y.Nameless) ops ops') :
    ops'.filterMap Operation.name? = ops.filterMap Operation.name? := by
  induction h with
  | nil => rfl
  | cons hop _ ih =>
    obtain rfl | ⟨hx, hy⟩ := hop
    · rw [List.filterMap_cons, List.filterMap_cons, ih]
    · rw [List.filterMap_cons, List.filterMap_cons, ih, hx.name?, hy.name?]

theorem SameNames.check_eq {r r' : Request} (h : r.SameNames r') (limits : Limits) :
    r'.check limits = r.check limits := by
  have hnames : r'.names = r.names := filterMap_name?_eq h
  have hlength : r.operations.length = r'.operations.length := List.Forall₂.length_eq h
  rw [check, check, hnames, hlength]

end Request

namespace Endpoint

variable {σ : Type} (e : Endpoint σ)

theorem execute_eq_rejected_iff {caller : Caller σ} {r : Request} {s s' : σ} {cause : ProtocolError} :
    e.execute caller r s = (.error (.rejected cause), s') ↔ r.check e.limits = .error cause ∧ s' = s := by
  rw [execute]
  cases h : r.check e.limits with
  | error cause' => simp [eq_comm]
  | ok _ =>
    refine ⟨fun heq => ?_, by simp⟩
    have hanswer : (if (e.start caller r s).cancelled then Except.error Abort.cancelled
        else .ok (⟨(e.start caller r s).attempts.map Attempt.result⟩ : Response)) =
        .error (.rejected cause) := congrArg Prod.fst heq
    split at hanswer <;> simp at hanswer

end Endpoint

/-- When and why a batch is rejected, and that this is all that happens. -/
structure ExactlyRejected {σ : Type} (e : Endpoint σ) (caller : Caller σ) (r : Request) (s : σ) : Prop where
  rejected_iff : (∃ cause s', e.execute caller r s = (.error (.rejected cause), s')) ↔
    e.limits.maxOperations < r.operations.length ∨ r.Repeats
  tooMany : e.limits.maxOperations < r.operations.length →
    ∃ detail, e.execute caller r s = (.error (.rejected (.badRequest .tooMany detail)), s)
  located : r.Repeats → ∃ i name, r.FirstRepeat i name
  named : r.operations.length ≤ e.limits.maxOperations → ∀ i name, r.FirstRepeat i name →
    e.execute caller r s = (.error (.rejected
      (.badRequest .uniqueness ("bulkId '" ++ name ++ "' is used by more than one create"))), s)
  untouched : ∀ cause s', e.execute caller r s = (.error (.rejected cause), s') → s' = s
  uncalled : ∀ cause s', e.execute caller r s = (.error (.rejected cause), s') →
    ∀ (caller : Caller (σ × List Call)) (calls : List Call),
      e.recorded.execute caller r (s, calls) = (.error (.rejected cause), s, calls)
  indifferent : ∀ r', r.SameNames r' → ∀ cause s',
    e.execute caller r' s = (.error (.rejected cause), s') ↔
      e.execute caller r s = (.error (.rejected cause), s')

theorem execute_exactlyRejected {σ : Type} (e : Endpoint σ) (caller : Caller σ) (r : Request) (s : σ) :
    ExactlyRejected e caller r s := by
  constructor
  case rejected_iff =>
    rw [← Request.check_eq_error_iff]
    simp only [e.execute_eq_rejected_iff, exists_and_left, exists_eq, and_true]
  case tooMany =>
    intro h
    obtain ⟨detail, hcheck⟩ := Request.check_of_tooMany h
    exact ⟨detail, e.execute_eq_rejected_iff.2 ⟨hcheck, rfl⟩⟩
  case located =>
    exact Request.repeats_iff.1
  case named =>
    intro hle i name h
    exact e.execute_eq_rejected_iff.2 ⟨Request.check_of_firstRepeat hle h, rfl⟩
  case untouched =>
    intro cause s' h
    exact (e.execute_eq_rejected_iff.1 h).2
  case uncalled =>
    intro cause s' h caller calls
    have hcheck : r.check e.recorded.limits = .error cause := (e.execute_eq_rejected_iff.1 h).1
    exact e.recorded.execute_eq_rejected_iff.2 ⟨hcheck, rfl⟩
  case indifferent =>
    intro r' h cause s'
    rw [e.execute_eq_rejected_iff, e.execute_eq_rejected_iff, h.check_eq]

-- The second name is the first to come back, and the update before it gives none.
example : numbering.execute {} ⟨none, [.create "a" "Things" .null, .create "b" "Things" .null,
      { Operation.update "Things/a" .null with bulkId := some "a" },
      .create "b" "Things" .null, .create "a" "Things" .null]⟩ 7 =
    (.error (.rejected (.badRequest .uniqueness "bulkId 'b' is used by more than one create")), 7) := rfl

end Roster.Batch
