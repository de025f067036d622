import Mathlib.Data.List.Forall2
import Roster.Proofs.Batch.Path
import Roster.Proofs.Batch.Run

namespace Roster.Batch

variable {σ : Type}

inductive Path.SameButSlash : String → String → Prop
  | same (s : String) : SameButSlash s s
  | added {s : String} : s.toList.head? ≠ some '/' → SameButSlash s ("/" ++ s)
  | removed {s : String} : s.toList.head? ≠ some '/' → SameButSlash ("/" ++ s) s

/-- Operations that differ only in what they have no use for: the version, the spelling of the method, the name of what is
not created, and the data of a deletion. -/
structure Operation.Alike (op op' : Operation) : Prop where
  verb : op.verb = op'.verb
  bulkId : op.verb = .create → op.bulkId = op'.bulkId
  path : Path.SameButSlash op.path op'.path
  data : op.verb ≠ .delete → op.data = op'.data

structure Request.Alike (r r' : Request) : Prop where
  budget : r.budget = r'.budget
  operations : List.Forall₂ Operation.Alike r.operations r'.operations

inductive Quoted (method path method' path' : String) : String → String → Prop
  | same (text : String) : Quoted method path method' path' text text
  | method (before after : String) :
    Quoted method path method' path' (before ++ method ++ after) (before ++ method' ++ after)
  | path (before after : String) :
    Quoted method path method' path' (before ++ path ++ after) (before ++ path' ++ after)

inductive Operation.Refused (op op' : Operation) : ProtocolError → ProtocolError → Prop
  | same (cause : ProtocolError) : Refused op op' cause cause
  | quoted (keyword : Keyword) {detail detail' : String} :
    Quoted op.method.name op.path op'.method.name op'.path detail detail' →
    Refused op op' (.badRequest keyword detail) (.badRequest keyword detail')

structure Result.Alike (x x' : Result) : Prop where
  status : x.status = x'.status
  location : x.location = x'.location
  error : Option.Rel (fun body body' => body' = { body with detail := body'.detail } ∧
    Quoted x.method.name x.path x'.method.name x'.path body.detail body'.detail) x.error x'.error

structure Attempt.Alike (a a' : Attempt σ) : Prop where
  op : a.op.Alike a'.op
  before : a.before = a'.before
  state : a.state = a'.state
  outcome : Except.Matched (a.op.Refused a'.op) a.outcome a'.outcome
  after : a.after = a'.after

structure Run.Alike (run run' : Run σ) : Prop where
  attempts : List.Forall₂ Attempt.Alike run.attempts run'.attempts
  cancelled : run.cancelled = run'.cancelled
  state : run.state = run'.state

inductive Answered : Except Abort Response → Except Abort Response → Prop
  | aborted (cause : Abort) : Answered (.error cause) (.error cause)
  | results {results results' : List Result} : List.Forall₂ Result.Alike results results' →
    Answered (.ok ⟨results⟩) (.ok ⟨results'⟩)

namespace Path

theorem SameButSlash.trimSlash_eq {s s' : String} (h : SameButSlash s s') :
    trimSlash s.toList = trimSlash s'.toList := by
  have hslash (s : String) : trimSlash ("/" ++ s).toList = s.toList := by
    rw [String.toList_append]
    rfl
  cases h with
  | same => rfl
  | added hs => rw [hslash, trimSlash_of_head?_ne hs]
  | removed hs => rw [hslash, trimSlash_of_head?_ne hs]

theorem SameButSlash.parse {s s' : String} (h : SameButSlash s s') {R : ProtocolError → ProtocolError → Prop}
    (hR : R (malformed s) (malformed s')) : Except.Matched R (parse s) (parse s') := by
  rw [Path.parse, Path.parse, ← h.trimSlash_eq]
  cases Text.pieces '/' (trimSlash s.toList) with
  | nil => exact .error hR
  | cons segment rest =>
    cases rest with
    | nil => exact .ite hR _
    | cons identifier rest =>
      cases rest with
      | nil => exact .ite hR _
      | cons => exact .error hR

end Path

namespace Operation

variable {op op' : Operation}

theorem Refused.method (keyword : Keyword) (after : String) :
    op.Refused op' (.badRequest keyword (op.method.name ++ after)) (.badRequest keyword (op'.method.name ++ after)) := by
  have hquoted : Quoted op.method.name op.path op'.method.name op'.path
    ("" ++ op.method.name ++ after) ("" ++ op'.method.name ++ after) := .method "" after
  rw [String.empty_append, String.empty_append] at hquoted
  exact .quoted keyword hquoted

theorem Refused.path (keyword : Keyword) (before after : String) :
    op.Refused op' (.badRequest keyword (before ++ op.path ++ after)) (.badRequest keyword (before ++ op'.path ++ after)) :=
  .quoted keyword (.path before after)

theorem Refused.refl {α : Type} (x : Except ProtocolError α) : Except.Matched (op.Refused op') x x :=
  .refl .same x

variable (h : op.Alike op')

include h

theorem Alike.name? : op.name? = op'.name? := by
  rw [Operation.name?, Operation.name?, ← h.verb]
  split
  · rename_i hverb
    rw [h.bulkId hverb]
  · rfl

theorem Alike.requireName : op.requireName = op'.requireName := by
  rw [Operation.requireName, Operation.requireName, h.verb, h.name?]

theorem Alike.requireData : Except.Matched (op.Refused op') op.requireData op'.requireData := by
  rw [Operation.requireData, Operation.requireData, ← h.verb]
  cases hverb : op.verb with
  | delete => exact .ok none
  | create | update =>
    rw [← h.data (by simp [hverb])]
    cases op.data with
    | some data => exact .ok (some data)
    | none => exact .error (.method _ _)

theorem Alike.address (refs : References) (identifier : Option String) (payload : Option Json) :
    Except.Matched (op.Refused op') (op.address refs identifier payload) (op'.address refs identifier payload) := by
  unfold Operation.address
  rw [← h.verb]
  cases op.verb with
  | create =>
    cases identifier with
    | none =>
      cases payload with
      | none => exact .error (.path _ _ _)
      | some => exact Refused.refl _
    | some => exact .error (.path _ _ _)
  | update | delete =>
    cases identifier with
    | none => exact .error (.path _ _ _)
    | some => cases payload <;> exact Refused.refl _

theorem Alike.plan (registry : Registry σ) (refs : References) :
    Except.Matched (op.Refused op') (op.plan registry refs) (op'.plan registry refs) := by
  rw [plan_eq_bind, plan_eq_bind, ← h.requireName]
  refine h.requireData.bind fun data => (Refused.refl _).bind fun _ => (Refused.refl _).bind fun payload => ?_
  refine (h.path.parse (.path _ _ _)).bind fun path => (Refused.refl _).bind fun entry => ?_
  exact (h.address refs path.identifier payload).bind fun dispatch => Refused.refl _

end Operation

namespace Attempt

variable {a a' : Attempt σ} (h : a.Alike a')

include h

theorem Alike.progress : a.progress = a'.progress := by
  obtain ⟨op, before, s, outcome, after⟩ := a
  obtain ⟨op', before', s', outcome', after'⟩ := a'
  obtain ⟨hop, rfl, rfl, houtcome, rfl⟩ := h
  cases houtcome with
  | ok done => simp only [Attempt.progress, Operation.remember, hop.name?]
  | error => rfl

theorem Alike.exhausts (budget : UInt32) : a.exhausts budget = a'.exhausts budget := by
  have hfailed : a.failed = a'.failed := by
    have houtcome := h.outcome
    rw [failed, failed]
    generalize a.outcome = x, a'.outcome = x' at houtcome
    cases houtcome <;> rfl
  rw [Attempt.exhausts, Attempt.exhausts, hfailed, h.progress]

theorem Alike.result : a.result.Alike a'.result := by
  obtain ⟨op, before, s, outcome, after⟩ := a
  obtain ⟨op', before', s', outcome', after'⟩ := a'
  obtain ⟨hop, rfl, rfl, houtcome, rfl⟩ := h
  cases houtcome with
  | ok done => exact ⟨rfl, rfl, .none⟩
  | error hcause =>
    cases hcause with
    | same cause => exact ⟨rfl, rfl, .some ⟨rfl, .same _⟩⟩
    | quoted keyword hquoted => exact ⟨rfl, rfl, .some ⟨rfl, hquoted⟩⟩

end Attempt

namespace Endpoint

variable (e : Endpoint σ) {op op' : Operation}

theorem attempt_alike (h : op.Alike op') (p : Progress) (s : σ) : (e.attempt op p s).Alike (e.attempt op' p s) := by
  have hplan := h.plan e.registry p.refs
  rw [attempt, attempt, perform, perform]
  generalize op.plan e.registry p.refs = x, op'.plan e.registry p.refs = x' at hplan
  cases hplan with
  | error hcause => exact ⟨h, rfl, rfl, .error hcause, rfl⟩
  | ok plan => exact ⟨h, rfl, rfl, Operation.Refused.refl _, rfl⟩

theorem run_alike {ops ops' : List Operation} (h : List.Forall₂ Operation.Alike ops ops') (caller : Caller σ)
    (budget : UInt32) (n : Nat) (p : Progress) (s : σ) :
    (e.run caller budget n ops p s).Alike (e.run caller budget n ops' p s) := by
  induction h generalizing n p s with
  | nil => exact ⟨.nil, rfl, rfl⟩
  | cons hop _ ih =>
    have ha := e.attempt_alike hop p s
    -- Both attempts exhaust the budget or none of them does, and what comes next starts from one table and one state.
    rw [run_cons, run_cons, ← ha.exhausts, ← ha.progress, ← ha.after]
    split
    · exact ⟨.nil, rfl, rfl⟩
    · split
      · exact ⟨.cons ha .nil, rfl, rfl⟩
      · obtain ⟨hattempts, hcancelled, hstate⟩ := ih (n + 1) (e.attempt _ p s).progress (e.attempt _ p s).after
        exact ⟨.cons ha hattempts, hcancelled, hstate⟩

end Endpoint

theorem Request.Alike.check {r r' : Request} (h : r.Alike r') (limits : Limits) : r.check limits = r'.check limits := by
  have hnames : r.operations.map Operation.name? = r'.operations.map Operation.name? := by
    rw [← List.forall₂_eq_eq_eq, List.forall₂_map_left_iff, List.forall₂_map_right_iff]
    exact h.operations.imp fun _ _ hop => hop.name?
  have hsame : r.names = r'.names := by
    rw [names, names, ← Function.id_comp Operation.name?, ← List.filterMap_map, hnames, List.filterMap_map]
  rw [Request.check, Request.check, h.operations.length_eq, hsame]

namespace Endpoint

variable (e : Endpoint σ)

/-- The batches are run in the same way, from the same state to the same state. -/
structure Indifferent (caller : Caller σ) (r r' : Request) (s : σ) : Prop where
  checked : r.check e.limits = r'.check e.limits
  attempted : (e.start caller r s).Alike (e.start caller r' s)
  answered : Answered (e.execute caller r s).1 (e.execute caller r' s).1
  state : (e.execute caller r s).2 = (e.execute caller r' s).2

theorem execute_indifferent (caller : Caller σ) {r r' : Request} (h : r.Alike r') (s : σ) :
    e.Indifferent caller r r' s := by
  have hcheck := h.check e.limits
  have hrun : (e.start caller r s).Alike (e.start caller r' s) := by
    rw [start, start, ← h.budget]
    exact e.run_alike h.operations caller r.budget 0 {} s
  have hexecuted : Answered (e.execute caller r s).1 (e.execute caller r' s).1 ∧
      (e.execute caller r s).2 = (e.execute caller r' s).2 := by
    rw [execute, execute, ← hcheck]
    cases r.check e.limits with
    | error cause => exact ⟨.aborted (.rejected cause), rfl⟩
    | ok =>
      refine ⟨?_, hrun.state⟩
      dsimp only
      rw [← hrun.cancelled]
      split
      · exact .aborted .cancelled
      · refine .results ?_
        rw [List.forall₂_map_left_iff, List.forall₂_map_right_iff]
        exact hrun.attempts.imp fun _ _ ha => ha.result
  exact ⟨hcheck, hrun, hexecuted.1, hexecuted.2⟩

end Endpoint

def rephrased : Request where
  errorBudget := some 1
  operations := [⟨⟨"create", .create, rfl⟩, some "a", "/Things", some (.object []), some "1"⟩,
    ⟨⟨"Patch", .update, rfl⟩, some "b", "/Things/placeholder-ref:a",
      some (.object [("next", .string "placeholder-ref:a")]), none⟩,
    ⟨⟨"delete", .delete, rfl⟩, some "b", "Things/placeholder-ref:b", some (.string "placeholder-ref:c"), none⟩,
    .delete "/Things/placeholder-ref:a",
    .create "b" "Things" (.object [])]

theorem execute_indifferent_rephrased : chain.Alike rephrased ∧ numbering.Indifferent {} chain rephrased 7 := by
  have halike : chain.Alike rephrased :=
    ⟨rfl, .cons ⟨rfl, fun _ => rfl, .added (by decide), fun _ => rfl⟩ <|
      .cons ⟨rfl, nofun, .same _, fun _ => rfl⟩ <|
      .cons ⟨rfl, nofun, .same _, fun h => absurd rfl h⟩ <|
      .cons ⟨rfl, nofun, .added (by decide), fun _ => rfl⟩ <|
      .cons ⟨rfl, fun _ => rfl, .same _, fun _ => rfl⟩ .nil⟩
  exact ⟨halike, numbering.execute_indifferent {} halike 7⟩

end Roster.Batch
