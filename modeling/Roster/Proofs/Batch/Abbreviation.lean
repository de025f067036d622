import Mathlib.Data.List.Forall2
import Roster.Proofs.Batch.Path
import Roster.Proofs.Batch.Reference
import Roster.Proofs.Batch.Table

/-! References only abbreviate.  A batch whose references are replaced by what they stand for runs in the same way. -/

namespace Roster.Batch

theorem References.target_replace (refs : References) (s : String) :
    refs.target (refs.replace s) = refs.target s := by
  rcases h : refs.resolve s with cause | _ | id
  · rw [replace, h]
  · rw [replace, h]
  · rw [refs.target_of_resolve h, replace, h]
    exact refs.target_text id

theorem References.isPart_replace (refs : References) {s : String} (h : Path.IsPart s) :
    Path.IsPart (refs.replace s) := by
  rw [replace]
  split
  · exact Path.isPart_text _
  · exact h

def Path.expand (refs : References) (p : Path) : Path :=
  { p with identifier := p.identifier.map refs.replace }

theorem Path.WellFormed.expand {p : Path} (h : p.WellFormed) (refs : References) :
    (p.expand refs).WellFormed := by
  refine ⟨h.1, fun i hi => ?_⟩
  obtain ⟨raw, hraw, rfl⟩ := Option.mem_map.1 hi
  exact refs.isPart_replace (h.2 raw hraw)

namespace Operation

variable (refs : References) (op : Operation)

def expandPath : String :=
  match op.verb, Path.parse op.path with
  | .create, _ | _, .error _ => op.path
  | _, .ok p => Path.lead op.path ++ (p.expand refs).text

def expand : Operation := { op with path := op.expandPath refs, data := op.data.map refs.expand }

@[simp] theorem verb_expand : (op.expand refs).verb = op.verb := rfl

variable {refs op}

theorem path_expand_of_create (h : op.verb = .create) : (op.expand refs).path = op.path := by
  rw [expand, expandPath, h]

theorem path_expand_of_error {cause : ProtocolError} (h : Path.parse op.path = .error cause) :
    (op.expand refs).path = op.path := by
  rw [expand, expandPath, h]
  cases op.verb <;> rfl

theorem path_expand_of_ok {p : Path} (hverb : op.verb ≠ .create) (h : Path.parse op.path = .ok p) :
    (op.expand refs).path = Path.lead op.path ++ (p.expand refs).text := by
  rw [expand, expandPath, h]
  cases hv : op.verb with
  | create => exact absurd hv hverb
  | update => rfl
  | delete => rfl

theorem path_expand_of_segment {segment : String} (h : Path.parse op.path = .ok ⟨segment, none⟩) :
    (op.expand refs).path = op.path := by
  by_cases hverb : op.verb = .create
  · exact path_expand_of_create hverb
  · rw [path_expand_of_ok hverb h]
    exact (Path.eq_lead_append_text h).2.symm

theorem parse_path_expand {p : Path} (hverb : op.verb ≠ .create) (h : Path.parse op.path = .ok p) :
    Path.parse (op.expand refs).path = .ok (p.expand refs) := by
  rw [path_expand_of_ok hverb h]
  exact Path.parse_lead_append ((Path.eq_lead_append_text h).1.expand refs) op.path

theorem address_expand {p : Path} (hverb : op.verb ≠ .create) (h : Path.parse op.path = .ok p)
    (payload : Option Json) :
    (op.expand refs).address refs (p.expand refs).identifier payload =
      op.address refs p.identifier payload := by
  obtain ⟨segment, _ | raw⟩ := p
  · simp only [address, verb_expand, path_expand_of_segment h, Path.expand, Option.map_none]
  · simp only [address, verb_expand, Path.expand, Option.map_some]
    cases hv : op.verb with
    | create => exact absurd hv hverb
    | update => cases payload <;> simp only [refs.target_replace]
    | delete => simp only [refs.target_replace]

theorem address_expand_of_create (hverb : op.verb = .create) (identifier : Option String)
    (payload : Option Json) :
    (op.expand refs).address refs identifier payload = op.address refs identifier payload := by
  simp only [address, verb_expand, path_expand_of_create hverb]

theorem requireData_expand : (op.expand refs).requireData = op.requireData.map (·.map refs.expand) := by
  rw [requireData, requireData, verb_expand, expand]
  cases op.verb <;> cases op.data <;> rfl

theorem mapM_resolved_expand (data : Option Json) :
    (data.map refs.expand).mapM refs.resolved = data.mapM refs.resolved := by
  cases data with
  | none => rfl
  | some v =>
    rw [Option.map_some, Option.mapM_some, Option.mapM_some, refs.resolved_expand]

theorem plan_expand {σ : Type} (registry : Registry σ) :
    (op.expand refs).plan registry refs = op.plan registry refs := by
  have hname : (op.expand refs).requireName = op.requireName := rfl
  rw [plan_eq_bind, plan_eq_bind, requireData_expand, hname]
  cases op.requireData with
  | error cause => rfl
  | ok data =>
    apply congrArg (op.requireName >>= ·)
    funext _
    rw [mapM_resolved_expand]
    apply congrArg (data.mapM refs.resolved >>= ·)
    funext payload
    cases hparse : Path.parse op.path with
    | error cause => rw [path_expand_of_error hparse, hparse]; rfl
    | ok p =>
      by_cases hverb : op.verb = .create
      · rw [path_expand_of_create hverb, hparse]
        simp only [address_expand_of_create hverb]
      · rw [parse_path_expand hverb hparse]
        apply congrArg (registry.resolve p.segment >>= ·)
        funext entry
        rw [address_expand hverb hparse]
        rfl

end Operation

def Attempt.expand {σ : Type} (a : Attempt σ) : Attempt σ := { a with op := a.op.expand a.before.refs }

def Result.SameButPath (x x' : Result) : Prop := x' = { x with path := x'.path }

namespace Attempt

variable {σ : Type} (a : Attempt σ)

@[simp] theorem progress_expand : a.expand.progress = a.progress := rfl

@[simp] theorem exhausts_expand (budget : UInt32) : a.expand.exhausts budget = a.exhausts budget := rfl

theorem sameButPath_expand : a.result.SameButPath a.expand.result := by
  obtain ⟨op, before, s, outcome, after⟩ := a
  cases outcome <;> rfl

end Attempt

namespace Endpoint

variable {σ : Type} (e : Endpoint σ)

theorem perform_expand (op : Operation) (refs : References) (s : σ) :
    e.perform (op.expand refs) refs s = e.perform op refs s := by
  rw [perform, perform, Operation.plan_expand]

theorem attempt_expand (op : Operation) (p : Progress) (s : σ) :
    e.attempt (op.expand p.refs) p s = (e.attempt op p s).expand := by
  rw [attempt, perform_expand]
  rfl

def unabbreviated (run : Run σ) (ops : List Operation) : List Operation :=
  run.attempts.map (fun a => a.op.expand a.before.refs) ++ ops.drop run.attempts.length

theorem unabbreviated_cons (a : Attempt σ) (run : Run σ) (op : Operation) (ops : List Operation) :
    unabbreviated (run.cons a) (op :: ops) = a.op.expand a.before.refs :: unabbreviated run ops := rfl

theorem run_unabbreviated (caller : Caller σ) (budget : UInt32) (n : Nat) (ops : List Operation)
    (p : Progress) (s : σ) :
    e.run caller budget n (unabbreviated (e.run caller budget n ops p s) ops) p s =
      { e.run caller budget n ops p s with
        attempts := (e.run caller budget n ops p s).attempts.map Attempt.expand } := by
  induction ops generalizing n p s with
  | nil => rfl
  | cons op ops ih =>
    rw [run_cons]
    by_cases hcancel : caller.cancelled n s
    · rw [if_pos hcancel, unabbreviated, List.map_nil, List.nil_append, List.length_nil, List.drop_zero,
        run_cons, if_pos hcancel]
      rfl
    · rw [if_neg hcancel]
      by_cases hx : (e.attempt op p s).exhausts budget
      · rw [if_pos hx, unabbreviated, List.map_cons, List.cons_append, attempt_op, attempt_before,
          run_cons, if_neg hcancel, attempt_expand, Attempt.exhausts_expand, if_pos hx]
        rfl
      · rw [if_neg hx, unabbreviated_cons, attempt_op, attempt_before, run_cons, if_neg hcancel,
          attempt_expand, Attempt.exhausts_expand, if_neg hx, Attempt.progress_expand,
          show (e.attempt op p s).expand.after = (e.attempt op p s).after from rfl, ih]
        rfl

def expanded (caller : Caller σ) (r : Request) (s : σ) : Request :=
  { r with operations := unabbreviated (e.start caller r s) r.operations }

theorem operations_eq_attempted (caller : Caller σ) (r : Request) (s : σ) :
    r.operations = (e.start caller r s).attempts.map Attempt.op ++
      r.operations.drop (e.start caller r s).attempts.length := by
  have hprefix := (e.start_isPrefix caller r s).map Attempt.op
  rw [trace_map_op] at hprefix
  obtain ⟨rest, hrest⟩ := hprefix
  rw [← hrest, List.drop_left' (by rw [List.length_map])]

theorem check_expanded (caller : Caller σ) (r : Request) (s : σ) (limits : Limits) :
    (e.expanded caller r s).check limits = .ok () ↔ r.check limits = .ok () := by
  have hnames : (e.expanded caller r s).names = r.names := by
    rw [Request.names, Request.names, expanded, unabbreviated]
    conv => rhs; rw [e.operations_eq_attempted caller r s]
    rw [List.filterMap_append, List.filterMap_append, List.filterMap_map, List.filterMap_map]
    rfl
  have hlength : (e.expanded caller r s).operations.length = r.operations.length := by
    rw [expanded, unabbreviated]
    conv => rhs; rw [e.operations_eq_attempted caller r s]
    simp
  rw [Request.check_eq_ok_iff, Request.check_eq_ok_iff, hnames, hlength]

theorem start_expanded (caller : Caller σ) (r : Request) (s : σ) :
    e.start caller (e.expanded caller r s) s =
      { e.start caller r s with attempts := (e.start caller r s).attempts.map Attempt.expand } :=
  e.run_unabbreviated caller r.budget 0 r.operations {} s

theorem execute_expanded (caller : Caller σ) (r : Request) (s : σ)
    (hr : r.check e.limits = .ok ()) (hc : e.Uncancelled caller r s) :
    (e.expanded caller r s).check e.limits = .ok () ∧
      ∃ results results' state, e.execute caller r s = (.ok ⟨results⟩, state) ∧
        e.execute caller (e.expanded caller r s) s = (.ok ⟨results'⟩, state) ∧
        List.Forall₂ Result.SameButPath results results' := by
  have hr' := (e.check_expanded caller r s e.limits).2 hr
  have hcancelled : (e.start caller r s).cancelled = false := by
    rw [e.start_eq_quiet hc, start, run_quiet]
  refine ⟨hr', (e.start caller r s).attempts.map Attempt.result,
    ((e.start caller r s).attempts.map Attempt.expand).map Attempt.result,
    (e.start caller r s).state, ?_, ?_, ?_⟩
  · rw [e.execute_eq hr, hcancelled]
    rfl
  · rw [e.execute_eq hr', start_expanded, hcancelled]
    rfl
  · rw [List.map_map, List.forall₂_map_left_iff, List.forall₂_map_right_iff, List.forall₂_same]
    exact fun a _ => a.sameButPath_expand

theorem execute_expanded_chain :
    chain.check numbering.limits = .ok () ∧ numbering.Uncancelled {} chain 7 ∧
      (numbering.expanded {} chain 7).check numbering.limits = .ok () ∧
      ∃ results results' state, numbering.execute {} chain 7 = (.ok ⟨results⟩, state) ∧
        numbering.execute {} (numbering.expanded {} chain 7) 7 = (.ok ⟨results'⟩, state) ∧
        List.Forall₂ Result.SameButPath results results' :=
  ⟨rfl, fun _ _ _ => rfl, numbering.execute_expanded {} chain 7 rfl fun _ _ _ => rfl⟩

end Endpoint

end Roster.Batch
