import Mathlib.Data.List.Basic
import Roster.Proofs.Batch.Plan

namespace Roster.Batch

variable {σ : Type}

/-- The attempts up to the first that exhausts the budget. -/
def cut (budget : UInt32) : List (Attempt σ) → List (Attempt σ)
  | [] => []
  | a :: rest => if a.exhausts budget then [a] else a :: cut budget rest

theorem cut_isPrefix (budget : UInt32) (as : List (Attempt σ)) : cut budget as <+: as := by
  induction as with
  | nil => exact List.prefix_rfl
  | cons a rest ih =>
    rw [cut]
    split
    · exact List.prefix_append [a] rest
    · exact (List.prefix_cons_inj a).2 ih

theorem getElem?_of_isPrefix {α : Type} {l l' : List α} (h : l <+: l') {i : Nat} {a : α}
    (ha : l[i]? = some a) : l'[i]? = some a := by
  obtain ⟨hi, rfl⟩ := List.getElem?_eq_some_iff.1 ha
  rw [h.getElem hi]
  exact List.getElem?_eq_getElem _

theorem getElem?_of_cut {budget : UInt32} {as : List (Attempt σ)} {i : Nat} {a : Attempt σ}
    (h : (cut budget as)[i]? = some a) : as[i]? = some a :=
  getElem?_of_isPrefix (cut_isPrefix budget as) h

theorem exhausts_of_cut {budget : UInt32} {as : List (Attempt σ)} {i : Nat} {a : Attempt σ}
    (h : (cut budget as)[i]? = some a) :
    a.exhausts budget = false ∧ (i + 1 < (cut budget as).length ∨ cut budget as = as) ∨
      a.exhausts budget = true ∧ i + 1 = (cut budget as).length := by
  induction as generalizing i with
  | nil => simp [cut] at h
  | cons b rest ih =>
    rw [cut] at h ⊢
    split at h
    · rename_i hb
      rw [if_pos hb]
      cases i with
      | zero => cases h; exact .inr ⟨hb, rfl⟩
      | succ i => simp at h
    · rename_i hb
      rw [if_neg hb]
      cases i with
      | zero =>
        obtain rfl : b = a := by simpa using h
        refine .inl ⟨by simpa using hb, ?_⟩
        cases hc : cut budget rest with
        | nil =>
          cases rest with
          | nil => exact .inr rfl
          | cons c rest => rw [cut] at hc; split at hc <;> simp at hc
        | cons c rest => exact .inl (by simp)
      | succ i =>
        rw [List.getElem?_cons_succ] at h
        rw [List.length_cons, List.cons.injEq]
        obtain ⟨ha, hi | hi⟩ | ⟨ha, hi⟩ := ih h
        · exact .inl ⟨ha, .inl (by omega)⟩
        · exact .inl ⟨ha, .inr ⟨rfl, hi⟩⟩
        · exact .inr ⟨ha, by omega⟩

structure Attempt.Acted (e : Endpoint σ) (a : Attempt σ) (plan : Plan σ) (effect : Effect) : Prop where
  planned : a.op.Planned e.registry a.before.refs plan
  done : plan.dispatch.Done plan.entry.handler a.state effect a.after

namespace Endpoint

variable (e : Endpoint σ) {caller : Caller σ} {budget : UInt32}

def trace : List Operation → Progress → σ → List (Attempt σ)
  | [], _, _ => []
  | op :: ops, p, s =>
    e.attempt op p s :: trace ops (e.attempt op p s).progress (e.attempt op p s).after

@[simp] theorem attempt_op (op : Operation) (p : Progress) (s : σ) : (e.attempt op p s).op = op := rfl

@[simp] theorem attempt_before (op : Operation) (p : Progress) (s : σ) :
    (e.attempt op p s).before = p := rfl

@[simp] theorem attempt_state (op : Operation) (p : Progress) (s : σ) :
    (e.attempt op p s).state = s := rfl

theorem perform_eq_attempt (op : Operation) (p : Progress) (s : σ) :
    e.perform op p.refs s = ((e.attempt op p s).outcome, (e.attempt op p s).after) := rfl

@[simp] theorem trace_map_op (ops : List Operation) (p : Progress) (s : σ) :
    (e.trace ops p s).map Attempt.op = ops := by
  induction ops generalizing p s with
  | nil => rfl
  | cons op ops ih => simp only [trace, List.map_cons, ih, attempt_op]

@[simp] theorem trace_length (ops : List Operation) (p : Progress) (s : σ) :
    (e.trace ops p s).length = ops.length := by
  rw [← List.length_map Attempt.op, trace_map_op]

theorem trace_made {ops : List Operation} {p : Progress} {s : σ} {a : Attempt σ}
    (h : a ∈ e.trace ops p s) : e.attempt a.op a.before a.state = a := by
  induction ops generalizing p s with
  | nil => simp [trace] at h
  | cons op ops ih =>
    rw [trace, List.mem_cons] at h
    rcases h with rfl | h
    · rfl
    · exact ih h

theorem perform_of_made {a : Attempt σ} (h : e.attempt a.op a.before a.state = a) :
    e.perform a.op a.before.refs a.state = (a.outcome, a.after) := by
  rw [perform_eq_attempt, h]

theorem outcome_eq_ok_iff {a : Attempt σ} (ha : e.attempt a.op a.before a.state = a) {effect : Effect}
    {location : Option String} :
    a.outcome = .ok (effect, location) ↔
      ∃ plan, a.Acted e plan effect ∧ location = e.locate plan.segment effect := by
  have hperform := e.perform_of_made ha
  constructor
  · intro h
    rw [h] at hperform
    obtain ⟨plan, hplan, hlocation, hinvoke⟩ := e.perform_eq_ok hperform
    exact ⟨plan, ⟨Operation.plan_eq_ok_iff.1 hplan, Dispatch.done_of_invoke hinvoke⟩, hlocation⟩
  · rintro ⟨plan, ⟨hplanned, hdone⟩, rfl⟩
    rw [e.perform_of_plan (Operation.plan_eq_ok_iff.2 hplanned), hdone.invoke] at hperform
    exact (congrArg Prod.fst hperform).symm

theorem run_cons (caller : Caller σ) (budget : UInt32) (n : Nat) (op : Operation) (ops : List Operation)
    (p : Progress) (s : σ) :
    e.run caller budget n (op :: ops) p s =
      if caller.cancelled n s then ⟨[], true, s⟩
      else if (e.attempt op p s).exhausts budget then
        ⟨[e.attempt op p s], false, (e.attempt op p s).after⟩
      else (e.run caller budget (n + 1) ops (e.attempt op p s).progress (e.attempt op p s).after).cons
        (e.attempt op p s) := rfl

theorem run_quiet (budget : UInt32) (n : Nat) (ops : List Operation) (p : Progress) (s : σ) :
    e.run {} budget n ops p s =
      ⟨cut budget (e.trace ops p s), false,
        ((cut budget (e.trace ops p s)).getLast?.map Attempt.after).getD s⟩ := by
  induction ops generalizing n p s with
  | nil => rfl
  | cons op ops ih =>
    rw [run_cons, if_neg (by simp), trace, cut]
    split
    · rfl
    · rw [ih, Run.cons, List.getLast?_cons]
      cases (cut budget (e.trace ops (e.attempt op p s).progress (e.attempt op p s).after)).getLast? <;> rfl

theorem run_eq_quiet {n : Nat} {ops : List Operation} {p : Progress} {s : σ}
    (h : ∀ i a, (e.run {} budget n ops p s).attempts[i]? = some a →
      caller.cancelled (n + i) a.state = false) :
    e.run caller budget n ops p s = e.run {} budget n ops p s := by
  induction ops generalizing n p s with
  | nil => rfl
  | cons op ops ih =>
    have hquiet : ¬ (({} : Caller σ).cancelled n s = true) := by simp
    rw [run_cons, run_cons, if_neg hquiet]
    rw [run_cons, if_neg hquiet] at h
    by_cases hx : (e.attempt op p s).exhausts budget
    · simp only [if_pos hx] at h ⊢
      have h0 := h 0 (e.attempt op p s) rfl
      rw [if_neg (by simpa using h0)]
    · simp only [if_neg hx] at h ⊢
      have h0 := h 0 (e.attempt op p s) rfl
      rw [if_neg (by simpa using h0), ih]
      intro i a ha
      have := h (i + 1) a ha
      rwa [show n + 1 + i = n + (i + 1) by omega]

theorem run_eq_take {n : Nat} {ops : List Operation} {p : Progress} {s : σ} {i : Nat} {a : Attempt σ}
    (ha : (e.run {} budget n ops p s).attempts[i]? = some a)
    (hcancelled : caller.cancelled (n + i) a.state = true)
    (hbefore : ∀ j < i, ∀ b, (e.run {} budget n ops p s).attempts[j]? = some b →
      caller.cancelled (n + j) b.state = false) :
    e.run caller budget n ops p s = ⟨(e.run {} budget n ops p s).attempts.take i, true, a.state⟩ := by
  induction ops generalizing n p s i with
  | nil => simp [run] at ha
  | cons op ops ih =>
    have hquiet : ¬ (({} : Caller σ).cancelled n s = true) := by simp
    rw [run_cons, if_neg hquiet] at ha hbefore
    rw [run_cons, run_cons, if_neg hquiet]
    cases i with
    | zero =>
      -- Whether or not it exhausts the budget, the first attempt starts in the state that the caller sees.
      have hfirst : a = e.attempt op p s := by
        split at ha <;> exact (Option.some.inj ha).symm
      subst hfirst
      rw [if_pos (show caller.cancelled n s = true from hcancelled), List.take_zero]
      rfl
    | succ i =>
      by_cases hx : (e.attempt op p s).exhausts budget
      · simp [hx] at ha
      · simp only [if_neg hx] at ha hbefore ⊢
        have h0 := hbefore 0 (Nat.succ_pos i) (e.attempt op p s) rfl
        rw [if_neg (by simpa using h0)]
        have hrest := ih (n := n + 1) ha (by rwa [show n + 1 + i = n + (i + 1) by omega]) fun j hj b hb => by
          rw [show n + 1 + j = n + (j + 1) by omega]
          exact hbefore (j + 1) (Nat.succ_lt_succ hj) b hb
        rw [hrest]
        rfl

theorem run_attempts_isPrefix (caller : Caller σ) (budget : UInt32) (n : Nat) (ops : List Operation)
    (p : Progress) (s : σ) : (e.run caller budget n ops p s).attempts <+: e.trace ops p s := by
  induction ops generalizing n p s with
  | nil => exact List.prefix_rfl
  | cons op ops ih =>
    rw [run_cons, trace]
    split
    · exact List.nil_prefix
    · split
      · exact List.prefix_append [e.attempt op p s] _
      · exact (List.prefix_cons_inj _).2 (ih _ _ _)

/-- The caller is not found to have cancelled when an operation is about to start. -/
def Uncancelled (caller : Caller σ) (r : Request) (s : σ) : Prop :=
  ∀ i a, (e.start {} r s).attempts[i]? = some a → caller.cancelled i a.state = false

theorem start_eq_quiet {r : Request} {s : σ} (h : e.Uncancelled caller r s) :
    e.start caller r s = e.start {} r s :=
  e.run_eq_quiet fun i a ha => by simpa using h i a ha

theorem start_eq_take {r : Request} {s : σ} {i : Nat} {a : Attempt σ}
    (ha : (e.start {} r s).attempts[i]? = some a) (hcancelled : caller.cancelled i a.state = true)
    (hbefore : ∀ j < i, ∀ b, (e.start {} r s).attempts[j]? = some b → caller.cancelled j b.state = false) :
    e.start caller r s = ⟨(e.start {} r s).attempts.take i, true, a.state⟩ :=
  e.run_eq_take ha (by rwa [Nat.zero_add]) fun j hj b hb => by
    rw [Nat.zero_add]
    exact hbefore j hj b hb

theorem start_isPrefix (caller : Caller σ) (r : Request) (s : σ) :
    (e.start caller r s).attempts <+: e.trace r.operations {} s :=
  e.run_attempts_isPrefix caller r.budget 0 r.operations {} s

section

variable {r : Request} {s : σ} {i : Nat} {a : Attempt σ}

theorem getElem?_trace_of_start (h : (e.start caller r s).attempts[i]? = some a) :
    (e.trace r.operations {} s)[i]? = some a :=
  getElem?_of_isPrefix (e.start_isPrefix caller r s) h

theorem made_of_mem_start (h : a ∈ (e.start caller r s).attempts) : e.attempt a.op a.before a.state = a :=
  e.trace_made ((e.start_isPrefix caller r s).subset h)

theorem made_of_start (h : (e.start caller r s).attempts[i]? = some a) :
    e.attempt a.op a.before a.state = a :=
  e.made_of_mem_start (List.mem_of_getElem? h)

theorem getElem?_operations_of_start (h : (e.start caller r s).attempts[i]? = some a) :
    r.operations[i]? = some a.op := by
  rw [← e.trace_map_op r.operations {} s, List.getElem?_map, e.getElem?_trace_of_start h]
  rfl

end

section

variable {P : σ → Prop} (hP : ∀ op refs s, P s → P (e.perform op refs s).2)

include hP

theorem trace_invariant {ops : List Operation} {p : Progress} {s : σ} (hs : P s) {a : Attempt σ}
    (ha : a ∈ e.trace ops p s) : P a.state ∧ P a.after := by
  induction ops generalizing p s with
  | nil => simp [trace] at ha
  | cons op ops ih =>
    have hafter : P (e.attempt op p s).after := hP op p.refs s hs
    rw [trace, List.mem_cons] at ha
    rcases ha with rfl | ha
    · exact ⟨hs, hafter⟩
    · exact ih hafter ha

theorem start_invariant {caller : Caller σ} {r : Request} {s : σ} (hs : P s) {a : Attempt σ}
    (ha : a ∈ (e.start caller r s).attempts) : P a.state ∧ P a.after :=
  e.trace_invariant hP hs ((e.start_isPrefix caller r s).subset ha)

theorem run_invariant {caller : Caller σ} {budget : UInt32} {n : Nat} {ops : List Operation}
    {p : Progress} {s : σ} (hs : P s) : P (e.run caller budget n ops p s).state := by
  induction ops generalizing n p s with
  | nil => exact hs
  | cons op ops ih =>
    have hafter : P (e.attempt op p s).after := hP op p.refs s hs
    rw [run_cons]
    split
    · exact hs
    · split
      · exact hafter
      · exact ih hafter

theorem execute_invariant {caller : Caller σ} {r : Request} {s : σ} (hs : P s) :
    P (e.execute caller r s).2 := by
  rw [execute]
  split
  · exact hs
  · exact e.run_invariant hP hs

end

theorem execute_eq {r : Request} (h : r.check e.limits = .ok ()) (caller : Caller σ) (s : σ) :
    e.execute caller r s =
      (if (e.start caller r s).cancelled then .error .cancelled
        else .ok ⟨(e.start caller r s).attempts.map Attempt.result⟩, (e.start caller r s).state) := by
  rw [execute, h]

theorem execute_of_uncancelled {caller : Caller σ} {r : Request} {s : σ}
    (hr : r.check e.limits = .ok ()) (hc : e.Uncancelled caller r s) :
    e.execute caller r s =
      (.ok ⟨(e.start {} r s).attempts.map Attempt.result⟩, (e.start {} r s).state) := by
  rw [e.execute_eq hr, e.start_eq_quiet hc, if_neg]
  rw [start, run_quiet]
  simp

end Endpoint

def numbering : Endpoint Nat where
  registry := ⟨[("Things", ⟨.custom "Things",
    { create := fun _ n => (.ok ⟨.ofNat 128 n⟩, n + 1)
      update := fun _ _ n => (.ok true, n)
      delete := fun _ n => (.ok false, n) }⟩)]⟩

/-- The third operation refers to nothing, the fourth is one failure too many. -/
def chain : Request where
  errorBudget := some 1
  operations := [.create "a" "Things" (.object []),
    .update "/Things/placeholder-ref:a" (.object [("next", .string "placeholder-ref:a")]),
    .delete "Things/placeholder-ref:b",
    .delete "Things/placeholder-ref:a",
    .create "b" "Things" (.object [])]

end Roster.Batch
