import Roster.Proofs.Batch.Extension

namespace Roster.Batch

variable {σ : Type}

def failuresOf (as : List (Attempt σ)) : Nat := as.countP Attempt.failed

@[simp] theorem Attempt.isSuccess_result (a : Attempt σ) : a.result.isSuccess = !a.failed := by
  rw [result, failed]
  cases a.outcome <;> rfl

theorem failuresOf_eq (as : List (Attempt σ)) :
    (as.map Attempt.result).countP (!·.isSuccess) = failuresOf as := by
  rw [List.countP_map, failuresOf]
  exact List.countP_congr fun a _ => by simp

theorem failuresOf_take_succ {as : List (Attempt σ)} {i : Nat} {a : Attempt σ} (h : as[i]? = some a) :
    failuresOf (as.take (i + 1)) = failuresOf (as.take i) + if a.failed then 1 else 0 := by
  rw [failuresOf, failuresOf, List.take_add_one, h, Option.toList_some, List.countP_append,
    List.countP_singleton]

theorem failuresOf_take_le (as : List (Attempt σ)) (i : Nat) : failuresOf (as.take i) ≤ failuresOf as :=
  (List.take_sublist i as).countP_le

theorem failuresOf_take_le_index (as : List (Attempt σ)) (i : Nat) : failuresOf (as.take i) ≤ i :=
  Nat.le_trans List.countP_le_length (by rw [List.length_take]; exact Nat.min_le_left _ _)

/-- The `m`-th failure is at place `k`, both counted from one. -/
def FailureAt (as : List (Attempt σ)) (m k : Nat) : Prop :=
  ∃ i a, k = i + 1 ∧ as[i]? = some a ∧ a.failed = true ∧ failuresOf (as.take k) = m

theorem Attempt.failures_progress (a : Attempt σ) :
    a.progress.failures = a.before.failures + if a.failed then 1 else 0 := by
  rw [progress, failed]
  cases a.outcome <;> simp

def CountFits (budget : UInt32) (ops : List Operation) : Prop :=
  budget.toNat < UInt32.size - 1 ∨ ops.length < UInt32.size

namespace Endpoint

variable (e : Endpoint σ) {ops : List Operation} {budget : UInt32} {s : σ}

theorem counter_eq {p : Progress} {i : Nat} {a : Attempt σ} (h : (e.trace ops p s)[i]? = some a) :
    a.before.failures = p.failures + .ofNat (failuresOf ((e.trace ops p s).take i)) := by
  induction ops generalizing p s i with
  | nil => simp [trace] at h
  | cons op ops ih =>
    rw [trace] at h ⊢
    cases i with
    | zero =>
      cases h
      simp [failuresOf]
    | succ i =>
      rw [ih h, Attempt.failures_progress, attempt_before, UInt32.add_assoc, List.take_succ_cons,
        failuresOf, failuresOf, List.countP_cons, UInt32.ofNat_add, UInt32.add_comm (.ofNat _)]
      cases (e.attempt op p s).failed <;> rfl

theorem counter_toNat {i : Nat} {a : Attempt σ} (h : (e.trace ops {} s)[i]? = some a)
    (hfit : failuresOf ((e.trace ops {} s).take i) < UInt32.size) :
    a.before.failures.toNat = failuresOf ((e.trace ops {} s).take i) := by
  rw [e.counter_eq h, UInt32.zero_add, UInt32.toNat_ofNat', Nat.mod_eq_of_lt hfit]

theorem exhausts_iff {i : Nat} {a : Attempt σ} (h : (e.trace ops {} s)[i]? = some a)
    (hfit : failuresOf ((e.trace ops {} s).take (i + 1)) < UInt32.size) :
    a.exhausts budget = true ↔
      a.failed = true ∧ budget.toNat < failuresOf ((e.trace ops {} s).take (i + 1)) := by
  rw [failuresOf_take_succ h] at hfit ⊢
  rw [Attempt.exhausts, Bool.and_eq_true, decide_eq_true_iff, UInt32.lt_iff_toNat_lt]
  refine and_congr_right fun hf => ?_
  rw [if_pos hf] at hfit ⊢
  rw [Attempt.failures_progress, if_pos hf, UInt32.toNat_add, e.counter_toNat h (by omega),
    show (1 : UInt32).toNat = 1 from rfl, Nat.mod_eq_of_lt hfit]

theorem count_lt {i : Nat} {a : Attempt σ} (hfit : CountFits budget ops)
    (h : (e.trace ops {} s)[i]? = some a)
    (hle : failuresOf ((e.trace ops {} s).take i) ≤ budget.toNat) :
    failuresOf ((e.trace ops {} s).take (i + 1)) < UInt32.size := by
  rcases hfit with hb | hn
  · rw [failuresOf_take_succ h]
    split <;> omega
  · have hi := (List.getElem?_eq_some_iff.1 h).1
    rw [trace_length] at hi
    have := failuresOf_take_le_index (e.trace ops {} s) (i + 1)
    omega

theorem failuresOf_le_budget (hfit : CountFits budget ops) {i : Nat}
    (hi : i < (cut budget (e.trace ops {} s)).length) :
    failuresOf ((e.trace ops {} s).take i) ≤ budget.toNat := by
  induction i with
  | zero => simp [failuresOf]
  | succ i ih =>
    have hle := ih (Nat.lt_of_succ_lt hi)
    have hcut := List.getElem?_eq_getElem (Nat.lt_of_succ_lt hi)
    have htrace := getElem?_of_cut hcut
    obtain ⟨hx, -⟩ | ⟨-, hlast⟩ := exhausts_of_cut hcut
    · rw [Bool.eq_false_iff, Ne, e.exhausts_iff htrace (e.count_lt hfit htrace hle)] at hx
      rw [failuresOf_take_succ htrace] at hx ⊢
      split
      · rename_i hf
        rw [if_pos hf] at hx
        exact Nat.le_of_not_lt fun hlt => hx ⟨hf, hlt⟩
      · exact hle
    · omega

theorem cut_eq_self {as : List (Attempt σ)} (h : ∀ a ∈ as, a.exhausts budget = false) :
    cut budget as = as := by
  induction as with
  | nil => rfl
  | cons a rest ih =>
    rw [cut, if_neg (by simp [h a List.mem_cons_self]), ih fun b hb => h b (List.mem_cons_of_mem _ hb)]

theorem cut_of_failuresOf_le (h : failuresOf (e.trace ops {} s) ≤ budget.toNat) :
    cut budget (e.trace ops {} s) = e.trace ops {} s := by
  refine cut_eq_self fun a ha => ?_
  obtain ⟨i, hi⟩ := List.getElem?_of_mem ha
  have hle := failuresOf_take_le (e.trace ops {} s) (i + 1)
  have hb := budget.toNat_lt_size
  rw [Bool.eq_false_iff, Ne, e.exhausts_iff hi (by omega)]
  rintro ⟨-, hlt⟩
  omega

theorem failureAt_cut (hfit : CountFits budget ops)
    (h : budget.toNat < failuresOf (e.trace ops {} s)) :
    FailureAt (e.trace ops {} s) (budget.toNat + 1) (cut budget (e.trace ops {} s)).length := by
  obtain ⟨k, hk⟩ : ∃ k, (cut budget (e.trace ops {} s)).length = k + 1 := by
    refine Nat.exists_eq_succ_of_ne_zero fun h0 => ?_
    have hnil := List.length_eq_zero_iff.1 h0
    cases ht : e.trace ops {} s with
    | nil => simp [ht, failuresOf] at h
    | cons a rest => rw [ht, cut] at hnil; split at hnil <;> simp at hnil
  have hlt : k < (cut budget (e.trace ops {} s)).length := hk ▸ Nat.lt_succ_self k
  have hcut := List.getElem?_eq_getElem hlt
  have htrace := getElem?_of_cut hcut
  have hle := e.failuresOf_le_budget hfit hlt
  have hiff : _ ↔ _ ∧ budget.toNat < _ := e.exhausts_iff htrace (e.count_lt hfit htrace hle)
  obtain ⟨hx, hend | hend⟩ | ⟨hx, -⟩ := exhausts_of_cut hcut
  · omega
  · have hall : (e.trace ops {} s).take (k + 1) = e.trace ops {} s := by
      rw [← hk, hend, List.take_length]
    rw [Bool.eq_false_iff, Ne, hiff, hall] at hx
    have hsucc := failuresOf_take_succ htrace
    rw [hall] at hsucc
    split at hsucc
    · rename_i hf
      exact absurd ⟨hf, h⟩ hx
    · omega
  · obtain ⟨hf, hlt⟩ := hiff.1 hx
    refine ⟨k, _, hk, htrace, hf, ?_⟩
    rw [hk]
    have hsucc := failuresOf_take_succ htrace
    rw [if_pos hf] at hsucc
    omega

theorem cut_eq_take (budget : UInt32) (as : List (Attempt σ)) :
    cut budget as = as.take (cut budget as).length :=
  List.prefix_iff_eq_take.1 (cut_isPrefix budget as)

theorem failuresOf_cut (hfit : CountFits budget ops) :
    failuresOf (cut budget (e.trace ops {} s)) =
      min (failuresOf (e.trace ops {} s)) (budget.toNat + 1) := by
  by_cases h : failuresOf (e.trace ops {} s) ≤ budget.toNat
  · rw [e.cut_of_failuresOf_le h]
    omega
  · obtain ⟨i, a, -, -, -, hm⟩ := e.failureAt_cut hfit (Nat.lt_of_not_le h)
    rw [cut_eq_take, hm]
    omega

/-- No counter of 32 bits exceeds the largest budget. -/
theorem cut_of_largest (h : ¬ budget.toNat < UInt32.size - 1) (as : List (Attempt σ)) : cut budget as = as := by
  refine cut_eq_self fun a _ => ?_
  have := a.progress.failures.toNat_lt_size
  rw [Attempt.exhausts, Bool.and_eq_false_iff, decide_eq_false_iff_not, UInt32.lt_iff_toNat_lt]
  exact .inr (by omega)

theorem cut_of_failures_le (h : failuresOf (cut budget (e.trace ops {} s)) ≤ budget.toNat) :
    cut budget (e.trace ops {} s) = e.trace ops {} s := by
  by_cases hb : budget.toNat < UInt32.size - 1
  · rw [e.failuresOf_cut (.inl hb)] at h
    exact e.cut_of_failuresOf_le (by omega)
  · exact cut_of_largest hb _

theorem last_of_failureAt {as : List (Attempt σ)} {m k : Nat} (h : FailureAt as m k) :
    ∃ x, ((as.take k).map Attempt.result).getLast? = some x ∧ x.isSuccess = false := by
  obtain ⟨i, a, rfl, ha, hf, -⟩ := h
  refine ⟨a.result, ?_, by simp [hf]⟩
  rw [List.take_add_one, ha]
  simp

end Endpoint

def Result.Echoes (x : Result) (op : Operation) : Prop :=
  x.method = op.method ∧ x.path = op.path ∧ x.bulkId = op.bulkId ∧ x.version = op.version

theorem Attempt.echoes_result (a : Attempt σ) : a.result.Echoes a.op := by
  rw [result]
  cases a.outcome <;> exact ⟨rfl, rfl, rfl, rfl⟩

structure AttemptedPrefix (e : Endpoint σ) (caller : Caller σ) (r : Request) (s : σ)
    (results : List Result) : Prop where
  echoes : ∀ (i : Nat) (x : Result), results[i]? = some x → ∃ op, r.operations[i]? = some op ∧ x.Echoes op
  outcomes : results = ((e.trace r.operations {} s).take results.length).map Attempt.result
  complete : failuresOf (e.trace r.operations {} s) ≤ r.budget.toNat →
    results.length = r.operations.length
  stopped : CountFits r.budget r.operations →
    r.budget.toNat < failuresOf (e.trace r.operations {} s) →
    FailureAt (e.trace r.operations {} s) (r.budget.toNat + 1) results.length
  failures_le : CountFits r.budget r.operations →
    Response.failures ⟨results⟩ ≤ r.budget.toNat + 1
  last_failed : CountFits r.budget r.operations →
    Response.failures ⟨results⟩ = r.budget.toNat + 1 →
    ∃ x : Result, results.getLast? = some x ∧ x.isSuccess = false
  all_attempted : Response.failures ⟨results⟩ ≤ r.budget.toNat →
    results.length = r.operations.length
  calls : (e.recorded.execute caller.recorded r (s, [])).2.2 =
    ((e.trace r.operations {} s).take results.length).filterMap (Attempt.call? e.registry)
  counter : CountFits r.budget r.operations → ∀ (i : Nat) (a : Attempt σ),
    (e.start caller r s).attempts[i]? = some a →
    a.before.failures.toNat = Response.failures ⟨results.take i⟩ ∧
      (a.failed = true → a.before.failures.toNat + 1 < UInt32.size)

theorem execute_attemptedPrefix (e : Endpoint σ) (caller : Caller σ) (r : Request) (s : σ)
    (hr : r.check e.limits = .ok ()) (hc : e.Uncancelled caller r s) :
    ∃ results state, e.execute caller r s = (.ok ⟨results⟩, state) ∧
      AttemptedPrefix e caller r s results := by
  have hstart : (e.start {} r s).attempts = cut r.budget (e.trace r.operations {} s) := by
    rw [Endpoint.start, Endpoint.run_quiet]
  have hexecute := e.execute_of_uncancelled hr hc
  rw [hstart] at hexecute
  refine ⟨_, _, hexecute, ?_⟩
  have hlength : ((cut r.budget (e.trace r.operations {} s)).map Attempt.result).length =
      (cut r.budget (e.trace r.operations {} s)).length := List.length_map _
  have hfailures (as : List (Attempt σ)) :
      Response.failures ⟨as.map Attempt.result⟩ = failuresOf as := failuresOf_eq as
  constructor
  case echoes =>
    intro i x hx
    rw [List.getElem?_map, Option.map_eq_some_iff] at hx
    obtain ⟨a, ha, rfl⟩ := hx
    refine ⟨a.op, ?_, a.echoes_result⟩
    rw [← e.trace_map_op r.operations {} s, List.getElem?_map, getElem?_of_cut ha]
    rfl
  case outcomes =>
    rw [hlength, ← Endpoint.cut_eq_take]
  case complete =>
    intro h
    rw [hlength, e.cut_of_failuresOf_le h, Endpoint.trace_length]
  case stopped =>
    intro hfit h
    rw [hlength]
    exact e.failureAt_cut hfit h
  case failures_le =>
    intro hfit
    rw [hfailures, e.failuresOf_cut hfit]
    exact Nat.min_le_right _ _
  case last_failed =>
    intro hfit h
    rw [hfailures, e.failuresOf_cut hfit] at h
    rw [Endpoint.cut_eq_take]
    exact Endpoint.last_of_failureAt (e.failureAt_cut hfit (by omega))
  case all_attempted =>
    intro h
    rw [hfailures] at h
    rw [hlength, e.cut_of_failures_le h, Endpoint.trace_length]
  case calls =>
    rw [e.execute_recorded hr, e.start_eq_quiet hc, hstart, hlength, ← Endpoint.cut_eq_take]
  case counter =>
    intro hfit i a ha
    rw [e.start_eq_quiet hc, hstart] at ha
    have hi := (List.getElem?_eq_some_iff.1 ha).1
    have htrace := getElem?_of_cut ha
    have hle := e.failuresOf_le_budget hfit hi
    have hlt := e.count_lt hfit htrace hle
    have hcount := e.counter_toNat htrace (by have := r.budget.toNat_lt_size; omega)
    have htake : (cut r.budget (e.trace r.operations {} s)).take i = (e.trace r.operations {} s).take i := by
      rw [Endpoint.cut_eq_take, List.take_take, Nat.min_eq_left (by omega)]
    rw [← List.map_take, hfailures, htake]
    refine ⟨hcount, fun hf => ?_⟩
    rw [failuresOf_take_succ htrace, if_pos hf] at hlt
    omega

theorem execute_attemptedPrefix_chain :
    chain.check numbering.limits = .ok () ∧ numbering.Uncancelled {} chain 7 ∧
      ∃ results state, numbering.execute {} chain 7 = (.ok ⟨results⟩, state) ∧
        AttemptedPrefix numbering {} chain 7 results :=
  ⟨rfl, fun _ _ _ => rfl, execute_attemptedPrefix numbering {} chain 7 rfl fun _ _ _ => rfl⟩

/-- The largest budget, `n` operations that fail at any endpoint, and one more. -/
def spent (n : Nat) (last : Operation) : Request where
  errorBudget := some 4294967295
  operations := List.replicate n (.delete "") ++ [last]

theorem check_spent {limits : Limits} {n : Nat} (h : n < limits.maxOperations) (last : Operation) :
    (spent n last).check limits = .ok () := by
  refine Request.check_eq_ok_iff.2 ⟨by simpa [spent] using Nat.succ_le_of_lt h, ?_⟩
  have hnone : Operation.name? (.delete "") = none := rfl
  rw [Request.names, spent, List.filterMap_append, List.filterMap_replicate_of_none hnone, List.nil_append]
  cases hlast : last.name? <;> simp [hlast]

namespace Endpoint

variable (e : Endpoint σ)

theorem failuresOf_trace_replicate {op : Operation} (h : ∀ p s, (e.attempt op p s).failed = true) (n : Nat)
    (p : Progress) (s : σ) : failuresOf (e.trace (List.replicate n op) p s) = n := by
  induction n generalizing p s with
  | zero => rfl
  | succ n ih =>
    rw [List.replicate_succ, trace, failuresOf, List.countP_cons_of_pos (h p s), ← failuresOf, ih]

theorem trace_spent (n : Nat) (last : Operation) (s : σ) :
    ∃ as p s', e.trace (spent n last).operations {} s = as ++ [e.attempt last p s'] ∧ failuresOf as = n := by
  have hfails (p : Progress) (s : σ) : (e.attempt (.delete "") p s).failed = true := rfl
  exact ⟨_, _, _, e.trace_append (List.replicate n (.delete "")) [last] {} s,
    e.failuresOf_trace_replicate hfails n {} s⟩

theorem execute_spent {n : Nat} (h : n < e.limits.maxOperations) (last : Operation) (s : σ) :
    ∃ state, e.execute {} (spent n last) s =
      (.ok ⟨(e.trace (spent n last).operations {} s).map Attempt.result⟩, state) := by
  have hbudget : ¬ (4294967295 : UInt32).toNat < UInt32.size - 1 := by decide
  have hcut : (e.start {} (spent n last) s).attempts = e.trace (spent n last).operations {} s := by
    rw [start, run_quiet]
    exact cut_of_largest hbudget _
  exact ⟨_, hcut ▸ e.execute_of_uncancelled (check_spent h last) fun _ _ _ => rfl⟩

end Endpoint

def roomy : Endpoint Nat := { numbering with limits := { maxOperations := 4294967297 } }

theorem spent_unstopped :
    ((spent 4294967296 (.delete "")).check roomy.limits = .ok () ∧ ∃ results state,
      roomy.execute {} (spent 4294967296 (.delete "")) 7 = (.ok ⟨results⟩, state) ∧
      4294967296 < Response.failures ⟨results⟩ ∧
      ¬ FailureAt (roomy.trace (spent 4294967296 (.delete "")).operations {} 7) 4294967296 results.length) ∧
    ∃ results state,
      roomy.execute {} (spent 4294967296 (.create "a" "Things" (.object []))) 7 = (.ok ⟨results⟩, state) ∧
      Response.failures ⟨results⟩ = 4294967296 ∧ ∃ x, results.getLast? = some x ∧ x.isSuccess = true := by
  have hroom : 4294967296 < roomy.limits.maxOperations := Nat.lt_succ_self _
  constructor
  · obtain ⟨as, p, s, htrace, hcount⟩ := roomy.trace_spent 4294967296 (.delete "") 7
    obtain ⟨state, hexecute⟩ := roomy.execute_spent hroom (.delete "") 7
    have hall : failuresOf (as ++ [roomy.attempt (.delete "") p s]) = 4294967297 := by
      rw [failuresOf, List.countP_append, ← failuresOf, hcount]
      rfl
    rw [htrace] at hexecute ⊢
    refine ⟨check_spent hroom _, _, state, hexecute, ?_, ?_⟩
    · rw [Response.failures, failuresOf_eq, hall]
      decide
    · rintro ⟨i, a, -, -, -, htake⟩
      rw [List.length_map, List.take_length, hall] at htake
      exact absurd htake (by decide)
  · obtain ⟨as, p, s, htrace, hcount⟩ := roomy.trace_spent 4294967296 (.create "a" "Things" (.object [])) 7
    obtain ⟨state, hexecute⟩ := roomy.execute_spent hroom (.create "a" "Things" (.object [])) 7
    rw [htrace] at hexecute
    refine ⟨_, state, hexecute, ?_, (roomy.attempt (.create "a" "Things" (.object [])) p s).result, ?_, rfl⟩
    · rw [Response.failures, failuresOf_eq, failuresOf, List.countP_append, ← failuresOf, hcount]
      rfl
    · rw [List.map_append, List.map_singleton, List.getLast?_concat]

end Roster.Batch
