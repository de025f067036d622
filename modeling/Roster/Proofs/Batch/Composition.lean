import Roster.Proofs.Batch.Budget
import Roster.Proofs.Batch.Extension
import Roster.Proofs.Batch.Locality

/-! Batches compose.  Their operations have nothing in common but the references to what was created before and the budget
of failures. -/

namespace Roster.Batch

variable {σ : Type}

/-- The attempts up to the failure that is one too many. -/
def tolerate : (failures : Nat) → List (Attempt σ) → List (Attempt σ)
  | _, [] => []
  | n, a :: rest =>
    if a.failed then if n = 0 then [a] else a :: tolerate (n - 1) rest else a :: tolerate n rest

theorem failuresOf_cons (a : Attempt σ) (as : List (Attempt σ)) :
    failuresOf (a :: as) = failuresOf as + if a.failed then 1 else 0 :=
  List.countP_cons

theorem tolerate_append (n : Nat) (as bs : List (Attempt σ)) :
    tolerate n (as ++ bs) =
      if failuresOf as ≤ n then as ++ tolerate (n - failuresOf as) bs else tolerate n as := by
  induction as generalizing n with
  | nil => simp [failuresOf]
  | cons a rest ih =>
    rw [List.cons_append, failuresOf_cons, tolerate, tolerate]
    by_cases ha : a.failed
    · cases n with
      | zero => simp [ha]
      | succ n =>
        simp only [ha, if_true, ih, Nat.add_le_add_iff_right, Nat.add_sub_add_right,
          Nat.add_one_ne_zero, if_false, Nat.add_sub_cancel]
        split <;> rfl
    · simp only [ha, if_false, Bool.false_eq_true, ih, Nat.add_zero]
      split <;> rfl

theorem tolerate_of_le {n : Nat} {as : List (Attempt σ)} (h : failuresOf as ≤ n) : tolerate n as = as := by
  have happend := tolerate_append n as []
  rwa [if_pos h, List.append_nil, tolerate, List.append_nil] at happend

theorem failuresOf_tolerate (n : Nat) (as : List (Attempt σ)) :
    failuresOf (tolerate n as) = min (failuresOf as) (n + 1) := by
  induction as generalizing n with
  | nil => simp [tolerate, failuresOf]
  | cons a rest ih =>
    rw [tolerate, failuresOf_cons]
    by_cases ha : a.failed
    · cases n with
      | zero => simp [ha, failuresOf]
      | succ n => simp [ha, failuresOf_cons, ih]
    · simp [ha, failuresOf_cons, ih]

namespace Attempt

def bare (a : Attempt σ) : Attempt σ := { a with before := {} }

@[simp] theorem failed_bare (a : Attempt σ) : a.bare.failed = a.failed := rfl

@[simp] theorem after_bare (a : Attempt σ) : a.bare.after = a.after := rfl

theorem map_result_eq {as bs : List (Attempt σ)} (h : as.map bare = bs.map bare) :
    as.map result = bs.map result := by
  have hresults := congrArg (List.map result) h
  rwa [List.map_map, List.map_map] at hresults

def leaves (s : σ) (as : List (Attempt σ)) : σ := (as.getLast?.map after).getD s

theorem leaves_append (s : σ) (as bs : List (Attempt σ)) :
    leaves s (as ++ bs) = leaves (leaves s as) bs := by
  rw [leaves, leaves, leaves, List.getLast?_append]
  cases bs.getLast? <;> rfl

theorem leaves_eq {as bs : List (Attempt σ)} (h : as.map bare = bs.map bare) (s : σ) :
    leaves s as = leaves s bs := by
  have hlast := congrArg (fun l => (l.getLast?.map after).getD s) h
  simpa [Function.comp_def, leaves] using hlast

theorem map_bare_tolerate (n : Nat) (as : List (Attempt σ)) :
    (tolerate n as).map bare = tolerate n (as.map bare) := by
  induction as generalizing n with
  | nil => rfl
  | cons a rest ih =>
    rw [List.map_cons, tolerate, tolerate, failed_bare]
    split
    · split
      · rfl
      · rw [List.map_cons, ih]
    · rw [List.map_cons, ih]

theorem agree_of_bare {tokens : String → Prop} {a a' : Attempt σ} (h : a.bare = a'.bare)
    (hrefs : References.Agree tokens a.before.refs a'.before.refs) :
    References.Agree tokens a.progress.refs a'.progress.refs := by
  obtain ⟨op, before, s, outcome, after⟩ := a
  obtain ⟨op', before', s', outcome', after'⟩ := a'
  obtain ⟨rfl, -, -, rfl, -⟩ := mk.inj h
  cases outcome with
  | error cause => exact hrefs
  | ok done => exact hrefs.remember op done.1

theorem exhausts_iff_of_fits {a : Attempt σ} {budget : UInt32}
    (hle : a.before.failures.toNat ≤ budget.toNat) (hfit : a.before.failures.toNat + 1 < UInt32.size) :
    a.exhausts budget = true ↔ a.failed = true ∧ a.before.failures.toNat = budget.toNat := by
  rw [exhausts, Bool.and_eq_true, decide_eq_true_iff, UInt32.lt_iff_toNat_lt]
  refine and_congr_right fun hf => ?_
  rw [failures_progress, if_pos hf, UInt32.toNat_add, show (1 : UInt32).toNat = 1 from rfl,
    Nat.mod_eq_of_lt hfit]
  omega

end Attempt

namespace Endpoint

variable (e : Endpoint σ)

theorem cut_eq_tolerate {budget : UInt32} {ops : List Operation} {p : Progress} {s : σ}
    (hle : p.failures.toNat ≤ budget.toNat) (hfit : p.failures.toNat + ops.length < UInt32.size) :
    cut budget (e.trace ops p s) = tolerate (budget.toNat - p.failures.toNat) (e.trace ops p s) := by
  induction ops generalizing p s with
  | nil => rw [trace, cut, tolerate]
  | cons op ops ih =>
    rw [List.length_cons] at hfit
    have hcount := (e.attempt op p s).failures_progress
    rw [attempt_before] at hcount
    have hiff : (e.attempt op p s).exhausts budget = true ↔
        (e.attempt op p s).failed = true ∧ p.failures.toNat = budget.toNat :=
      Attempt.exhausts_iff_of_fits hle (by rw [attempt_before]; omega)
    rw [trace, cut, tolerate]
    by_cases hf : (e.attempt op p s).failed
    · have hnext : (e.attempt op p s).progress.failures.toNat = p.failures.toNat + 1 := by
        rw [hcount, if_pos hf, UInt32.toNat_add, show (1 : UInt32).toNat = 1 from rfl]
        exact Nat.mod_eq_of_lt (show p.failures.toNat + 1 < UInt32.size by omega)
      rw [if_pos hf]
      by_cases hspent : p.failures.toNat = budget.toNat
      · rw [if_pos (hiff.2 ⟨hf, hspent⟩), if_pos (by omega)]
      · have hleft : budget.toNat - p.failures.toNat - 1 = budget.toNat - (p.failures.toNat + 1) := by omega
        rw [if_neg fun hx => hspent (hiff.1 hx).2, if_neg (by omega), ih (by omega) (by omega), hnext, hleft]
    · have hnext : (e.attempt op p s).progress.failures.toNat = p.failures.toNat := by
        rw [hcount, if_neg hf, UInt32.add_zero]
      rw [if_neg hf, if_neg fun hx => hf (hiff.1 hx).1, ih (by omega) (by omega), hnext]

theorem agree_progress (a : Attempt σ) :
    References.Agree (a.op.name? ≠ some ·) a.progress.refs a.before.refs := by
  intro t ht
  rw [a.refs_progress]
  cases h : a.addition? with
  | none => rfl
  | some entry =>
    have hname : a.op.name? = some entry.1 := (Attempt.addition?_eq_some_iff.1 h).1
    have hne : t ≠ entry.1 := fun heq => ht (heq ▸ hname)
    exact (Store.get?_insert _ _ _ _).trans (if_neg hne)

theorem agree_settled (ops : List Operation) (p : Progress) (s : σ) :
    References.Agree (· ∉ ops.filterMap Operation.name?) (e.settled ops p s).1.refs p.refs := by
  induction ops generalizing p s with
  | nil => exact fun _ _ => rfl
  | cons op ops ih =>
    intro t ht
    have hop : op.name? ≠ some t := fun hname =>
      ht (List.mem_filterMap.2 ⟨op, List.mem_cons_self, hname⟩)
    have hrest : t ∉ ops.filterMap Operation.name? := fun hmem =>
      ht ((List.sublist_cons_self op ops).filterMap _ |>.subset hmem)
    rw [settled, ih _ _ t hrest]
    exact agree_progress (e.attempt op p s) t hop

theorem trace_congr {tokens : String → Prop} {ops : List Operation} {p p' : Progress}
    (hops : ∀ op ∈ ops, ∀ t, op.Meets t → tokens t) (h : References.Agree tokens p.refs p'.refs) (s : σ) :
    (e.trace ops p s).map Attempt.bare = (e.trace ops p' s).map Attempt.bare := by
  induction ops generalizing p p' s with
  | nil => rfl
  | cons op ops ih =>
    have hbare : (e.attempt op p s).bare = (e.attempt op p' s).bare := by
      rw [attempt, attempt, e.perform_congr (h.mono (hops op List.mem_cons_self))]
      rfl
    have hafter : (e.attempt op p s).after = (e.attempt op p' s).after := by
      rw [← Attempt.after_bare, hbare, Attempt.after_bare]
    rw [trace, trace, List.map_cons, List.map_cons, hbare, hafter]
    apply congrArg (List.cons (e.attempt op p' s).bare)
    exact ih (fun op' hop' => hops op' (List.mem_cons_of_mem _ hop')) (Attempt.agree_of_bare hbare h) _

theorem leaves_trace (ops : List Operation) (p : Progress) (s : σ) :
    Attempt.leaves s (e.trace ops p s) = (e.settled ops p s).2 := by
  induction ops generalizing p s with
  | nil => rfl
  | cons op ops ih =>
    rw [trace, ← List.singleton_append, Attempt.leaves_append, settled, ← ih]
    rfl

theorem execute_eq_tolerate {caller : Caller σ} {r : Request} {s : σ}
    (hfit : r.operations.length < UInt32.size) (hr : r.check e.limits = .ok ())
    (hc : e.Uncancelled caller r s) :
    e.execute caller r s =
      (.ok ⟨(tolerate r.budget.toNat (e.trace r.operations {} s)).map Attempt.result⟩,
        Attempt.leaves s (tolerate r.budget.toNat (e.trace r.operations {} s))) := by
  have hcut : cut r.budget (e.trace r.operations {} s) = _ :=
    e.cut_eq_tolerate (p := {}) (Nat.zero_le _) (by rw [show (0 : UInt32).toNat = 0 from rfl]; omega)
  rw [e.execute_of_uncancelled hr hc, start, run_quiet, hcut]
  rfl

/-- How a batch goes of which the first part has been run. -/
structure Composed (e : Endpoint σ) (caller : Caller σ) (r : Request) (ops ops' : List Operation)
    (s : σ) (first : Response) (state : σ) : Prop where
  stopped : r.budget.toNat < first.failures → e.execute caller r s = (.ok first, state)
  continued : first.failures ≤ r.budget.toNat →
    (∀ op ∈ ops', ∀ token, op.Meets token → token ∉ ops.filterMap Operation.name?) →
    ∀ (rest : Request) (caller' : Caller σ), rest.operations = ops' →
      rest.budget.toNat = r.budget.toNat - first.failures → e.Uncancelled caller' rest state →
      ∃ second state', e.execute caller' rest state = (.ok second, state') ∧
        e.execute caller r s = (.ok ⟨first.results ++ second.results⟩, state')

theorem execute_append (e : Endpoint σ) (caller : Caller σ) (r : Request) (ops ops' : List Operation) (s : σ)
    (hops : r.operations = ops ++ ops') (hfit : r.operations.length < UInt32.size)
    (hr : r.check e.limits = .ok ()) (hc : e.Uncancelled caller r s) :
    ∃ first state, e.execute caller { r with operations := ops } s = (.ok first, state) ∧
      Composed e caller r ops ops' s first state := by
  have hprefix : ops <+: r.operations := hops ▸ List.prefix_append ops ops'
  have hsuffix : ops'.Sublist r.operations := hops ▸ List.sublist_append_right ops ops'
  have hwhole := e.execute_eq_tolerate hfit hr hc
  have hfirst : e.execute caller { r with operations := ops } s =
      (.ok ⟨(tolerate r.budget.toNat (e.trace ops {} s)).map Attempt.result⟩,
        Attempt.leaves s (tolerate r.budget.toNat (e.trace ops {} s))) :=
    e.execute_eq_tolerate (Nat.lt_of_le_of_lt hprefix.length_le hfit)
      (Request.check_of_sublist hprefix.sublist hr) (hc.of_isPrefix hprefix (UInt32.le_refl _))
  have hfailures (as : List (Attempt σ)) : Response.failures ⟨as.map Attempt.result⟩ = failuresOf as :=
    failuresOf_eq as
  rw [hops, trace_append, tolerate_append] at hwhole
  by_cases hdone : failuresOf (e.trace ops {} s) ≤ r.budget.toNat
  case neg =>
    rw [if_neg hdone] at hwhole
    refine ⟨_, _, hfirst, fun _ => hwhole, fun hle => ?_⟩
    rw [hfailures, failuresOf_tolerate] at hle
    omega
  case pos =>
    rw [if_pos hdone, Attempt.leaves_append, leaves_trace, List.map_append] at hwhole
    rw [tolerate_of_le hdone, leaves_trace] at hfirst
    refine ⟨_, _, hfirst, fun hlt => ?_, fun _ hmeets rest caller' hrest hbudget hc' => ?_⟩
    · rw [hfailures] at hlt
      omega
    · subst hrest
      rw [hfailures] at hbudget
      rw [← hbudget] at hwhole
      have hsecond := e.execute_eq_tolerate (Nat.lt_of_le_of_lt hsuffix.length_le hfit)
        (Request.check_of_sublist hsuffix hr) hc'
      -- The table that the first part leaves differs in names only that the rest does not meet.
      have hbare := congrArg (tolerate rest.budget.toNat)
        (e.trace_congr hmeets (e.agree_settled ops {} s) (e.settled ops {} s).2)
      rw [← Attempt.map_bare_tolerate, ← Attempt.map_bare_tolerate] at hbare
      rw [Attempt.map_result_eq hbare, Attempt.leaves_eq hbare] at hwhole
      exact ⟨_, _, hsecond, hwhole⟩

theorem eq_of_meets_chain {op : Operation} (hop : op ∈ chain.operations.take 2) {token : String}
    (hmeets : op.Meets token) : token = "a" := by
  have hinj (h : "placeholder-ref:a" = refer token) : token = "a" := by
    have htoken : token? "placeholder-ref:a" = some token := h ▸ token?_refer token
    exact (Option.some.inj ((show token? "placeholder-ref:a" = some "a" by decide).symm.trans htoken)).symm
  have hop' : op = .create "a" "Things" (.object []) ∨
      op = .update "/Things/placeholder-ref:a" (.object [("next", .string "placeholder-ref:a")]) := by
    simpa [chain] using hop
  rcases hop' with rfl | rfl <;> rcases hmeets with ⟨-, data, ⟨⟩, hmem⟩ | ⟨hverb, segment, hpath⟩
  · simp [Json.texts] at hmem
  · exact absurd rfl hverb
  · exact hinj (by simpa [Json.texts, eq_comm] using hmem)
  · exact hinj (Option.some.inj (Path.mk.inj (Except.ok.inj hpath)).2)

theorem execute_append_chain :
    ∃ (ops ops' : List Operation) (first second : Response) (state state' : Nat),
      ops = [.delete "Things/placeholder-ref:b", .create "b" "Things" (.object [])] ∧
      ops' = chain.operations.take 2 ∧ first.failures = 1 ∧ second.results.length = 2 ∧
      numbering.execute {} ⟨some 1, ops⟩ 7 = (.ok first, state) ∧
      numbering.execute {} ⟨some 0, ops'⟩ state = (.ok second, state') ∧
      numbering.execute {} ⟨some 1, ops ++ ops'⟩ 7 = (.ok ⟨first.results ++ second.results⟩, state') := by
  obtain ⟨first, state, hfirst, hcomposed⟩ := execute_append numbering {}
    ⟨some 1, [.delete "Things/placeholder-ref:b", .create "b" "Things" (.object [])] ++ chain.operations.take 2⟩
    _ _ 7 rfl (by decide) rfl fun _ _ _ => rfl
  cases hfirst
  have hmeets : ∀ op ∈ chain.operations.take 2, ∀ token, op.Meets token → token ∉ ["b"] :=
    fun op hop token hmeets => eq_of_meets_chain hop hmeets ▸ by decide
  obtain ⟨second, state', hsecond, hwhole⟩ :=
    hcomposed.continued (by decide) hmeets ⟨some 0, chain.operations.take 2⟩ {} rfl (by decide) fun _ _ _ => rfl
  cases hsecond
  exact ⟨_, _, _, _, _, _, rfl, rfl, by decide, by decide, rfl, rfl, hwhole⟩

end Endpoint

end Roster.Batch
