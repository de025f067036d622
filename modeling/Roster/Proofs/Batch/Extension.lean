import Roster.Proofs.Batch.Calls
import Roster.Proofs.Batch.Table

namespace Roster.Batch

variable {σ : Type}

theorem Request.check_of_sublist {limits : Limits} {r r' : Request}
    (h : r.operations.Sublist r'.operations) (hr : r'.check limits = .ok ()) :
    r.check limits = .ok () := by
  obtain ⟨hlength, hnodup⟩ := check_eq_ok_iff.1 hr
  exact check_eq_ok_iff.2 ⟨Nat.le_trans h.length_le hlength, (h.filterMap _).nodup hnodup⟩

theorem Attempt.exhausts_of_le {a : Attempt σ} {budget budget' : UInt32} (h : budget ≤ budget')
    (ha : a.exhausts budget' = true) : a.exhausts budget = true := by
  rw [exhausts, Bool.and_eq_true, decide_eq_true_iff] at ha ⊢
  exact ⟨ha.1, UInt32.lt_of_le_of_lt h ha.2⟩

theorem cut_isPrefix_cut {budget budget' : UInt32} (h : budget ≤ budget') (as bs : List (Attempt σ)) :
    cut budget as <+: cut budget' (as ++ bs) := by
  induction as with
  | nil => exact List.nil_prefix
  | cons a rest ih =>
    rw [List.cons_append, cut, cut]
    by_cases ha : a.exhausts budget' = true
    · simp only [ha, Attempt.exhausts_of_le h ha, if_true, List.prefix_rfl]
    · rw [if_neg ha]
      split
      · exact List.prefix_append [a] _
      · exact (List.prefix_cons_inj a).2 ih

namespace Endpoint

variable (e : Endpoint σ)

def settled : List Operation → Progress → σ → Progress × σ
  | [], p, s => (p, s)
  | op :: ops, p, s => settled ops (e.attempt op p s).progress (e.attempt op p s).after

theorem trace_append (ops ops' : List Operation) (p : Progress) (s : σ) :
    e.trace (ops ++ ops') p s =
      e.trace ops p s ++ e.trace ops' (e.settled ops p s).1 (e.settled ops p s).2 := by
  induction ops generalizing p s with
  | nil => rfl
  | cons op ops ih => rw [List.cons_append, trace, trace, ih, settled, List.cons_append]

theorem start_isPrefix_start {r r' : Request} (hops : r.operations <+: r'.operations)
    (hbudget : r.budget ≤ r'.budget) (s : σ) :
    (e.start {} r s).attempts <+: (e.start {} r' s).attempts := by
  obtain ⟨rest, hrest⟩ := hops
  rw [start, start, run_quiet, run_quiet, ← hrest, trace_append]
  exact cut_isPrefix_cut hbudget _ _

theorem Uncancelled.of_isPrefix {e : Endpoint σ} {caller : Caller σ} {r r' : Request} {s : σ}
    (hops : r.operations <+: r'.operations) (hbudget : r.budget ≤ r'.budget)
    (h : e.Uncancelled caller r' s) : e.Uncancelled caller r s :=
  fun i a ha => h i a (getElem?_of_isPrefix (e.start_isPrefix_start hops hbudget s) ha)

def calls (caller : Caller σ) (r : Request) (s : σ) : List Call :=
  (e.recorded.execute caller.recorded r (s, [])).2.2

theorem calls_of_uncancelled {caller : Caller σ} {r : Request} {s : σ}
    (hr : r.check e.limits = .ok ()) (hc : e.Uncancelled caller r s) :
    e.calls caller r s = (e.start {} r s).attempts.filterMap (Attempt.call? e.registry) := by
  rw [calls, e.execute_recorded hr, e.start_eq_quiet hc]

theorem execute_isPrefix (e : Endpoint σ) (caller caller' : Caller σ) (r r' : Request) (s : σ)
    (hops : r.operations <+: r'.operations) (hbudget : r.budget ≤ r'.budget)
    (hr : r.check e.limits = .ok ()) (hr' : r'.check e.limits = .ok ())
    (hc : e.Uncancelled caller r s) (hc' : e.Uncancelled caller' r' s) :
    ∃ results results' state state',
      e.execute caller r s = (.ok ⟨results⟩, state) ∧
      e.execute caller' r' s = (.ok ⟨results'⟩, state') ∧
      results <+: results' ∧ e.calls caller r s <+: e.calls caller' r' s := by
  have hattempts := e.start_isPrefix_start hops hbudget s
  refine ⟨_, _, _, _, e.execute_of_uncancelled hr hc, e.execute_of_uncancelled hr' hc', ?_, ?_⟩
  · exact hattempts.map Attempt.result
  · rw [e.calls_of_uncancelled hr hc, e.calls_of_uncancelled hr' hc']
    exact hattempts.filterMap _

theorem execute_isPrefix_chain :
    ∃ r : Request, r.operations <+: chain.operations ∧ r.budget ≤ chain.budget ∧
      r.check numbering.limits = .ok () ∧ chain.check numbering.limits = .ok () ∧
      numbering.Uncancelled {} r 7 ∧ numbering.Uncancelled {} chain 7 ∧
      ((numbering.execute {} r 7).1.map fun response => response.results.length) = .ok 3 ∧
      ((numbering.execute {} chain 7).1.map fun response => response.results.length) = .ok 4 ∧
      ∃ results results' state state',
        numbering.execute {} r 7 = (.ok ⟨results⟩, state) ∧
        numbering.execute {} chain 7 = (.ok ⟨results'⟩, state') ∧
        results <+: results' ∧ numbering.calls {} r 7 <+: numbering.calls {} chain 7 :=
  ⟨⟨none, chain.operations.take 4⟩, List.take_prefix 4 _, by decide, rfl, rfl, fun _ _ _ => rfl,
    fun _ _ _ => rfl, by decide, by decide,
    execute_isPrefix numbering {} {} _ chain 7 (List.take_prefix 4 _) (by decide) rfl rfl
      (fun _ _ _ => rfl) fun _ _ _ => rfl⟩

end Endpoint

end Roster.Batch
