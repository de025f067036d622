import Roster.Proofs.Batch.Watch

namespace Roster.Batch

variable {σ : Type}

def Caller.recorded (caller : Caller σ) : Caller (σ × List Call) :=
  ⟨caller.principal, fun n s => caller.cancelled n s.1⟩

theorem Attempt.notes_calls (registry : Registry σ) (calls : List Call) (as : List (Attempt σ)) :
    notes (fun call _ calls => calls ++ [call]) registry calls as =
      calls ++ as.filterMap (call? registry) := by
  induction as generalizing calls with
  | nil => simp [notes]
  | cons a as ih =>
    refine (ih _).trans ?_
    rw [noted, List.filterMap_cons]
    cases a.call? registry <;> simp

namespace Endpoint

variable (e : Endpoint σ)

def recorded : Endpoint (σ × List Call) := ⟨e.registry.recorded, e.limits, e.baseUrl⟩

theorem execute_recorded {caller : Caller σ} {r : Request} (h : r.check e.limits = .ok ()) (s : σ) :
    e.recorded.execute caller.recorded r (s, []) =
      ((e.execute caller r s).1, (e.execute caller r s).2,
        (e.start caller r s).attempts.filterMap (Attempt.call? e.registry)) := by
  have hstart : e.recorded.start caller.recorded r (s, []) = _ :=
    e.run_watched (fun call _ calls => calls ++ [call]) caller r.budget 0 r.operations {} s []
  rw [e.recorded.execute_eq h, e.execute_eq h, hstart, Attempt.notes_calls, List.nil_append,
    Attempt.map_result_watchedFrom]
  rfl

end Endpoint

end Roster.Batch
