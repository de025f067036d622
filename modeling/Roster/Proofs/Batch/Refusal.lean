import Roster.Proofs.Batch.Path
import Roster.Proofs.Batch.Plan
import Roster.Proofs.Batch.Reference

namespace Roster

theorem Registry.status_of_resolve_error {r : Registry σ} {segment : String} {cause : ProtocolError}
    (h : r.resolve segment = .error cause) : cause.status = 400 := by
  rw [resolve] at h
  split at h
  · cases h
  · cases h
    rfl

namespace Batch

theorem Path.status_of_parse_error {s : String} {cause : ProtocolError}
    (h : parse s = .error cause) : cause.status = 400 := by
  rw [parse_eq_error h]
  rfl

namespace References

variable {refs : References} {cause : ProtocolError}

theorem status_of_resolve_error {s : String} (h : refs.resolve s = .error cause) :
    cause.status = 400 := by
  rw [resolve] at h
  split at h
  · cases h
  · split at h
    · cases h
    · cases h
      rfl

theorem status_of_refusal {s : String} (h : refs.refusal? s = some cause) : cause.status = 400 := by
  obtain ⟨token, -, -, rfl⟩ := refs.refusal?_eq_some_iff.1 h
  rfl

theorem status_of_resolved_error {v : Json} (h : refs.resolved v = .error cause) :
    cause.status = 400 := by
  rw [resolved_eq] at h
  split at h
  · rename_i hrefusal
    cases h
    obtain ⟨s, -, hs⟩ := List.exists_of_findSome?_eq_some hrefusal
    exact status_of_refusal hs
  · cases h

theorem status_of_target_error {s : String} (h : refs.target s = .error cause) :
    cause.status = 400 := by
  rw [target] at h
  split at h
  · rename_i hresolve
    cases h
    exact status_of_resolve_error hresolve
  · cases h
  · split at h
    · cases h
    · cases h
      rfl

end References

namespace Operation

variable {op : Operation} {refs : References} {cause : ProtocolError}

theorem status_of_requireData_error (h : op.requireData = .error cause) : cause.status = 400 := by
  rw [requireData] at h
  split at h <;> cases h
  rfl

theorem status_of_requireName_error (h : op.requireName = .error cause) : cause.status = 400 := by
  rw [requireName] at h
  split at h <;> cases h
  rfl

theorem status_of_address_error {identifier : Option String} {payload : Option Json}
    (h : op.address refs identifier payload = .error cause) : cause.status = 400 := by
  unfold address at h
  split at h
  · cases h
    rfl
  · cases h
  · rcases Except.bind_eq_error.1 h with h | ⟨_, -, h⟩
    · exact References.status_of_target_error h
    · cases h
  · rcases Except.bind_eq_error.1 h with h | ⟨_, -, h⟩
    · exact References.status_of_target_error h
    · cases h
  · cases h
    rfl
  · cases h
    rfl

theorem status_of_plan_error {registry : Registry σ} (h : op.plan registry refs = .error cause) :
    cause.status = 400 := by
  simp only [plan_eq_bind, Except.bind_eq_error] at h
  rcases h with h | ⟨data, -, h | ⟨_, -, h | ⟨_, -, h | ⟨_, -, h | ⟨_, -, h | ⟨_, -, h⟩⟩⟩⟩⟩⟩
  · exact status_of_requireData_error h
  · exact status_of_requireName_error h
  · cases data with
    | none => cases h
    | some v =>
      rcases Except.bind_eq_error.1 h with h | ⟨_, -, h⟩
      · exact References.status_of_resolved_error h
      · cases h
  · exact Path.status_of_parse_error h
  · exact Registry.status_of_resolve_error h
  · exact status_of_address_error h
  · cases h

end Operation

end Batch

end Roster
