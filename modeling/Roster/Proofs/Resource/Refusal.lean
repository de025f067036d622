import Roster.Proofs.Resource.Kind

namespace Roster

/-- Handlers report the error as a bad request, and not as something that is missing. -/
structure ResourceError.Refuses {ε : Type} [ResourceError ε] (error : ε) : Prop where
  missing? : missing? error = none
  status : (classify error).toProtocolError.status = 400

open ResourceError (Refuses)

namespace User

theorem refuses_of_build {id : Uuid} {params : UserCreate} {error : UserError}
    (h : build id params = .error error) : Refuses error := by
  rw [build] at h
  split at h <;> cases h
  exact ⟨rfl, rfl⟩

theorem refuses_of_revise {change : UserUpdate} {u : User} {error : UserError}
    (h : u.revise change = .error error) : Refuses error := by
  rw [revise] at h
  split at h <;> cases h
  exact ⟨rfl, rfl⟩

end User

namespace Group

variable {users : Store Uuid User} {error : GroupError}

theorem refuses_of_build {id : Uuid} {params : GroupCreate} (h : build id params = .error error) :
    Refuses error := by
  rw [build] at h
  split at h <;> cases h
  exact ⟨rfl, rfl⟩

theorem refuses_of_known {members : List Member} (h : known users members = .error error) :
    Refuses error := by
  rw [known] at h
  split at h <;> cases h
  exact ⟨rfl, rfl⟩

theorem refuses_of_revise {change : GroupUpdate} {g : Group}
    (h : revise users change g = .error error) : Refuses error := by
  rcases Except.bind_eq_error.1 h with h | ⟨_, -, h⟩
  · rw [rename] at h
    split at h <;> cases h
    exact ⟨rfl, rfl⟩
  · split at h
    · cases h
    · rcases Except.bind_eq_error.1 h with h | ⟨_, -, h⟩
      · exact refuses_of_known h
      · cases h

end Group

namespace Credential

variable {users : Store Uuid User} {error : CredentialError}

theorem refuses_of_build {id : Uuid} {params : CredentialCreate} (h : build id params = .error error) :
    Refuses error := by
  rw [build] at h
  split at h
  · cases h
    exact ⟨rfl, rfl⟩
  · split at h <;> cases h
    exact ⟨rfl, rfl⟩

theorem refuses_of_known {owner : Option Uuid} (h : known users owner = .error error) :
    Refuses error := by
  cases owner with
  | none => cases h
  | some id =>
    rw [known] at h
    split at h <;> cases h
    exact ⟨rfl, rfl⟩

theorem refuses_of_rename {change : CredentialUpdate} {c : Credential}
    (h : c.rename change = .error error) : Refuses error := by
  rw [rename] at h
  split at h
  · cases h
    exact ⟨rfl, rfl⟩
  · split at h
    · cases h
      exact ⟨rfl, rfl⟩
    · split at h <;> cases h
      exact ⟨rfl, rfl⟩

theorem refuses_of_revise {change : CredentialUpdate} {c : Credential}
    (h : revise users change c = .error error) : Refuses error := by
  rcases Except.bind_eq_error.1 h with h | ⟨_, -, h⟩
  · exact refuses_of_rename h
  · rcases Except.bind_eq_error.1 h with h | ⟨_, -, h⟩
    · exact refuses_of_known h
    · cases h

end Credential

namespace CustomResource

variable {error : CustomError}

theorem refuses_of_build {id : Uuid} {params : CustomCreate} (h : build id params = .error error) :
    Refuses error := by
  rw [build] at h
  split at h
  · cases h
    exact ⟨rfl, rfl⟩
  · split at h <;> cases h
    exact ⟨rfl, rfl⟩

theorem refuses_of_revise {change : Attributes} {r : CustomResource}
    (h : revise change r = .error error) : Refuses error := by
  rw [revise] at h
  split at h <;> cases h
  exact ⟨rfl, rfl⟩

end CustomResource

theorem status_of_readPayload_error {α : Type} [Decode α] {payload : Json} {cause : ProtocolError}
    (h : readPayload α payload = .error cause) : cause.status = 400 := by
  rw [readPayload] at h
  split at h <;> cases h
  rfl

theorem keyword_of_readPayload_error {α : Type} [Decode α] {payload : Json} {cause : ProtocolError}
    (h : readPayload α payload = .error cause) : cause.keyword = some .invalidSyntax := by
  rw [readPayload] at h
  split at h <;> cases h
  rfl

theorem ofJson_of_readPayload {α : Type} [Decode α] {payload : Json} {a : α} (h : readPayload α payload = .ok a) :
    Decode.ofJson payload = .ok a := by
  rw [readPayload] at h
  split at h
  · rename_i hdecode
    rw [hdecode, Except.ok.inj h]
  · cases h

theorem CustomResource.status_of_readAttributes_error {payload : Json} {cause : ProtocolError}
    (h : readAttributes payload = .error cause) : cause.status = 400 := by
  unfold readAttributes at h
  split at h <;> cases h
  rfl

namespace ResourceType

variable {kind : ResourceType} {users : Store Uuid User} {payload : Json} {cause : ProtocolError}

theorem status_of_readParams_error (h : kind.readParams payload = .error cause) : cause.status = 400 := by
  cases kind with
  | user => exact status_of_readPayload_error h
  | group => exact status_of_readPayload_error h
  | serviceCredential => exact status_of_readPayload_error h
  | custom name => exact CustomResource.status_of_readAttributes_error h

theorem status_of_readRevision_error (h : kind.readRevision payload = .error cause) :
    cause.status = 400 := by
  cases kind with
  | user => exact status_of_readPayload_error h
  | group => exact status_of_readPayload_error h
  | serviceCredential => exact status_of_readPayload_error h
  | custom name => exact CustomResource.status_of_readAttributes_error h

theorem refuses_of_build {id : Uuid} {params : kind.Params} {error : kind.Error}
    (h : kind.build id params = .error error) : Refuses error := by
  cases kind with
  | user => exact User.refuses_of_build h
  | group => exact Group.refuses_of_build h
  | serviceCredential => exact Credential.refuses_of_build h
  | custom name => exact CustomResource.refuses_of_build h

theorem refuses_of_accept {a : kind.Entity} {error : kind.Error}
    (h : kind.accept users a = .error error) : Refuses error := by
  cases kind with
  | user => cases h
  | group => exact Group.refuses_of_known h
  | serviceCredential => exact Credential.refuses_of_known h
  | custom name => cases h

theorem refuses_of_make {id : Uuid} {params : kind.Params} {error : kind.Error}
    (h : kind.make users id params = .error error) : Refuses error := by
  rcases Except.bind_eq_error.1 h with h | ⟨_, -, h⟩
  · exact refuses_of_build h
  · rcases Except.bind_eq_error.1 h with h | ⟨_, -, h⟩
    · exact refuses_of_accept h
    · cases h

theorem refuses_of_revise {change : kind.Revision} {a : kind.Entity} {error : kind.Error}
    (h : kind.revise users change a = .error error) : Refuses error := by
  cases kind with
  | user => exact User.refuses_of_revise h
  | group => exact Group.refuses_of_revise h
  | serviceCredential => exact Credential.refuses_of_revise h
  | custom name => exact CustomResource.refuses_of_revise h

end ResourceType

end Roster
