import Roster.Proofs.Directory.Registry
import Roster.Proofs.Resource.Condition
import Roster.Proofs.Resource.Refusal

namespace Roster.Directory

/-- A write succeeds when all conditions hold, and only then; if it fails, the first that does not hold is reported. -/
structure Settled (conditions : List Condition) {α : Type} (success : α) (answer : Except Refusal α) : Prop where
  succeeds : answer = .ok success ↔ ∀ c ∈ conditions, c.Holds
  fails : ∀ refusal, answer = .error refusal ↔ ∃ cause, refusal = .protocol cause ∧ FirstViolated conditions cause

variable {generate : Nat → Uuid} {kind : ResourceType} {d : Directory} {conditions : List Condition}

theorem settled_ok {α : Type} (success : α) (h : ∀ c ∈ conditions, c.Holds) :
    Settled conditions success (.ok success) where
  succeeds := ⟨fun _ => h, fun _ => rfl⟩
  fails _ := ⟨nofun, fun ⟨_, _, hfirst⟩ => (hfirst.not_forall h).elim⟩

theorem settled_error {α : Type} {success : α} {cause : ProtocolError} (h : FirstViolated conditions cause) :
    Settled conditions success (.error (.protocol cause)) where
  succeeds := ⟨nofun, fun hall => (h.not_forall hall).elim⟩
  fails refusal := by
    constructor
    · intro heq
      exact ⟨cause, (Except.error.inj heq).symm, h⟩
    · rintro ⟨cause', rfl, h'⟩
      rw [h.unique h']

theorem settled_create (hd : d.Has kind) {payload : Json} {params : kind.Params}
    (hread : kind.readParams payload = .ok params)
    (h : Judged conditions (kind.make d.users (generate d.issued) params)) :
    Settled conditions (generate d.issued) ((handler generate kind).create payload d).1 := by
  rw [handler_create generate hd, hread]
  cases hmake : kind.make d.users (generate d.issued) params with
  | ok a =>
    rw [hmake] at h
    cases h with
    | accepted _ hall => simpa only [hmake] using settled_ok (generate d.issued) hall
  | error e =>
    rw [hmake] at h
    cases h with
    | refused hfirst hclass =>
      simp only [hmake, hclass]
      exact settled_error hfirst

theorem settled_update (hd : d.Has kind) {id : Uuid} {payload : Json} {change : kind.Revision} {a : kind.Entity}
    (hread : kind.readRevision payload = .ok change) (ha : d.find? kind id = some a)
    (h : Judged conditions (kind.revise d.users change a)) :
    Settled conditions true ((handler generate kind).update id payload d).1 := by
  rw [handler_update generate hd, hread, ha]
  cases hrevise : kind.revise d.users change a with
  | ok b =>
    rw [hrevise] at h
    cases h with
    | accepted _ hall => simpa only [hrevise] using settled_ok true hall
  | error e =>
    rw [hrevise] at h
    have hpresent : ¬ (ResourceError.missing? e).isSome = true := by
      simp [(ResourceType.refuses_of_revise hrevise).missing?]
    cases h with
    | refused hfirst hclass =>
      simp only [hrevise, if_neg hpresent, hclass]
      exact settled_error hfirst

theorem create_succeeds_iff (hd : d.Has kind) (params : kind.Params) :
    (∃ id, ((client generate kind).create params d).1 = .ok id) ↔
      ∃ a, kind.make d.users (generate d.issued) params = .ok a := by
  rw [client_create generate hd]
  cases kind.make d.users (generate d.issued) params <;> simp

theorem update_succeeds_iff (hd : d.Has kind) {id : Uuid} {a : kind.Entity} (ha : d.find? kind id = some a)
    (change : kind.Revision) :
    (∃ b, ((client generate kind).update id change d).1 = .ok b) ↔
      ∃ b, kind.revise d.users change a = .ok b := by
  rw [client_update generate hd, ha]
  cases hrevise : kind.revise d.users change a <;> simp [hrevise]

/-- Exactly the groups and credentials with valid references are taken, whatever was stored before, and the handlers report
the first condition that is violated. -/
structure TakesValid (generate : Nat → Uuid) (d : Directory) : Prop where
  createGroup : ∀ params : GroupCreate,
    (∃ id, ((client generate .group).create params d).1 = .ok id) ↔
      Text.HasContent params.displayName ∧ ∀ m ∈ params.members, (d.find? .user m.value).isSome
  updateGroup : ∀ id g, d.find? .group id = some g → ∀ change : GroupUpdate,
    (∃ g', ((client generate .group).update id change d).1 = .ok g') ↔
      (∀ name ∈ change.displayName, Text.HasContent name) ∧
        ∀ members ∈ change.members, ∀ m ∈ members, (d.find? .user m.value).isSome
  createCredential : ∀ params : CredentialCreate,
    (∃ id, ((client generate .serviceCredential).create params d).1 = .ok id) ↔
      params.clientSecret = none ∧ Text.HasContent params.name ∧ ∀ id ∈ params.ownerId, (d.find? .user id).isSome
  updateCredential : ∀ id (c : Credential), d.find? .serviceCredential id = some c → ∀ change : CredentialUpdate,
    (∃ c', ((client generate .serviceCredential).update id change d).1 = .ok c') ↔
      change.clientSecret = none ∧ (∀ i ∈ change.clientId, i = c.clientId) ∧
        (∀ name ∈ change.name, Text.HasContent name) ∧ ∀ id ∈ change.ownerId, (d.find? .user id).isSome
  groupCreated : ∀ payload params, readPayload GroupCreate payload = .ok params →
    Settled (params.conditions d.users) (generate d.issued) ((handler generate .group).create payload d).1
  groupUpdated : ∀ id g, d.find? .group id = some g →
    ∀ payload change, readPayload GroupUpdate payload = .ok change →
    Settled (change.conditions d.users) true ((handler generate .group).update id payload d).1
  credentialCreated : ∀ payload params, readPayload CredentialCreate payload = .ok params →
    Settled (params.conditions d.users) (generate d.issued) ((handler generate .serviceCredential).create payload d).1
  credentialUpdated : ∀ id (c : Credential), d.find? .serviceCredential id = some c →
    ∀ payload change, readPayload CredentialUpdate payload = .ok change →
    Settled (change.conditions d.users c) true ((handler generate .serviceCredential).update id payload d).1

theorem takesValid (generate : Nat → Uuid) (d : Directory) : TakesValid generate d := by
  have hgroup : d.Has .group := trivial
  have hcredential : d.Has .serviceCredential := trivial
  constructor
  case createGroup =>
    intro params
    rw [create_succeeds_iff hgroup, (Group.judged_make _ params).exists_ok_iff]
    simp [GroupCreate.conditions, Condition.name, Condition.member, find?, store]
  case updateGroup =>
    intro id g hg change
    rw [update_succeeds_iff hgroup hg, (Group.judged_revise change g).exists_ok_iff]
    rw [GroupUpdate.conditions]
    cases change.members <;> simp [Condition.name, Condition.member, find?, store]
  case createCredential =>
    intro params
    rw [create_succeeds_iff hcredential, (Credential.judged_make _ params).exists_ok_iff]
    simp [CredentialCreate.conditions, Condition.secret, Condition.name, Condition.owner, find?, store]
  case updateCredential =>
    intro id c hc change
    rw [update_succeeds_iff hcredential hc, (Credential.judged_revise change c).exists_ok_iff]
    simp [CredentialUpdate.conditions, Condition.secret, Condition.clientId, Condition.name, Condition.owner, find?,
      store]
  case groupCreated =>
    intro payload params hread
    exact settled_create hgroup hread (Group.judged_make _ params)
  case groupUpdated =>
    intro id g hg payload change hread
    exact settled_update hgroup hread hg (Group.judged_revise change g)
  case credentialCreated =>
    intro payload params hread
    exact settled_create hcredential hread (Credential.judged_make _ params)
  case credentialUpdated =>
    intro id c hc payload change hread
    exact settled_update hcredential hread hc (Credential.judged_revise change c)

-- The name is blank as well, and the owner unknown, but the secret is looked at first.
example : ((handler (fun n => ⟨.ofNat 128 n⟩) .serviceCredential).create (.object [("name", .string " "),
    ("ownerId", .string "00000000-0000-0000-0000-000000000007"), ("secret", .string "hunter2")]) (empty [])).1 =
      .error (.protocol (.badRequest .sensitive "Attribute 'clientSecret' cannot be written through this API")) := rfl

end Roster.Directory
