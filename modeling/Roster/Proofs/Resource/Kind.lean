import Roster.Directory
import Roster.Proofs.Except

/-! What sets the kinds of resources apart, and what they have in common.  Rules that look up users are given the store of
users. -/

namespace Roster

namespace Group

def known (users : Store Uuid User) (members : List Member) : Except GroupError Unit :=
  match members.find? fun m => (users.get? m.value).isNone with
  | some m => .error (.unknownMember m.value)
  | none => .ok ()

theorem checkMembers_eq_known {σ : Type} {lookup : UserLookup σ} {users : Store Uuid User} {s : σ}
    (h : ∀ id, lookup id s = (.ok (users.get? id), s)) (members : List Member) :
    checkMembers lookup members s = (known users members, s) := by
  induction members with
  | nil => rfl
  | cons m rest ih =>
    rw [checkMembers, h, known, List.find?_cons]
    cases users.get? m.value with
    | none => rfl
    | some u => exact ih

def revise (users : Store Uuid User) (change : GroupUpdate) (g : Group) : Except GroupError Group := do
  let g ← g.rename change.displayName
  match change.members with
  | none => return g
  | some members =>
    known users members
    return { g with members := members }

end Group

namespace Credential

def known (users : Store Uuid User) : Option Uuid → Except CredentialError Unit
  | none => .ok ()
  | some owner => if (users.get? owner).isSome then .ok () else .error (.unknownOwner owner)

theorem checkOwner_eq_known {σ : Type} {lookup : UserLookup σ} {users : Store Uuid User} {s : σ}
    (h : ∀ id, lookup id s = (.ok (users.get? id), s)) (owner : Option Uuid) :
    checkOwner lookup owner s = (known users owner, s) := by
  cases owner with
  | none => rfl
  | some owner =>
    rw [checkOwner, h, known]
    cases users.get? owner <;> rfl

def revise (users : Store Uuid User) (change : CredentialUpdate) (c : Credential) :
    Except CredentialError Credential := do
  let c ← c.rename change
  known users change.ownerId
  return { c with ownerId := change.ownerId.or c.ownerId, scopes := change.scopes.getD c.scopes }

end Credential

def CustomResource.revise (change : Attributes) (r : CustomResource) :
    Except CustomError CustomResource :=
  match intruder? change with
  | some name => .error (.readOnly name)
  | none => .ok { r with attributes := merge r.attributes change }

namespace ResourceType

abbrev Entity : ResourceType → Type
  | .user => User
  | .group => Group
  | .serviceCredential => Credential
  | .custom _ => CustomResource

abbrev Params : ResourceType → Type
  | .user => UserCreate
  | .group => GroupCreate
  | .serviceCredential => CredentialCreate
  | .custom _ => Attributes

abbrev Revision : ResourceType → Type
  | .user => UserUpdate
  | .group => GroupUpdate
  | .serviceCredential => CredentialUpdate
  | .custom _ => Attributes

abbrev Error : ResourceType → Type
  | .user => UserError
  | .group => GroupError
  | .serviceCredential => CredentialError
  | .custom _ => CustomError

instance resourceError : (kind : ResourceType) → ResourceError kind.Error
  | .user => inferInstanceAs (ResourceError UserError)
  | .group => inferInstanceAs (ResourceError GroupError)
  | .serviceCredential => inferInstanceAs (ResourceError CredentialError)
  | .custom _ => inferInstanceAs (ResourceError CustomError)

def segment : ResourceType → String
  | .user => "Users"
  | .group => "Groups"
  | .serviceCredential => "ServiceCredentials"
  | .custom name => name

def readParams : (kind : ResourceType) → Json → Except ProtocolError kind.Params
  | .user => readPayload UserCreate
  | .group => readPayload GroupCreate
  | .serviceCredential => readPayload CredentialCreate
  | .custom _ => CustomResource.readAttributes

def readRevision : (kind : ResourceType) → Json → Except ProtocolError kind.Revision
  | .user => readPayload UserUpdate
  | .group => readPayload GroupUpdate
  | .serviceCredential => readPayload CredentialUpdate
  | .custom _ => CustomResource.readAttributes

def build : (kind : ResourceType) → Uuid → kind.Params → Except kind.Error kind.Entity
  | .user => User.build
  | .group => Group.build
  | .serviceCredential => Credential.build
  | .custom name => fun id attributes => CustomResource.build id ⟨name, attributes⟩

def accept : (kind : ResourceType) → Store Uuid User → kind.Entity → Except kind.Error Unit
  | .user, _, _ => .ok ()
  | .group, users, g => Group.known users (Group.members g)
  | .serviceCredential, users, c => Credential.known users (Credential.ownerId c)
  | .custom _, _, _ => .ok ()

def revise : (kind : ResourceType) → Store Uuid User → kind.Revision → kind.Entity →
    Except kind.Error kind.Entity
  | .user, _ => User.revise
  | .group, users => Group.revise users
  | .serviceCredential, users => Credential.revise users
  | .custom _, _ => CustomResource.revise

def make (kind : ResourceType) (users : Store Uuid User) (id : Uuid) (params : kind.Params) :
    Except kind.Error kind.Entity := do
  let a ← kind.build id params
  kind.accept users a
  return a

theorem build_of_make {kind : ResourceType} {users : Store Uuid User} {id : Uuid} {params : kind.Params}
    {a : kind.Entity} (h : kind.make users id params = .ok a) :
    kind.build id params = .ok a ∧ kind.accept users a = .ok () := by
  obtain ⟨b, hb, hrest⟩ := Except.bind_eq_ok.1 h
  obtain ⟨_, ha, hpure⟩ := Except.bind_eq_ok.1 hrest
  obtain rfl := Except.ok.inj hpure
  exact ⟨hb, ha⟩

end ResourceType

end Roster
