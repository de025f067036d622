import Roster.Proofs.Json.Sorted
import Roster.Proofs.Resource.Rule
import Roster.Proofs.Uuid

namespace Roster

structure User.Valid (id : Uuid) (u : User) : Prop where
  id_eq : u.id = id
  userName : Text.HasContent u.userName

structure Group.Valid (id : Uuid) (g : Group) : Prop where
  id_eq : g.id = id
  displayName : Text.HasContent g.displayName

structure Credential.Valid (id : Uuid) (c : Credential) : Prop where
  id_eq : c.id = id
  name : Text.HasContent c.name
  clientId : c.clientId = "svc-" ++ id.simple
  simple : id.SimpleForm id.simple

structure CustomResource.Valid (name : String) (id : Uuid) (r : CustomResource) : Prop where
  id_eq : r.id = id
  resourceType : r.resourceType = name
  attributes : ∀ entry ∈ r.attributes, entry.1 ∉ ["id", "resourceType", "meta"]

theorem Text.HasContent.getD {s : String} (h : HasContent s) {change : Option String}
    (hchange : ∀ name ∈ change, HasContent name) : HasContent (change.getD s) := by
  cases change with
  | none => exact h
  | some name => exact hchange name rfl

theorem User.Valid.revise {id : Uuid} {u v : User} {change : UserUpdate} (hu : u.Valid id)
    (h : u.revise change = .ok v) : v.Valid id := by
  obtain ⟨hname, rfl⟩ := revise_eq_ok_iff.1 h
  exact ⟨hu.id_eq, hu.userName.getD hname⟩

theorem Group.Valid.revise {id : Uuid} {users : Store Uuid User} {g g' : Group} {change : GroupUpdate}
    (hg : g.Valid id) (h : Group.revise users change g = .ok g') : g'.Valid id := by
  obtain ⟨hname, -, rfl⟩ := revise_eq_ok_iff.1 h
  exact ⟨hg.id_eq, hg.displayName.getD hname⟩

theorem Credential.Valid.revise {id : Uuid} {users : Store Uuid User} {c c' : Credential}
    {change : CredentialUpdate} (hc : c.Valid id) (h : Credential.revise users change c = .ok c') :
    c'.Valid id := by
  obtain ⟨-, -, hname, -, rfl⟩ := revise_eq_ok_iff.1 h
  exact ⟨hc.id_eq, hc.name.getD hname, hc.clientId, hc.simple⟩

namespace CustomResource

variable {name : String} {id : Uuid} {r r' : CustomResource}

theorem mem_merge {stored changes : Attributes} {entry : String × Json}
    (h : entry ∈ merge stored changes) : entry ∈ stored ∨ entry ∈ changes := by
  induction changes generalizing stored with
  | nil => exact .inl h
  | cons change rest ih =>
    obtain ⟨key, value⟩ := change
    rcases ih h with h | h
    · dsimp only at h
      split at h
      · exact .inl (List.mem_filter.1 h).1
      · rcases Json.mem_insert h with rfl | h
        · exact .inr List.mem_cons_self
        · exact .inl h
    · exact .inr (List.mem_cons_of_mem _ h)

theorem Valid.revise {change : Attributes} (hr : r.Valid name id)
    (h : CustomResource.revise change r = .ok r') : r'.Valid name id := by
  obtain ⟨hchange, rfl⟩ := revise_eq_ok_iff.1 h
  exact ⟨hr.id_eq, hr.resourceType, fun entry hentry =>
    (mem_merge hentry).elim (hr.attributes entry) (hchange entry)⟩

end CustomResource

namespace ResourceType

def Valid : (kind : ResourceType) → Uuid → kind.Entity → Prop
  | .user => User.Valid
  | .group => Group.Valid
  | .serviceCredential => Credential.Valid
  | .custom name => CustomResource.Valid name

variable {kind : ResourceType} {id : Uuid} {users : Store Uuid User}

theorem valid_of_build {params : kind.Params} {a : kind.Entity} (h : kind.build id params = .ok a) :
    kind.Valid id a := by
  cases kind with
  | user =>
    obtain ⟨hname, rfl⟩ := User.build_eq_ok_iff.1 h
    exact ⟨rfl, hname⟩
  | group =>
    obtain ⟨hname, rfl⟩ := Group.build_eq_ok_iff.1 h
    exact ⟨rfl, hname⟩
  | serviceCredential =>
    obtain ⟨-, hname, rfl⟩ := Credential.build_eq_ok_iff.1 h
    exact ⟨rfl, hname, rfl, id.simpleForm_simple⟩
  | custom name =>
    obtain ⟨hattributes, -, rfl⟩ := CustomResource.build_eq_ok_iff.1 h
    exact ⟨rfl, rfl, hattributes⟩

theorem valid_revise {change : kind.Revision} {a b : kind.Entity} (ha : kind.Valid id a)
    (h : kind.revise users change a = .ok b) : kind.Valid id b := by
  cases kind with
  | user => exact User.Valid.revise ha h
  | group => exact Group.Valid.revise ha h
  | serviceCredential => exact Credential.Valid.revise ha h
  | custom name => exact CustomResource.Valid.revise ha h

end ResourceType

end Roster
