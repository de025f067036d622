import Roster.Proofs.Json.Lookup
import Roster.Proofs.Resource.Rule

namespace Roster

/-- How an attribute is read off an entity, and what a change says of it, if anything. -/
structure Attribute (α υ : Type) where
  Value : Type
  get : α → Value
  carried : υ → Option Value

def Attribute.latest (x : Attribute α υ) (changes : List υ) : Option x.Value :=
  (changes.filterMap x.carried).getLast?

theorem Attribute.latest_append (x : Attribute α υ) (changes : List υ) (change : υ) :
    x.latest (changes ++ [change]) = (x.carried change).or (x.latest changes) := by
  rw [latest, latest, List.filterMap_append, List.getLast?_append]
  cases h : x.carried change <;> simp [h]

theorem or_eq_getD (given old : Option α) : given.or old = (given.map some).getD old := by
  cases given <;> rfl

namespace User

def attributes : List (Attribute User UserUpdate) := [
  ⟨_, id, fun _ => none⟩,
  ⟨_, userName, (·.userName)⟩,
  ⟨_, displayName, (·.displayName.map some)⟩,
  ⟨_, emails, (·.emails)⟩,
  ⟨_, active, (·.active)⟩]

theorem attribute_revise {change : UserUpdate} {u v : User} (h : u.revise change = .ok v) :
    ∀ x ∈ attributes, x.get v = (x.carried change).getD (x.get u) := by
  obtain ⟨-, rfl⟩ := revise_eq_ok_iff.1 h
  intro x hx
  simp only [attributes, List.mem_cons, List.not_mem_nil, or_false] at hx
  obtain rfl | rfl | rfl | rfl | rfl := hx
  · rfl
  · rfl
  · exact or_eq_getD change.displayName u.displayName
  · rfl
  · rfl

end User

namespace Group

def attributes : List (Attribute Group GroupUpdate) := [
  ⟨_, id, fun _ => none⟩,
  ⟨_, displayName, (·.displayName)⟩,
  ⟨_, members, (·.members)⟩]

theorem attribute_revise {users : Store Uuid User} {change : GroupUpdate} {g g' : Group}
    (h : revise users change g = .ok g') : ∀ x ∈ attributes, x.get g' = (x.carried change).getD (x.get g) := by
  obtain ⟨-, -, rfl⟩ := revise_eq_ok_iff.1 h
  intro x hx
  simp only [attributes, List.mem_cons, List.not_mem_nil, or_false] at hx
  obtain rfl | rfl | rfl := hx <;> rfl

end Group

namespace Credential

def attributes : List (Attribute Credential CredentialUpdate) := [
  ⟨_, id, fun _ => none⟩,
  ⟨_, name, (·.name)⟩,
  ⟨_, clientId, (·.clientId)⟩,
  ⟨_, ownerId, (·.ownerId.map some)⟩,
  ⟨_, scopes, (·.scopes)⟩]

theorem attribute_revise {users : Store Uuid User} {change : CredentialUpdate} {c c' : Credential}
    (h : revise users change c = .ok c') : ∀ x ∈ attributes, x.get c' = (x.carried change).getD (x.get c) := by
  obtain ⟨-, hclient, -, -, rfl⟩ := revise_eq_ok_iff.1 h
  intro x hx
  simp only [attributes, List.mem_cons, List.not_mem_nil, or_false] at hx
  obtain rfl | rfl | rfl | rfl | rfl := hx
  · rfl
  · rfl
  -- The client identifier may be carried, but only as it is.
  · cases hgiven : change.clientId with
    | none => simp [hgiven]
    | some given => simp [hgiven, hclient given hgiven]
  · exact or_eq_getD change.ownerId c.ownerId
  · rfl

end Credential

namespace CustomResource

def mention? (name : String) (change : Attributes) : Option Json := Json.get? name change.reverse

def wanted : Json → Option Json
  | .null => none
  | v => some v

theorem wanted_eq_none_iff {v : Json} : wanted v = none ↔ v = .null := by
  cases v <;> simp [wanted]

def named (name : String) : Attribute CustomResource Attributes :=
  ⟨_, fun r => Json.get? name r.attributes, fun change => (mention? name change).map wanted⟩

def fixed : List (Attribute CustomResource Attributes) := [
  ⟨_, id, fun _ => none⟩,
  ⟨_, resourceType, fun _ => none⟩]

theorem mention?_cons (name key : String) (v : Json) (rest : Attributes) :
    mention? name ((key, v) :: rest) = (mention? name rest).or (if name = key then some v else none) := by
  rw [mention?, List.reverse_cons, Json.get?, List.lookup_append]
  exact congrArg _ (Json.get?_cons name key v [])

theorem merge_cons (stored : Attributes) (key : String) (v : Json) (rest : Attributes) :
    merge stored ((key, v) :: rest) =
      merge (match wanted v with
        | none => Json.erase key stored
        | some v => Json.insert key v stored) rest := by
  cases v <;> rfl

theorem get?_merge (name : String) (stored changes : Attributes) :
    Json.get? name (merge stored changes) = ((mention? name changes).map wanted).getD (Json.get? name stored) := by
  induction changes generalizing stored with
  | nil => rfl
  | cons change rest ih =>
    obtain ⟨key, v⟩ := change
    have hfirst : Json.get? name (match wanted v with
        | none => Json.erase key stored
        | some v => Json.insert key v stored) = if name = key then wanted v else Json.get? name stored := by
      cases wanted v with
      | none => exact Json.get?_erase key name stored
      | some v => exact Json.get?_insert key name v stored
    rw [merge_cons, ih, hfirst, mention?_cons]
    cases mention? name rest with
    | some v => rfl
    | none => by_cases h : name = key <;> simp [h]

theorem Ascending.merge {stored : Attributes} (h : Json.Ascending stored) (changes : Attributes) :
    Json.Ascending (merge stored changes) := by
  induction changes generalizing stored with
  | nil => exact h
  | cons change rest ih =>
    obtain ⟨key, v⟩ := change
    rw [merge_cons]
    apply ih
    cases wanted v with
    | none => exact h.erase key
    | some v => exact h.insert key v

theorem attribute_revise {change : Attributes} {r r' : CustomResource} (h : r.revise change = .ok r') :
    ∀ x, x ∈ fixed ∨ (∃ name, x = named name) → x.get r' = (x.carried change).getD (x.get r) := by
  obtain ⟨-, rfl⟩ := revise_eq_ok_iff.1 h
  rintro x (hx | ⟨name, rfl⟩)
  · simp only [fixed, List.mem_cons, List.not_mem_nil, or_false] at hx
    obtain rfl | rfl := hx <;> rfl
  · exact get?_merge name r.attributes change

end CustomResource

namespace ResourceType

def HasAttribute : (kind : ResourceType) → Attribute kind.Entity kind.Revision → Prop
  | .user, x => x ∈ User.attributes
  | .group, x => x ∈ Group.attributes
  | .serviceCredential, x => x ∈ Credential.attributes
  | .custom _, x => x ∈ CustomResource.fixed ∨ ∃ name, x = CustomResource.named name

/-- Free attributes stand in the order of their names, as the members of every object that was read. -/
def Tidy : (kind : ResourceType) → kind.Entity → Prop
  | .custom _, r => Json.Ascending (CustomResource.attributes r)
  | _, _ => True

variable {kind : ResourceType} {users : Store Uuid User} {change : kind.Revision} {a b c : kind.Entity}

theorem attribute_revise (h : kind.revise users change a = .ok b) :
    ∀ x, kind.HasAttribute x → x.get b = (x.carried change).getD (x.get a) := by
  cases kind with
  | user => exact User.attribute_revise h
  | group => exact Group.attribute_revise h
  | serviceCredential => exact Credential.attribute_revise h
  | custom name => exact CustomResource.attribute_revise h

theorem Tidy.revise (ha : kind.Tidy a) (h : kind.revise users change a = .ok b) : kind.Tidy b := by
  cases kind with
  | user | group | serviceCredential => trivial
  | custom name =>
    obtain ⟨-, rfl⟩ := CustomResource.revise_eq_ok_iff.1 h
    exact CustomResource.Ascending.merge ha change

theorem Tidy.ext (ha : kind.Tidy a) (hb : kind.Tidy b) (h : ∀ x, kind.HasAttribute x → x.get a = x.get b) :
    a = b := by
  cases kind with
  | user =>
    obtain ⟨id, userName, displayName, emails, active⟩ := a
    obtain ⟨id', userName', displayName', emails', active'⟩ := b
    simpa [HasAttribute, User.attributes] using h
  | group =>
    obtain ⟨id, displayName, members⟩ := a
    obtain ⟨id', displayName', members'⟩ := b
    simpa [HasAttribute, Group.attributes] using h
  | serviceCredential =>
    obtain ⟨id, name, clientId, ownerId, scopes⟩ := a
    obtain ⟨id', name', clientId', ownerId', scopes'⟩ := b
    simpa [HasAttribute, Credential.attributes] using h
  | custom name =>
    obtain ⟨id, resourceType, attributes⟩ := a
    obtain ⟨id', resourceType', attributes'⟩ := b
    obtain rfl : attributes = attributes' := Json.Ascending.ext ha hb fun key =>
      h (CustomResource.named key) (.inr ⟨key, rfl⟩)
    simpa [HasAttribute, CustomResource.fixed, or_imp, forall_and] using fun x hx => h x (.inl hx)

/-- The last change that carries an attribute decides it; what none carries is as it was. -/
def LastWins (a : kind.Entity) (changes : List kind.Revision) (b : kind.Entity) : Prop :=
  ∀ x, kind.HasAttribute x → x.get b = (x.latest changes).getD (x.get a)

theorem LastWins.refl (a : kind.Entity) : LastWins a [] a := fun _ _ => rfl

theorem LastWins.revise {changes : List kind.Revision} (hb : LastWins a changes b)
    (h : kind.revise users change b = .ok c) : LastWins a (changes ++ [change]) c := by
  intro x hx
  rw [attribute_revise h x hx, hb x hx, x.latest_append]
  cases x.carried change <;> rfl

theorem LastWins.unique {changes : List kind.Revision} (hb : LastWins a changes b) (hc : LastWins a changes c)
    (htidy : kind.Tidy b) (htidy' : kind.Tidy c) : b = c :=
  htidy.ext htidy' fun x hx => (hb x hx).trans (hc x hx).symm

theorem exists_revise_again (h : kind.revise users change a = .ok b) :
    ∃ c, kind.revise users change b = .ok c := by
  cases kind with
  | user =>
    obtain ⟨hname, rfl⟩ := User.revise_eq_ok_iff.1 h
    exact ⟨_, User.revise_eq_ok_iff.2 ⟨hname, rfl⟩⟩
  | group =>
    obtain ⟨hname, hmembers, rfl⟩ := Group.revise_eq_ok_iff.1 h
    exact ⟨_, Group.revise_eq_ok_iff.2 ⟨hname, hmembers, rfl⟩⟩
  | serviceCredential =>
    obtain ⟨hsecret, hclient, hname, howner, rfl⟩ := Credential.revise_eq_ok_iff.1 h
    exact ⟨_, Credential.revise_eq_ok_iff.2 ⟨hsecret, hclient, hname, howner, rfl⟩⟩
  | custom name =>
    obtain ⟨hnames, rfl⟩ := CustomResource.revise_eq_ok_iff.1 h
    exact ⟨_, CustomResource.revise_eq_ok_iff.2 ⟨hnames, rfl⟩⟩

theorem lastWins_of_revise_again (h : kind.revise users change a = .ok b)
    (hagain : kind.revise users change b = .ok c) : LastWins b [] c := by
  intro x hx
  rw [attribute_revise hagain x hx, attribute_revise h x hx]
  cases x.carried change <;> rfl

end ResourceType

end Roster
