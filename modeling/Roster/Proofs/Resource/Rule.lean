import Roster.Proofs.Resource.Kind

namespace Roster

namespace Text

def HasContent (s : String) : Prop := ∃ c ∈ s.toList, isBlank c = false

theorem not_allBlank_iff {s : String} : ¬ allBlank s = true ↔ HasContent s := by
  rw [Bool.not_eq_true]
  exact allBlank_eq_false_iff

theorem not_any_allBlank_iff {change : Option String} :
    ¬ change.any allBlank = true ↔ ∀ s ∈ change, HasContent s := by
  cases change with
  | none => simp
  | some s => simp [HasContent]

end Text

namespace User

variable {id : Uuid} {u v : User}

theorem build_eq_ok_iff {params : UserCreate} :
    build id params = .ok u ↔ Text.HasContent params.userName ∧ u = {
      id := id
      userName := params.userName
      displayName := params.displayName
      emails := params.emails
      active := params.active.getD true } := by
  rw [build, Except.guard_eq_ok, Text.not_allBlank_iff, Except.ok_eq_ok]

theorem revise_eq_ok_iff {change : UserUpdate} :
    u.revise change = .ok v ↔ (∀ name ∈ change.userName, Text.HasContent name) ∧ v = { u with
      userName := change.userName.getD u.userName
      displayName := change.displayName.or u.displayName
      emails := change.emails.getD u.emails
      active := change.active.getD u.active } := by
  rw [revise, Except.guard_eq_ok, Text.not_any_allBlank_iff, Except.ok_eq_ok]

end User

namespace Group

variable {id : Uuid} {users : Store Uuid User} {g g' : Group}

theorem build_eq_ok_iff {params : GroupCreate} :
    build id params = .ok g ↔ Text.HasContent params.displayName ∧
      g = { id := id, displayName := params.displayName, members := params.members } := by
  rw [build, Except.guard_eq_ok, Text.not_allBlank_iff, Except.ok_eq_ok]

theorem known_eq_ok_iff {members : List Member} {x : Unit} :
    known users members = .ok x ↔ ∀ m ∈ members, (users.get? m.value).isSome := by
  rw [known]
  cases hfind : members.find? fun m => (users.get? m.value).isNone with
  | none => simpa [Option.isSome_iff_ne_none] using List.find?_eq_none.1 hfind
  | some m =>
    have hunknown : users.get? m.value = none := by simpa using List.find?_some hfind
    constructor
    · intro h
      cases h
    · intro h
      simpa [hunknown] using h m (List.mem_of_find?_eq_some hfind)

theorem rename_eq_ok_iff {name : Option String} :
    g.rename name = .ok g' ↔ (∀ n ∈ name, Text.HasContent n) ∧
      g' = { g with displayName := name.getD g.displayName } := by
  rw [rename, Except.guard_eq_ok, Text.not_any_allBlank_iff, Except.ok_eq_ok]

theorem revise_eq_ok_iff {change : GroupUpdate} :
    revise users change g = .ok g' ↔ (∀ name ∈ change.displayName, Text.HasContent name) ∧
      (∀ members ∈ change.members, ∀ m ∈ members, (users.get? m.value).isSome) ∧ g' = { g with
        displayName := change.displayName.getD g.displayName
        members := change.members.getD g.members } := by
  simp only [revise, Except.bind_eq_ok, rename_eq_ok_iff, and_assoc, exists_and_left, exists_eq_left]
  refine and_congr_right fun _ => ?_
  cases change.members with
  | none => simp [Except.pure_eq_ok]
  | some members =>
    simp only [Except.bind_eq_ok, known_eq_ok_iff, Except.pure_eq_ok, exists_and_left, exists_const,
      Option.mem_some_iff, forall_eq', Option.getD_some]

end Group

namespace Credential

variable {id : Uuid} {users : Store Uuid User} {c c' : Credential}

theorem build_eq_ok_iff {params : CredentialCreate} :
    build id params = .ok c ↔ params.clientSecret = none ∧ Text.HasContent params.name ∧ c = {
      id := id
      name := params.name
      clientId := clientIdOf id
      ownerId := params.ownerId
      scopes := params.scopes } := by
  rw [build, Except.guard_eq_ok, Option.not_isSome_iff_eq_none, Except.guard_eq_ok, Text.not_allBlank_iff,
    Except.ok_eq_ok]

theorem known_eq_ok_iff {owner : Option Uuid} {x : Unit} :
    known users owner = .ok x ↔ ∀ id ∈ owner, (users.get? id).isSome := by
  cases owner with
  | none => simp [known]
  | some id => simp [known, Option.isSome_iff_ne_none]

theorem rename_eq_ok_iff {change : CredentialUpdate} :
    c.rename change = .ok c' ↔ change.clientSecret = none ∧ (∀ i ∈ change.clientId, i = c.clientId) ∧
      (∀ name ∈ change.name, Text.HasContent name) ∧ c' = { c with name := change.name.getD c.name } := by
  have hother : ¬ change.clientId.any (· ≠ c.clientId) = true ↔ ∀ i ∈ change.clientId, i = c.clientId := by
    cases change.clientId <;> simp
  rw [rename, Except.guard_eq_ok, Option.not_isSome_iff_eq_none, Except.guard_eq_ok, hother,
    Except.guard_eq_ok, Text.not_any_allBlank_iff, Except.ok_eq_ok]

theorem revise_eq_ok_iff {change : CredentialUpdate} :
    revise users change c = .ok c' ↔ change.clientSecret = none ∧
      (∀ i ∈ change.clientId, i = c.clientId) ∧ (∀ name ∈ change.name, Text.HasContent name) ∧
      (∀ id ∈ change.ownerId, (users.get? id).isSome) ∧ c' = { c with
        name := change.name.getD c.name
        ownerId := change.ownerId.or c.ownerId
        scopes := change.scopes.getD c.scopes } := by
  simp only [revise, Except.bind_eq_ok, rename_eq_ok_iff, known_eq_ok_iff, Except.pure_eq_ok, and_assoc,
    exists_and_left, exists_eq_left, exists_const]

end Credential

namespace CustomResource

variable {name : String} {id : Uuid} {r r' : CustomResource} {attributes : Attributes}

theorem intruder?_eq_none_iff :
    intruder? attributes = none ↔ ∀ entry ∈ attributes, entry.1 ∉ serverOwned := by
  simp only [intruder?, List.find?_eq_none, Option.not_isSome_iff_eq_none, Json.get?,
    List.lookup_eq_none_iff]
  constructor
  · intro h entry hentry howned
    simpa using h _ howned entry hentry
  · intro h key hkey entry hentry
    exact bne_iff_ne.2 fun heq => h entry hentry (heq ▸ hkey)

theorem build_eq_ok_iff :
    build id ⟨name, attributes⟩ = .ok r ↔ (∀ entry ∈ attributes, entry.1 ∉ serverOwned) ∧
      attributes ≠ [] ∧ r = { id := id, resourceType := name, attributes := attributes } := by
  rw [← intruder?_eq_none_iff, build]
  cases intruder? attributes with
  | some key => simp
  | none =>
    simp only [true_and]
    split
    · simp [*]
    · simp [*, eq_comm]

theorem revise_eq_ok_iff :
    revise attributes r = .ok r' ↔ (∀ entry ∈ attributes, entry.1 ∉ serverOwned) ∧
      r' = { r with attributes := merge r.attributes attributes } := by
  rw [← intruder?_eq_none_iff, revise]
  cases intruder? attributes with
  | some key => simp
  | none => simp [eq_comm]

end CustomResource

end Roster
