import Roster.Proofs.Resource.Rule

namespace Roster

structure Condition where
  Holds : Prop
  error : ProtocolError

def FirstViolated (conditions : List Condition) (cause : ProtocolError) : Prop :=
  ∃ before c after, conditions = before ++ c :: after ∧ (∀ c' ∈ before, c'.Holds) ∧ ¬ c.Holds ∧ cause = c.error

theorem FirstViolated.not_forall {conditions : List Condition} {cause : ProtocolError}
    (h : FirstViolated conditions cause) : ¬ ∀ c ∈ conditions, c.Holds := by
  obtain ⟨before, c, after, rfl, -, hc, -⟩ := h
  exact fun hall => hc (hall c (List.mem_append_right _ List.mem_cons_self))

theorem firstViolated_cons {c : Condition} {conditions : List Condition} {cause : ProtocolError} :
    FirstViolated (c :: conditions) cause ↔
      ¬ c.Holds ∧ cause = c.error ∨ c.Holds ∧ FirstViolated conditions cause := by
  constructor
  · rintro ⟨before, c', after, heq, hbefore, hc', rfl⟩
    cases before with
    | nil =>
      obtain ⟨rfl, -⟩ := List.cons.inj heq
      exact .inl ⟨hc', rfl⟩
    | cons first before =>
      obtain ⟨rfl, rfl⟩ := List.cons.inj heq
      obtain ⟨hfirst, hbefore⟩ := List.forall_mem_cons.1 hbefore
      exact .inr ⟨hfirst, before, c', after, rfl, hbefore, hc', rfl⟩
  · rintro (⟨hc, rfl⟩ | ⟨hc, before, c', after, rfl, hbefore, hc', rfl⟩)
    · exact ⟨[], c, conditions, rfl, nofun, hc, rfl⟩
    · exact ⟨c :: before, c', after, rfl, List.forall_mem_cons.2 ⟨hc, hbefore⟩, hc', rfl⟩

theorem FirstViolated.unique {conditions : List Condition} {cause cause' : ProtocolError}
    (h : FirstViolated conditions cause) (h' : FirstViolated conditions cause') : cause = cause' := by
  induction conditions with
  | nil =>
    obtain ⟨before, c, after, heq, -⟩ := h
    cases before <;> cases heq
  | cons c rest ih =>
    rcases firstViolated_cons.1 h with ⟨hc, rfl⟩ | ⟨hc, hrest⟩ <;>
      rcases firstViolated_cons.1 h' with ⟨hc', rfl⟩ | ⟨hc', hrest'⟩
    · rfl
    · exact absurd hc' hc
    · exact absurd hc hc'
    · exact ih hrest hrest'

inductive Judged {ε : Type} [ResourceError ε] (conditions : List Condition) {α : Type} : Except ε α → Prop
  | accepted (a : α) : (∀ c ∈ conditions, c.Holds) → Judged conditions (.ok a)
  | refused {e : ε} {cause : ProtocolError} : FirstViolated conditions cause →
    ResourceError.classify e = .protocol cause → Judged conditions (.error e)

namespace Judged

variable {ε α β : Type} [ResourceError ε] {conditions conditions' : List Condition} {x : Except ε α}

theorem ok (a : α) : Judged [] (.ok a : Except ε α) := .accepted a nofun

theorem exists_ok_iff (hx : Judged conditions x) : (∃ a, x = .ok a) ↔ ∀ c ∈ conditions, c.Holds := by
  cases hx with
  | accepted a hall => exact ⟨fun _ => hall, fun _ => ⟨a, rfl⟩⟩
  | refused hfirst _ => exact ⟨nofun, fun hall => (hfirst.not_forall hall).elim⟩

theorem guard {p : Prop} [Decidable p] {e : ε} {c : Condition} (hp : p ↔ ¬ c.Holds)
    (he : ResourceError.classify e = .protocol c.error) (hx : Judged conditions x) :
    Judged (c :: conditions) (if p then .error e else x) := by
  split
  · rename_i h
    exact .refused (firstViolated_cons.2 (.inl ⟨hp.1 h, rfl⟩)) he
  · rename_i h
    have hc : c.Holds := Classical.not_not.1 (mt hp.2 h)
    cases hx with
    | accepted a hall => exact .accepted a (List.forall_mem_cons.2 ⟨hc, hall⟩)
    | refused hfirst hclass => exact .refused (firstViolated_cons.2 (.inr ⟨hc, hfirst⟩)) hclass

theorem bind {f : α → Except ε β} (hx : Judged conditions x) (hf : ∀ a, x = .ok a → Judged conditions' (f a)) :
    Judged (conditions ++ conditions') (x >>= f) := by
  cases hx with
  | refused hfirst hclass =>
    obtain ⟨before, c, after, rfl, hrest⟩ := hfirst
    exact .refused ⟨before, c, after ++ conditions', List.append_assoc .., hrest⟩ hclass
  | accepted a hall =>
    have hnext : Judged conditions' (f a) := hf a rfl
    change Judged _ (f a)
    generalize f a = y at hnext ⊢
    cases hnext with
    | accepted b hall' => exact .accepted b (List.forall_mem_append.2 ⟨hall, hall'⟩)
    | refused hfirst hclass =>
      obtain ⟨before, c, after, rfl, hbefore, hc⟩ := hfirst
      exact .refused ⟨conditions ++ before, c, after, (List.append_assoc ..).symm,
        List.forall_mem_append.2 ⟨hall, hbefore⟩, hc⟩ hclass

theorem map {f : α → β} (hx : Judged conditions x) : Judged conditions (do let a ← x; return f a) := by
  rw [← List.append_nil conditions]
  exact hx.bind fun a _ => ok (f a)

end Judged

namespace Condition

def name (label : String) (given : Option String) : Condition where
  Holds := ∀ s ∈ given, Text.HasContent s
  error := .badRequest .invalidValue (label ++ " is required and must not be blank")

def member (users : Store Uuid User) (m : Member) : Condition where
  Holds := (users.get? m.value).isSome
  error := .badRequest .noTarget ("member " ++ m.value.text ++ " is not a known user")

def owner (users : Store Uuid User) (id : Uuid) : Condition where
  Holds := (users.get? id).isSome
  error := .badRequest .noTarget ("Credential owner is not a known user: " ++ id.text)

def secret (given : Option String) : Condition where
  Holds := given = none
  error := .badRequest .sensitive "Attribute 'clientSecret' cannot be written through this API"

def clientId (stored : String) (given : Option String) : Condition where
  Holds := ∀ i ∈ given, i = stored
  error := .badRequest .mutability "Attribute 'clientId' is immutable"

theorem any_allBlank_iff (label : String) (given : Option String) :
    given.any Text.allBlank = true ↔ ¬ (name label given).Holds := by
  change _ ↔ ¬ ∀ s ∈ given, Text.HasContent s
  rw [← Text.not_any_allBlank_iff, Classical.not_not]

end Condition

namespace Group

variable {users : Store Uuid User}

theorem judged_known (members : List Member) :
    Judged (members.map (Condition.member users)) (known users members) := by
  rw [known]
  cases hfind : members.find? fun m => (users.get? m.value).isNone with
  | none =>
    refine .accepted _ (List.forall_mem_map.2 fun m hm => ?_)
    simpa [Condition.member, Option.isSome_iff_ne_none] using List.find?_eq_none.1 hfind m hm
  | some m =>
    obtain ⟨hunknown, before, after, rfl, hbefore⟩ := List.find?_eq_some_iff_append.1 hfind
    have hsplit : (before ++ m :: after).map (Condition.member users) =
        before.map (.member users) ++ .member users m :: after.map (.member users) := List.map_append
    refine .refused ⟨_, .member users m, _, hsplit, ?_, ?_, rfl⟩ rfl
    · refine List.forall_mem_map.2 fun m' hm' => ?_
      simpa [Condition.member, Option.isSome_iff_ne_none] using hbefore m' hm'
    · simpa [Condition.member] using hunknown

end Group

def GroupCreate.conditions (users : Store Uuid User) (params : GroupCreate) : List Condition :=
  .name "displayName" (some params.displayName) :: params.members.map (.member users)

def GroupUpdate.conditions (users : Store Uuid User) (change : GroupUpdate) : List Condition :=
  .name "displayName" change.displayName :: (change.members.getD []).map (.member users)

def CredentialCreate.conditions (users : Store Uuid User) (params : CredentialCreate) : List Condition :=
  [.secret params.clientSecret, .name "name" (some params.name)] ++ params.ownerId.toList.map (.owner users)

def CredentialUpdate.conditions (users : Store Uuid User) (c : Credential) (change : CredentialUpdate) :
    List Condition :=
  [.secret change.clientSecret, .clientId c.clientId change.clientId, .name "name" change.name] ++
    change.ownerId.toList.map (.owner users)

namespace Group

variable {users : Store Uuid User}

theorem judged_make (id : Uuid) (params : GroupCreate) :
    Judged (params.conditions users) (ResourceType.make .group users id params) := by
  have hbuild : Judged [.name "displayName" (some params.displayName)] (build id params) :=
    .guard (Condition.any_allBlank_iff _ (some params.displayName)) rfl (.ok _)
  refine hbuild.bind fun g hg => ?_
  obtain ⟨-, rfl⟩ := build_eq_ok_iff.1 hg
  exact (judged_known params.members).map

theorem judged_revise (change : GroupUpdate) (g : Group) :
    Judged (change.conditions users) (ResourceType.revise .group users change g) := by
  have hrename : Judged [.name "displayName" change.displayName] (g.rename change.displayName) :=
    .guard (Condition.any_allBlank_iff _ change.displayName) rfl (.ok _)
  refine hrename.bind fun g' _ => ?_
  cases change.members with
  | none => exact .ok _
  | some members => exact (judged_known members).map

end Group

namespace Credential

variable {users : Store Uuid User}

theorem judged_known (owner : Option Uuid) :
    Judged (owner.toList.map (Condition.owner users)) (known users owner) := by
  cases owner with
  | none => exact .ok ()
  | some id =>
    rw [known]
    cases huser : users.get? id with
    | none => exact .refused (firstViolated_cons.2 (.inl ⟨by simp [Condition.owner, huser], rfl⟩)) rfl
    | some u => exact .accepted _ (List.forall_mem_singleton.2 (Option.isSome_of_eq_some huser))

theorem judged_make (id : Uuid) (params : CredentialCreate) :
    Judged (params.conditions users) (ResourceType.make .serviceCredential users id params) := by
  have hbuild : Judged [.secret params.clientSecret, .name "name" (some params.name)] (build id params) :=
    .guard Option.isSome_iff_ne_none rfl (.guard (Condition.any_allBlank_iff _ (some params.name)) rfl (.ok _))
  refine hbuild.bind fun c hc => ?_
  obtain ⟨-, -, rfl⟩ := build_eq_ok_iff.1 hc
  exact (judged_known params.ownerId).map

theorem judged_revise (change : CredentialUpdate) (c : Credential) :
    Judged (change.conditions users c) (ResourceType.revise .serviceCredential users change c) := by
  have hclient : change.clientId.any (· ≠ c.clientId) = true ↔
      ¬ (Condition.clientId c.clientId change.clientId).Holds := by
    cases change.clientId <;> simp [Condition.clientId]
  have hrename : Judged [.secret change.clientSecret, .clientId c.clientId change.clientId, .name "name" change.name]
      (c.rename change) :=
    .guard Option.isSome_iff_ne_none rfl
      (.guard hclient rfl (.guard (Condition.any_allBlank_iff _ change.name) rfl (.ok _)))
  exact hrename.bind fun c' _ => (judged_known change.ownerId).map

end Credential

end Roster
