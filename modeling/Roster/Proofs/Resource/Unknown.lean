import Roster.Proofs.Json.Unknown
import Roster.Resource.Credential
import Roster.Resource.Group

namespace Roster

open Json (Gains)

variable {σ : Type}

def Handler.CreatesAlike (h : Handler σ) (p q : Json) : Prop := ∀ s, h.create q s = h.create p s

def Handler.UpdatesAlike (h : Handler σ) (p q : Json) : Prop := ∀ id s, h.update id q s = h.update id p s

section

variable {α κ υ ε : Type} [ResourceError ε] {readParams : Json → Except ProtocolError κ}
  {readChange : Json → Except ProtocolError υ} {p q : Json}

theorem readPayload_of_gains [Decode κ] {r : Json.Record κ} {lists : List (String × List String)}
    (hr : ∀ v, (Decode.ofJson v : Except Json.Mismatch κ) = r.ofJson v)
    (hlists : ∀ entry ∈ lists, ∃ f, r.field? entry.1 = some f ∧ f.Lists entry.2) (h : Gains r.names lists p q) :
    readPayload κ q = readPayload κ p := by
  rw [readPayload, readPayload, hr, hr, Json.Record.ofJson_of_gains hlists h]

theorem Client.createsAlike (c : Client σ Uuid κ υ ε α) (h : readParams q = readParams p) :
    (c.handler readParams readChange).CreatesAlike p q := by
  intro s
  simp only [Client.handler, h]

theorem Client.updatesAlike (c : Client σ Uuid κ υ ε α) (h : readChange q = readChange p) :
    (c.handler readParams readChange).UpdatesAlike p q := by
  intro id s
  simp only [Client.handler, h]

end

/-- Whoever answers the requests, an unknown attribute makes no difference to a handler: not in the payload, nor in an
email or a member in it. -/
structure UnknownIgnored : Prop where
  userCreated : ∀ {σ : Type} (c : Client σ Uuid UserCreate UserUpdate UserError User) (p q : Json),
    Gains UserCreate.record.names [("emails", Email.record.names)] p q → c.userHandler.CreatesAlike p q
  userUpdated : ∀ {σ : Type} (c : Client σ Uuid UserCreate UserUpdate UserError User) (p q : Json),
    Gains UserUpdate.record.names [("emails", Email.record.names)] p q → c.userHandler.UpdatesAlike p q
  groupCreated : ∀ {σ : Type} (c : Client σ Uuid GroupCreate GroupUpdate GroupError Group) (p q : Json),
    Gains GroupCreate.record.names [("members", Member.record.names)] p q → c.groupHandler.CreatesAlike p q
  groupUpdated : ∀ {σ : Type} (c : Client σ Uuid GroupCreate GroupUpdate GroupError Group) (p q : Json),
    Gains GroupUpdate.record.names [("members", Member.record.names)] p q → c.groupHandler.UpdatesAlike p q
  credentialCreated : ∀ {σ : Type}
    (c : Client σ Uuid CredentialCreate CredentialUpdate CredentialError Credential) (p q : Json),
    Gains CredentialCreate.record.names [] p q → c.credentialHandler.CreatesAlike p q
  credentialUpdated : ∀ {σ : Type}
    (c : Client σ Uuid CredentialCreate CredentialUpdate CredentialError Credential) (p q : Json),
    Gains CredentialUpdate.record.names [] p q → c.credentialHandler.UpdatesAlike p q

theorem unknownIgnored : UnknownIgnored := by
  have hemail : ∀ v, (Decode.ofJson v : Except Json.Mismatch Email) = Email.record.ofJson v := fun _ => rfl
  have hmember : ∀ v, (Decode.ofJson v : Except Json.Mismatch Member) = Member.record.ofJson v := fun _ => rfl
  constructor
  case userCreated =>
    intro σ c p q h
    refine c.createsAlike (readPayload_of_gains (fun _ => rfl) (List.forall_mem_singleton.2 ?_) h)
    exact ⟨_, rfl, Json.Field.lists_of hemail _⟩
  case userUpdated =>
    intro σ c p q h
    refine c.updatesAlike (readPayload_of_gains (fun _ => rfl) (List.forall_mem_singleton.2 ?_) h)
    exact ⟨_, rfl, Json.Field.lists_of_option hemail _⟩
  case groupCreated =>
    intro σ c p q h
    refine c.createsAlike (readPayload_of_gains (fun _ => rfl) (List.forall_mem_singleton.2 ?_) h)
    exact ⟨_, rfl, Json.Field.lists_of hmember _⟩
  case groupUpdated =>
    intro σ c p q h
    refine c.updatesAlike (readPayload_of_gains (fun _ => rfl) (List.forall_mem_singleton.2 ?_) h)
    exact ⟨_, rfl, Json.Field.lists_of_option hmember _⟩
  case credentialCreated =>
    intro σ c p q h
    exact c.createsAlike (readPayload_of_gains (fun _ => rfl) (List.forall_mem_nil _) h)
  case credentialUpdated =>
    intro σ c p q h
    exact c.updatesAlike (readPayload_of_gains (fun _ => rfl) (List.forall_mem_nil _) h)

-- Both names of a secret are known, and the identifier of a client only to updates.
example : CredentialCreate.record.names = ["name", "ownerId", "scopes", "clientSecret", "secret"] := rfl

example : CredentialUpdate.record.names = ["name", "ownerId", "scopes", "clientId", "clientSecret", "secret"] := rfl

end Roster
