import Roster.Proofs.Batch.Reference
import Roster.Proofs.Resource.Secret
import Roster.Proofs.Server.Reachable

namespace Roster

def Directory.SameStores (d d' : Directory) : Prop := ∀ kind, d'.store kind = d.store kind

/-- A payload with a secret fails because of the secret, unless it cannot even be read as an `α`. -/
inductive SecretReported (α : Type) [Decode α] (payload : Json) : ProtocolError → Prop
  | read {a : α} : readPayload α payload = .ok a →
    SecretReported α payload (.badRequest .sensitive "Attribute 'clientSecret' cannot be written through this API")
  | unread {cause : ProtocolError} : readPayload α payload = .error cause → cause.keyword = some .invalidSyntax →
    SecretReported α payload cause

inductive SecretUnchanged (d : Directory) (id : Uuid) (payload : Json) : Except Refusal Bool → Prop
  | missing {change : CredentialUpdate} : d.find? .serviceCredential id = none →
    readPayload CredentialUpdate payload = .ok change → SecretUnchanged d id payload (.ok false)
  | reported {cause : ProtocolError} : SecretReported CredentialUpdate payload cause →
    SecretUnchanged d id payload (.error (.protocol cause))

namespace Directory

theorem SameStores.refl (d : Directory) : d.SameStores d := fun _ => rfl

variable (generate : Nat → Uuid) (d : Directory) {payload : Json}

theorem handler_create_secret (h : GivesSecret payload) : ∃ cause d',
    (handler generate .serviceCredential).create payload d = (.error (.protocol cause), d') ∧
      SecretReported CredentialCreate payload cause ∧ d.SameStores d' := by
  have hd : d.Has .serviceCredential := trivial
  rw [handler_create generate hd]
  cases hread : readPayload CredentialCreate payload with
  | error cause =>
    simp only [ResourceType.readParams, hread]
    exact ⟨cause, d, rfl, .unread hread (keyword_of_readPayload_error hread), .refl d⟩
  | ok params =>
    -- An identifier is handed out before the secret is seen.
    simp only [ResourceType.readParams, hread, Credential.make_of_secret (h.create hread)]
    exact ⟨_, d.drawn, rfl, .read hread, d.store_drawn⟩

theorem handler_update_secret (h : GivesSecret payload) (id : Uuid) : ∃ answer,
    (handler generate .serviceCredential).update id payload d = (answer, d) ∧
      SecretUnchanged d id payload answer := by
  have hd : d.Has .serviceCredential := trivial
  rw [handler_update generate hd]
  cases hread : readPayload CredentialUpdate payload with
  | error cause =>
    simp only [ResourceType.readRevision, hread]
    exact ⟨_, rfl, .reported (.unread hread (keyword_of_readPayload_error hread))⟩
  | ok change =>
    cases hfind : d.find? .serviceCredential id with
    | none =>
      simp only [ResourceType.readRevision, hread]
      exact ⟨_, rfl, .missing hfind hread⟩
    | some c =>
      simp only [ResourceType.readRevision, hread, Credential.revise_of_secret (h.update hread)]
      exact ⟨_, rfl, .reported (.read hread)⟩

end Directory

namespace Batch

/-- Why an operation with a secret fails: it does not get to the handler, or the handler refuses it. What gets there has all
references replaced. -/
inductive SecretFailure (e : Endpoint Directory) (a : Attempt Directory) : ProtocolError → Prop
  | unplanned {cause : ProtocolError} : a.op.plan e.registry a.before.refs = .error cause → SecretFailure e a cause
  | create {segment : String} {entry : Registry.Entry Directory} {payload : Json} {cause : ProtocolError} :
    a.op.plan e.registry a.before.refs = .ok ⟨segment, entry, .create payload⟩ →
    SecretReported CredentialCreate payload cause → SecretFailure e a cause
  | update {segment : String} {entry : Registry.Entry Directory} {id : Uuid} {payload : Json} {cause : ProtocolError} :
    a.op.plan e.registry a.before.refs = .ok ⟨segment, entry, .update id payload⟩ →
    SecretReported CredentialUpdate payload cause → SecretFailure e a cause
  | missing {segment : String} {entry : Registry.Entry Directory} {id : Uuid} {payload : Json}
    {change : CredentialUpdate} : a.op.plan e.registry a.before.refs = .ok ⟨segment, entry, .update id payload⟩ →
    a.state.find? .serviceCredential id = none → readPayload CredentialUpdate payload = .ok change →
    SecretFailure e a (.expectationFailed ("resource " ++ id.text ++ " was not modified"))

structure RefusesSecret (e : Endpoint Directory) (a : Attempt Directory) : Prop where
  failed : a.result.isSuccess = false
  reported : ∃ cause, a.outcome = .error cause ∧ SecretFailure e a cause
  stores : a.state.SameStores a.after

variable {generate : Nat → Uuid} {payload : Json} {e : Endpoint Directory} {a : Attempt Directory}

theorem RefusesSecret.of_error {cause : ProtocolError} (h : a.outcome = .error cause)
    (hcause : SecretFailure e a cause) (hstores : a.state.SameStores a.after) : RefusesSecret e a where
  failed := by rw [Attempt.result, h]; rfl
  reported := ⟨cause, h, hcause⟩
  stores := hstores

theorem gives_of_resolved {refs : References} {data : Json} (h : GivesSecret data)
    (hpayload : refs.resolved data = .ok payload) : GivesSecret payload := by
  obtain ⟨-, rfl⟩ := (References.resolved_eq_ok_iff refs).1 hpayload
  exact h.mapTexts _

variable (ha : e.perform a.op a.before.refs a.state = (a.outcome, a.after)) {segment : String}

include ha

theorem RefusesSecret.of_create (hplan : a.op.plan e.registry a.before.refs =
      .ok ⟨segment, Directory.entry generate .serviceCredential, .create payload⟩) (h : GivesSecret payload) :
    RefusesSecret e a := by
  obtain ⟨cause, d', hcreate, hreported, hstores⟩ := Directory.handler_create_secret generate a.state h
  simp only [e.perform_of_plan hplan, Dispatch.invoke, Directory.entry, hcreate, Prod.mk.injEq] at ha
  exact .of_error ha.1.symm (.create hplan hreported) (ha.2 ▸ hstores)

theorem RefusesSecret.of_update {id : Uuid} (hplan : a.op.plan e.registry a.before.refs =
      .ok ⟨segment, Directory.entry generate .serviceCredential, .update id payload⟩) (h : GivesSecret payload) :
    RefusesSecret e a := by
  obtain ⟨answer, hupdate, hanswer⟩ := Directory.handler_update_secret generate a.state h id
  simp only [e.perform_of_plan hplan, Dispatch.invoke, Directory.entry, hupdate] at ha
  cases hanswer with
  | missing hfind hread =>
    obtain ⟨houtcome, hafter⟩ := Prod.mk.inj ha
    exact .of_error houtcome.symm (.missing hplan hfind hread) (hafter ▸ .refl a.state)
  | reported hreported =>
    obtain ⟨houtcome, hafter⟩ := Prod.mk.inj ha
    exact .of_error houtcome.symm (.update hplan hreported) (hafter ▸ .refl a.state)

theorem refusesSecret {customTypes : List String}
    (he : Directory.registry generate customTypes = .ok e.registry) (hkind : a.op.kind? = some .serviceCredential)
    (hverb : a.op.verb ≠ .delete) {data : Json} (hdata : a.op.data = some data) (h : GivesSecret data) :
    RefusesSecret e a := by
  cases hplan : a.op.plan e.registry a.before.refs with
  | error cause =>
    rw [e.perform_of_error hplan, Prod.mk.injEq] at ha
    exact .of_error ha.1.symm (.unplanned hplan) (ha.2 ▸ .refl a.state)
  | ok plan =>
    obtain ⟨kind, -, heq⟩ := Operation.entry_of_plan he hplan
    rw [heq] at hplan
    obtain rfl : .serviceCredential = kind := Option.some.inj (hkind.symm.trans (Operation.kind?_of_plan he hplan))
    obtain ⟨segment, entry, dispatch⟩ := plan
    cases Operation.plan_eq_ok_iff.1 hplan with
    | create _ _ hdata' hpayload =>
      obtain rfl := Option.some.inj (hdata.symm.trans hdata')
      exact .of_create ha hplan (gives_of_resolved h hpayload)
    | update _ hdata' hpayload =>
      obtain rfl := Option.some.inj (hdata.symm.trans hdata')
      exact .of_update ha hplan (gives_of_resolved h hpayload)
    | delete hdelete => exact absurd hdelete hverb

end Batch

namespace Server

/-- However it gets there, nobody writes this payload to a credential. -/
structure SecretRefused (s : Server) (payload : Json) : Prop where
  served : ∃ entry, s.registry.resolve "ServiceCredentials" = .ok entry
  create : ∀ entry, s.registry.resolve "ServiceCredentials" = .ok entry →
    ∃ cause d', entry.handler.create payload s.directory = (.error (.protocol cause), d') ∧
      SecretReported CredentialCreate payload cause ∧ s.directory.SameStores d'
  update : ∀ entry, s.registry.resolve "ServiceCredentials" = .ok entry →
    ∀ id, ∃ answer, entry.handler.update id payload s.directory = (answer, s.directory) ∧
      SecretUnchanged s.directory id payload answer
  batch : ∀ e : Batch.Endpoint Directory, e.registry = s.registry → ∀ caller r,
    ∀ a ∈ (e.start caller r s.directory).attempts, a.op.kind? = some .serviceCredential → a.op.verb ≠ .delete →
      a.op.data = some payload → Batch.RefusesSecret e a

variable {generate : Nat → Uuid} {config : Config} {s : Server} {payload : Json}

theorem Reachable.secretRefused (hs : Reachable generate config s) (h : GivesSecret payload) :
    SecretRefused s payload := by
  have hkind : .serviceCredential ∈ Directory.kinds config.customTypes := by simp [Directory.kinds]
  have hserved : s.registry.resolve "ServiceCredentials" = .ok _ :=
    Directory.resolve_segment generate hs.registry_eq hkind
  constructor
  case served => exact ⟨_, hserved⟩
  case create =>
    intro entry hentry
    obtain rfl := Except.ok.inj (hserved.symm.trans hentry)
    exact Directory.handler_create_secret generate s.directory h
  case update =>
    intro entry hentry
    obtain rfl := Except.ok.inj (hserved.symm.trans hentry)
    exact Directory.handler_update_secret generate s.directory h
  case batch =>
    intro e he caller r a ha hkind hverb hdata
    obtain ⟨i, hi⟩ := List.getElem?_of_mem ha
    exact Batch.refusesSecret (e.perform_of_made (e.made_of_start hi)) (he ▸ hs.registry_eq) hkind hverb hdata h

def password : Json := .object [("name", .string "Sync"), ("secret", .string "hunter2")]

def leak : Batch.Request where
  errorBudget := none
  operations := [.create "sync" "ServiceCredentials" (.object [("name", .string "Sync")]),
    .update "ServiceCredentials/placeholder-ref:sync" password]

theorem Reachable.secretRefused_leak : ∃ (s : Server) (e : Batch.Endpoint Directory) (a : Batch.Attempt Directory),
    Reachable counted plain s ∧ GivesSecret password ∧ e.registry = s.registry ∧
    (e.start {} leak s.directory).attempts[1]? = some a ∧ a.op.data = some password ∧
    a.op.kind? = some .serviceCredential ∧ (a.state.find? .serviceCredential (counted 0)).isSome ∧
    a.outcome = .error (.badRequest .sensitive "Attribute 'clientSecret' cannot be written through this API") ∧
    SecretRefused s password := by
  have hkey : "secret" ∈ ["clientSecret", "secret"] := by simp
  have hgives : GivesSecret password := .intro hkey (List.mem_cons_of_mem _ List.mem_cons_self) nofun
  obtain ⟨s, hs⟩ : ∃ s, Server.start .bounded counted plain = .ok s := ⟨_, rfl⟩
  have hreachable : Reachable counted plain s := .start hs
  have hrefused := hreachable.secretRefused hgives
  cases hs
  exact ⟨_, ⟨_, {}, none⟩, _, hreachable, hgives, rfl, rfl, rfl, rfl, rfl, rfl, hrefused⟩

end Server

end Roster
