import Roster.Actor.Mock
import Roster.Batch.Dispatch
import Roster.Proofs.Directory.Client

/-! What becomes of a failure on its way from an actor to whoever asked: the client gives it a type, the handler reports
it or says that nothing was there, and the batch makes a protocol error of it. -/

namespace Roster

open Batch (Dispatch Effect)

namespace Client

variable {σ ι κ υ ε ε' α : Type} {c : Client σ ι κ υ ε α} {g : ε → ε'} {s s' : σ} {id : ι} {e : ε}

theorem mapError_create {params : κ} (h : c.create params s = (.error e, s')) :
    (c.mapError g).create params s = (.error (g e), s') := by
  simp only [mapError, h]
  rfl

theorem mapError_update {change : υ} (h : c.update id change s = (.error e, s')) :
    (c.mapError g).update id change s = (.error (g e), s') := by
  simp only [mapError, h]
  rfl

theorem mapError_delete (h : c.delete id s = (.error e, s')) :
    (c.mapError g).delete id s = (.error (g e), s') := by
  simp only [mapError, h]
  rfl

end Client

namespace ResourceType

abbrev Creation : ResourceType → Type
  | .user => UserCreate
  | .group => GroupCreate
  | .serviceCredential => CredentialCreate
  | .custom _ => CustomCreate

abbrev Change : ResourceType → Type
  | .user => UserUpdate
  | .group => GroupUpdate
  | .serviceCredential => CredentialUpdate
  | .custom _ => CustomUpdate

def creation : (kind : ResourceType) → kind.Params → kind.Creation
  | .user, params | .group, params | .serviceCredential, params => params
  | .custom name, attributes => ⟨name, attributes⟩

def change : (kind : ResourceType) → kind.Revision → kind.Change
  | .user, change | .group, change | .serviceCredential, change => change
  | .custom _, attributes => ⟨attributes⟩

/-- Whatever answers the requests for the resources of a kind, be it their actor or a stand-in. -/
abbrev Respondent (kind : ResourceType) (σ : Type) : Type :=
  Client σ Uuid kind.Creation kind.Change (Failure AnyError) kind.Entity

variable {kind : ResourceType} {σ : Type}

def clientOf : (kind : ResourceType) → kind.Respondent σ →
    Client σ Uuid kind.Params kind.Revision kind.Error kind.Entity
  | .user, r | .group, r | .serviceCredential, r => Client.typed r
  | .custom name, r => CustomResource.client name (Client.typed r)

def handlerOf : (kind : ResourceType) → kind.Respondent σ → Handler σ
  | .user, r => (clientOf .user r).userHandler
  | .group, r => (clientOf .group r).groupHandler
  | .serviceCredential, r => (clientOf .serviceCredential r).credentialHandler
  | .custom name, r => (clientOf (.custom name) r).customHandler

theorem handlerOf_eq (r : kind.Respondent σ) :
    kind.handlerOf r = (kind.clientOf r).handler kind.readParams kind.readRevision := by
  cases kind <;> rfl

theorem classify_eq_notFound_iff (e : kind.Error) :
    (∃ id, ResourceError.classify e = .protocol (.notFound id)) ↔ (ResourceError.missing? e).isSome := by
  cases kind <;> cases e <;> simp [ResourceError.classify, ResourceError.missing?, UserError.classify,
    GroupError.classify, CredentialError.classify, CustomError.classify, ProtocolError.invalidValue]

theorem classify_ne_expectationFailed (e : kind.Error) (reason : String) :
    ResourceError.classify e ≠ .protocol (.expectationFailed reason) := by
  cases kind <;> cases e <;> nofun

theorem classify_unreachable (reason : String) :
    ResourceError.classify (ResourceError.unreachable reason : kind.Error) =
      .unclassified ("Actor communication error: " ++ reason) := by
  cases kind <;> rfl

theorem box_of_unbox? {boxed : AnyError} {e : kind.Error} (h : ResourceError.unbox? boxed = some e) :
    boxed = ResourceError.box e := by
  cases kind <;> cases boxed <;> cases h <;> rfl

end ResourceType

def Refusal.Missing (r : Refusal) : Prop := ∃ id, r = .protocol (.notFound id)

theorem Refusal.missing_iff {r : Refusal} : r.Missing ↔ ∃ id, r.toProtocolError = .notFound id := by
  cases r with
  | protocol e => simp [Missing, toProtocolError]
  | unclassified text => simp [Missing, toProtocolError]

namespace Failure

variable {kind : ResourceType} {f : Failure AnyError}

def typedAs (kind : ResourceType) (f : Failure AnyError) : kind.Error := f.typed

def refusal (kind : ResourceType) (f : Failure AnyError) : Refusal := ResourceError.classify (f.typedAs kind)

theorem typedAs_box (e : kind.Error) : (Failure.entity (ResourceError.box e)).typedAs kind = e := by
  simp only [typedAs, typed, LawfulResourceError.unbox?_box, Option.getD_some]

/-- The failure is no error of the kind itself, and nothing is missing. -/
structure Foreign (kind : ResourceType) (f : Failure AnyError) : Prop where
  notOwn : ∀ e : kind.Error, f ≠ .entity (ResourceError.box e)
  notMissing : ∀ id, f ≠ .notFound id

theorem Foreign.typedAs_eq (h : f.Foreign kind) : f.typedAs kind = ResourceError.unreachable f.text := by
  cases f with
  | closed => rfl
  | dropped => rfl
  | notFound id => exact absurd rfl (h.notMissing id)
  | entity boxed =>
    cases hunbox : (ResourceError.unbox? boxed : Option kind.Error) with
    | none => simp only [typedAs, typed, hunbox, Option.getD_none]
    | some e => exact absurd (congrArg Failure.entity (ResourceType.box_of_unbox? hunbox)) (h.notOwn e)

theorem Foreign.refusal_eq (h : f.Foreign kind) :
    f.refusal kind = .unclassified ("Actor communication error: " ++ f.text) := by
  rw [refusal, h.typedAs_eq, ResourceType.classify_unreachable]

theorem missing_iff : (f.refusal kind).Missing ↔ (ResourceError.missing? (f.typedAs kind)).isSome :=
  ResourceType.classify_eq_notFound_iff _

theorem refusal_ne_expectationFailed (reason : String) :
    (f.refusal kind).toProtocolError ≠ .expectationFailed reason := by
  cases h : f.refusal kind with
  | protocol cause =>
    rintro rfl
    exact ResourceType.classify_ne_expectationFailed _ reason h
  | unclassified text => exact nofun

structure Answered (r : Refusal) (answer : Except Refusal Bool) : Prop where
  nothing : answer = .ok false ↔ r.Missing
  failed : ¬ r.Missing → answer = .error r

structure Reported (r : Refusal) (noEffect : String) (outcome : Except ProtocolError Effect) : Prop where
  without : ∀ reason, outcome = .error (.expectationFailed reason) ↔
    reason = noEffect ∧ ∃ id, r.toProtocolError = .notFound id
  failed : (¬ ∃ id, r.toProtocolError = .notFound id) → outcome = .error r.toProtocolError

def answer (kind : ResourceType) (f : Failure AnyError) : Except Refusal Bool :=
  if (ResourceError.missing? (f.typedAs kind)).isSome then .ok false else .error (f.refusal kind)

theorem answer_ne : f.answer kind ≠ .ok true := by
  rw [answer]
  split <;> nofun

theorem answered : Answered (f.refusal kind) (f.answer kind) := by
  rw [answer]
  by_cases h : (f.refusal kind).Missing
  · rw [if_pos (missing_iff.1 h)]
    exact ⟨iff_of_true rfl h, fun hnot => absurd h hnot⟩
  · rw [if_neg (mt missing_iff.2 h)]
    exact ⟨iff_of_false nofun h, fun _ => rfl⟩

def outcome (noEffect : String) : Except Refusal Bool → Except ProtocolError Effect
  | .ok _ => .error (.expectationFailed noEffect)
  | .error e => .error e.toProtocolError

theorem reported (noEffect : String) : Reported (f.refusal kind) noEffect (outcome noEffect (f.answer kind)) := by
  have h : Answered (f.refusal kind) (f.answer kind) := answered
  by_cases hmissing : (f.refusal kind).Missing
  · have hfound := Refusal.missing_iff.1 hmissing
    rw [h.nothing.2 hmissing]
    refine ⟨fun reason => ?_, fun hnot => absurd hfound hnot⟩
    simp only [outcome, Except.error.injEq, ProtocolError.expectationFailed.injEq, hfound, and_true]
    exact eq_comm
  · have hfound := mt Refusal.missing_iff.2 hmissing
    rw [h.failed hmissing]
    refine ⟨fun reason => iff_of_false ?_ fun hboth => hfound hboth.2, fun _ => rfl⟩
    exact fun heq => refusal_ne_expectationFailed reason (Except.error.inj heq)

variable {σ : Type} {r : kind.Respondent σ} {s s' : σ}

theorem clientOf_create {params : kind.Params} (h : r.create (kind.creation params) s = (.error f, s')) :
    (kind.clientOf r).create params s = (.error (f.typedAs kind), s') := by
  cases kind <;> exact Client.mapError_create h

theorem clientOf_update {id : Uuid} {change : kind.Revision}
    (h : r.update id (kind.change change) s = (.error f, s')) :
    (kind.clientOf r).update id change s = (.error (f.typedAs kind), s') := by
  cases kind <;> exact Client.mapError_update h

theorem clientOf_delete {id : Uuid} (h : r.delete id s = (.error f, s')) :
    (kind.clientOf r).delete id s = (.error (f.typedAs kind), s') := by
  cases kind <;> exact Client.mapError_delete h

theorem handlerOf_create {payload : Json} {params : kind.Params} (hread : kind.readParams payload = .ok params)
    (h : r.create (kind.creation params) s = (.error f, s')) :
    (kind.handlerOf r).create payload s = (.error (f.refusal kind), s') := by
  simp only [ResourceType.handlerOf_eq, Client.handler, hread, clientOf_create h, refusal]

theorem handlerOf_update {id : Uuid} {payload : Json} {change : kind.Revision}
    (hread : kind.readRevision payload = .ok change) (h : r.update id (kind.change change) s = (.error f, s')) :
    (kind.handlerOf r).update id payload s = (f.answer kind, s') := by
  simp only [ResourceType.handlerOf_eq, Client.handler, hread, clientOf_update h, answer, refusal]

theorem handlerOf_delete {id : Uuid} (h : r.delete id s = (.error f, s')) :
    (kind.handlerOf r).delete id s = (f.answer kind, s') := by
  simp only [ResourceType.handlerOf_eq, Client.handler, clientOf_delete h, answer, refusal]

variable {handler : Handler σ} {id : Uuid} {payload : Json}

theorem invoke_update (h : handler.update id payload s = (f.answer kind, s')) :
    (Dispatch.update id payload).invoke handler s =
      (outcome ("resource " ++ id.text ++ " was not modified") (f.answer kind), s') := by
  simp only [Dispatch.invoke, h]
  cases hanswer : f.answer kind with
  | ok found => cases found with
    | false => rfl
    | true => exact absurd hanswer answer_ne
  | error e => rfl

theorem invoke_delete (h : handler.delete id s = (f.answer kind, s')) :
    (Dispatch.delete id).invoke handler s =
      (outcome ("resource " ++ id.text ++ " was not deleted") (f.answer kind), s') := by
  simp only [Dispatch.invoke, h]
  cases hanswer : f.answer kind with
  | ok found => cases found with
    | false => rfl
    | true => exact absurd hanswer answer_ne
  | error e => rfl

/-- Whoever answers with the failure, handler and dispatch make the same of it. An error of the kind itself comes out of
the client as it was, and of any other the text is kept. -/
structure KeptIntact (kind : ResourceType) (f : Failure AnyError) : Prop where
  create : ∀ {σ : Type} (r : kind.Respondent σ) (payload : Json) (params : kind.Params) (s s' : σ),
    kind.readParams payload = .ok params → r.create (kind.creation params) s = (.error f, s') →
    (kind.handlerOf r).create payload s = (.error (f.refusal kind), s') ∧
      (Dispatch.create payload).invoke (kind.handlerOf r) s = (.error (f.refusal kind).toProtocolError, s')
  update : ∀ {σ : Type} (r : kind.Respondent σ) (id : Uuid) (payload : Json) (change : kind.Revision) (s s' : σ),
    kind.readRevision payload = .ok change → r.update id (kind.change change) s = (.error f, s') →
    ∃ answer outcome, (kind.handlerOf r).update id payload s = (answer, s') ∧ Answered (f.refusal kind) answer ∧
      (Dispatch.update id payload).invoke (kind.handlerOf r) s = (outcome, s') ∧
      Reported (f.refusal kind) ("resource " ++ id.text ++ " was not modified") outcome
  delete : ∀ {σ : Type} (r : kind.Respondent σ) (id : Uuid) (s s' : σ), r.delete id s = (.error f, s') →
    ∃ answer outcome, (kind.handlerOf r).delete id s = (answer, s') ∧ Answered (f.refusal kind) answer ∧
      (Dispatch.delete id).invoke (kind.handlerOf r) s = (outcome, s') ∧
      Reported (f.refusal kind) ("resource " ++ id.text ++ " was not deleted") outcome
  own : ∀ e : kind.Error, f = .entity (ResourceError.box e) → f.typedAs kind = e
  foreign : f.Foreign kind → (f.refusal kind).toProtocolError.status = 500 ∧
    ∃ lead, (f.refusal kind).toProtocolError.message = lead ++ f.text

theorem keptIntact (kind : ResourceType) (f : Failure AnyError) : f.KeptIntact kind := by
  constructor
  case create =>
    intro σ r payload params s s' hread h
    have hcreate := handlerOf_create hread h
    exact ⟨hcreate, by simp only [Dispatch.invoke, hcreate]⟩
  case update =>
    intro σ r id payload change s s' hread h
    have hupdate := handlerOf_update hread h
    exact ⟨_, _, hupdate, answered, invoke_update hupdate, reported _⟩
  case delete =>
    intro σ r id s s' h
    have hdelete := handlerOf_delete h
    exact ⟨_, _, hdelete, answered, invoke_delete hdelete, reported _⟩
  case own =>
    rintro e rfl
    exact typedAs_box e
  case foreign =>
    intro hforeign
    rw [hforeign.refusal_eq]
    exact ⟨rfl, "internal error: " ++ "Actor communication error: ", (String.append_assoc ..).symm⟩

-- What is wrong with a user is nothing that a group knows of.
example : ((ResourceType.handlerOf .group Mock.client).update ⟨7⟩ (.object [])
    ⟨[.update ⟨7⟩ (.error (.entity (.user (.invalid "no name"))))], []⟩).1 =
      .error (.unclassified "Actor communication error: Entity error: User validation error: no name") := rfl

end Failure

end Roster
