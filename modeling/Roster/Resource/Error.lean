import Roster.Handler

/-! The errors of each kind of resource: how they arise from failures of an actor, and what handlers report for them. -/

namespace Roster

inductive UserError
  | notFound (id : String)
  | invalid (detail : String)
  | unreachable (reason : String)
  deriving DecidableEq, Repr

inductive GroupError
  | notFound (id : String)
  | invalid (detail : String)
  | unknownMember (id : Uuid)
  | lookupFailed (reason : String)
  | unreachable (reason : String)
  deriving DecidableEq, Repr

inductive CredentialError
  | notFound (id : String)
  | invalid (detail : String)
  | unknownOwner (id : Uuid)
  | immutable (name : String)
  | sensitive (name : String)
  | lookupFailed (reason : String)
  | unreachable (reason : String)
  deriving DecidableEq, Repr

inductive CustomError
  | notFound (id : String)
  | invalid (detail : String)
  | readOnly (name : String)
  | unreachable (reason : String)
  deriving DecidableEq, Repr

/-- An error of any kind of resource, or one from elsewhere, of which only the text is known. -/
inductive AnyError
  | user (error : UserError)
  | group (error : GroupError)
  | credential (error : CredentialError)
  | custom (error : CustomError)
  | foreign (text : String)
  deriving DecidableEq, Repr

namespace UserError

def message : UserError → String
  | .notFound id => "User not found: " ++ id
  | .invalid detail => "User validation error: " ++ detail
  | .unreachable reason => "Actor communication error: " ++ reason

def classify : UserError → Refusal
  | .notFound id => .protocol (.notFound id)
  | .invalid detail => .protocol (.invalidValue detail)
  | e@(.unreachable _) => .unclassified e.message

end UserError

namespace GroupError

def message : GroupError → String
  | .notFound id => "Group not found: " ++ id
  | .invalid detail => "Group validation error: " ++ detail
  | .unknownMember id => "Group member is not a known user: " ++ id.text
  | .lookupFailed reason => "Member lookup failed: " ++ reason
  | .unreachable reason => "Actor communication error: " ++ reason

def classify : GroupError → Refusal
  | .notFound id => .protocol (.notFound id)
  | .invalid detail => .protocol (.invalidValue detail)
  | .unknownMember id =>
    .protocol (.badRequest .noTarget ("member " ++ id.text ++ " is not a known user"))
  | e@(.lookupFailed _) | e@(.unreachable _) => .unclassified e.message

end GroupError

namespace CredentialError

def message : CredentialError → String
  | .notFound id => "Credential not found: " ++ id
  | .invalid detail => "Credential validation error: " ++ detail
  | .unknownOwner id => "Credential owner is not a known user: " ++ id.text
  | .immutable name => "Attribute '" ++ name ++ "' is immutable"
  | .sensitive name =>
    "Attribute '" ++ name ++ "' cannot be written through this API"
  | .lookupFailed reason => "Owner lookup failed: " ++ reason
  | .unreachable reason => "Actor communication error: " ++ reason

def classify : CredentialError → Refusal
  | .notFound id => .protocol (.notFound id)
  | .invalid detail => .protocol (.invalidValue detail)
  | e@(.unknownOwner _) => .protocol (.badRequest .noTarget e.message)
  | e@(.immutable _) => .protocol (.badRequest .mutability e.message)
  | e@(.sensitive _) => .protocol (.badRequest .sensitive e.message)
  | e@(.lookupFailed _) | e@(.unreachable _) => .unclassified e.message

end CredentialError

namespace CustomError

def message : CustomError → String
  | .notFound id => "Resource not found: " ++ id
  | .invalid detail => "Resource validation error: " ++ detail
  | .readOnly name => "Attribute '" ++ name ++ "' is assigned by the server"
  | .unreachable reason => "Actor communication error: " ++ reason

def classify : CustomError → Refusal
  | .notFound id => .protocol (.notFound id)
  | .invalid detail => .protocol (.invalidValue detail)
  | e@(.readOnly _) => .protocol (.badRequest .mutability e.message)
  | e@(.unreachable _) => .unclassified e.message

end CustomError

def AnyError.message : AnyError → String
  | .user e => e.message
  | .group e => e.message
  | .credential e => e.message
  | .custom e => e.message
  | .foreign text => text

class ResourceError (ε : Type) where
  notFound : String → ε
  unreachable : String → ε
  missing? : ε → Option String
  message : ε → String
  classify : ε → Refusal
  box : ε → AnyError
  unbox? : AnyError → Option ε

instance : ResourceError UserError where
  notFound := .notFound
  unreachable := .unreachable
  missing?
    | .notFound id => some id
    | _ => none
  message := UserError.message
  classify := UserError.classify
  box := .user
  unbox?
    | .user e => some e
    | _ => none

instance : ResourceError GroupError where
  notFound := .notFound
  unreachable := .unreachable
  missing?
    | .notFound id => some id
    | _ => none
  message := GroupError.message
  classify := GroupError.classify
  box := .group
  unbox?
    | .group e => some e
    | _ => none

instance : ResourceError CredentialError where
  notFound := .notFound
  unreachable := .unreachable
  missing?
    | .notFound id => some id
    | _ => none
  message := CredentialError.message
  classify := CredentialError.classify
  box := .credential
  unbox?
    | .credential e => some e
    | _ => none

instance : ResourceError CustomError where
  notFound := .notFound
  unreachable := .unreachable
  missing?
    | .notFound id => some id
    | _ => none
  message := CustomError.message
  classify := CustomError.classify
  box := .custom
  unbox?
    | .custom e => some e
    | _ => none

abbrev Failure.text (f : Failure AnyError) : String := f.message AnyError.message

/-- The error that a typed client gives for a failure: the entity's own error when there is one, and otherwise a report of
what came back. -/
def Failure.typed [ResourceError ε] (f : Failure AnyError) : ε :=
  match f with
  | .notFound id => ResourceError.notFound id
  | .entity e => (ResourceError.unbox? e).getD (ResourceError.unreachable f.text)
  | .closed | .dropped => ResourceError.unreachable f.text

namespace Client

variable {σ ι κ υ ε α : Type} [ResourceError ε]

def boxed (c : Client σ ι κ υ (Failure ε) α) : Client σ ι κ υ (Failure AnyError) α :=
  c.mapError (·.map ResourceError.box)

def typed (c : Client σ ι κ υ (Failure AnyError) α) : Client σ ι κ υ ε α :=
  c.mapError Failure.typed

/-- The handler that sends its payloads to a client. A missing resource is no failure of an update or a deletion. -/
def handler (readParams : Json → Except ProtocolError κ) (readChange : Json → Except ProtocolError υ)
    (c : Client σ Uuid κ υ ε α) : Handler σ where
  create payload s :=
    match readParams payload with
    | .error e => (.error (.protocol e), s)
    | .ok params =>
      match c.create params s with
      | (.ok id, s) => (.ok id, s)
      | (.error e, s) => (.error (ResourceError.classify e), s)
  update id payload s :=
    match readChange payload with
    | .error e => (.error (.protocol e), s)
    | .ok change =>
      match c.update id change s with
      | (.ok _, s) => (.ok true, s)
      | (.error e, s) =>
        (if (ResourceError.missing? e).isSome then .ok false else .error (ResourceError.classify e), s)
  delete id s :=
    match c.delete id s with
    | (.ok (), s) => (.ok true, s)
    | (.error e, s) =>
      (if (ResourceError.missing? e).isSome then .ok false else .error (ResourceError.classify e), s)

end Client

def readPayload (α : Type) [Decode α] (payload : Json) : Except ProtocolError α :=
  match Decode.ofJson payload with
  | .ok a => .ok a
  | .error cause => .error (.invalidSyntax cause.message)

end Roster
