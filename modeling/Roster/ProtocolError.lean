import Roster.Json.Record

namespace Roster

inductive Keyword
  | invalidFilter
  | invalidPath
  | invalidSyntax
  | invalidValue
  | invalidVersion
  | mutability
  | noTarget
  | sensitive
  | tooMany
  | uniqueness
  deriving DecidableEq, Repr

namespace Keyword

def all : List Keyword :=
  [.invalidFilter, .invalidPath, .invalidSyntax, .invalidValue, .invalidVersion, .mutability,
    .noTarget, .sensitive, .tooMany, .uniqueness]

def text : Keyword → String
  | .invalidFilter => "invalidFilter"
  | .invalidPath => "invalidPath"
  | .invalidSyntax => "invalidSyntax"
  | .invalidValue => "invalidValue"
  | .invalidVersion => "invalidVers"
  | .mutability => "mutability"
  | .noTarget => "noTarget"
  | .sensitive => "sensitive"
  | .tooMany => "tooMany"
  | .uniqueness => "uniqueness"

def ofText? (s : String) : Option Keyword := all.find? (·.text = s)

@[simp] theorem ofText?_text (k : Keyword) : ofText? k.text = some k := by cases k <;> rfl

def ofText (s : String) : Except Json.Mismatch Keyword :=
  match ofText? s with
  | some k => .ok k
  | none => .error (.unknownVariant s (all.map text))

/-- A keyword may also stand as the only key of an object, with `null` behind it. -/
instance : Decode Keyword where
  ofJson
    | .string s => ofText s
    | .object [(k, v)] => do
      let keyword ← ofText k
      match v with
      | .null => .ok keyword
      | v => Json.refuse v "unit"
    | .object _ => .error .notOneKey
    | v => Json.refuse v "string or map"
  read levels := do
    match ← Json.Reader.next with
    | none => Json.Reader.failNext .endInValue
    | some 0x22 =>
      Json.Reader.advance
      settle (ofText (← Json.Reader.quoted))
    | some 0x7B =>
      Json.Reader.descend levels fun _ => do
        Json.Reader.advance
        if !(← Json.Reader.member true) then Json.Reader.failNext .expectedValue
        let keyword ← settle (ofText (← Json.Reader.key))
        Json.Reader.colon
        match ← Json.Reader.next with
        | some 0x6E => Json.Reader.advance; Json.Reader.wordNull
        | _ => Json.Reader.refuse "unit"
        match ← Json.Reader.next with
        | some 0x7D => Json.Reader.advance; pure keyword
        | some _ => Json.Reader.failHere .expectedValue
        | none => Json.Reader.failHere .endInObject
    | some _ => Json.Reader.failNext .expectedValue
where
  settle (x : Except Json.Mismatch Keyword) : Json.Reader Keyword :=
    match x with
    | .ok k => pure k
    | .error cause => Json.Reader.failWith cause

end Keyword

inductive ProtocolError
  | badRequest (keyword : Keyword) (detail : String)
  | notFound (resource : String)
  | expectationFailed (reason : String)
  | internal (reason : String)
  deriving DecidableEq, Repr

structure ErrorBody where
  schemas : List String
  status : UInt16
  keyword : Option Keyword
  detail : String
  deriving DecidableEq, Repr

namespace ProtocolError

def invalidValue (detail : String) : ProtocolError := .badRequest .invalidValue detail
def invalidPath (detail : String) : ProtocolError := .badRequest .invalidPath detail
def invalidSyntax (detail : String) : ProtocolError := .badRequest .invalidSyntax detail

def status : ProtocolError → UInt16
  | .badRequest .. => 400
  | .notFound _ => 404
  | .expectationFailed _ => 417
  | .internal _ => 500

def keyword : ProtocolError → Option Keyword
  | .badRequest keyword _ => some keyword
  | _ => none

def message : ProtocolError → String
  | .badRequest keyword detail => keyword.text ++ ": " ++ detail
  | .notFound resource => "resource not found: " ++ resource
  | .expectationFailed reason => reason
  | .internal reason => "internal error: " ++ reason

def schema : String := "urn:ietf:params:scim:api:messages:2.0:Error"

/-- The keyword of a bad request has a place of its own in the body and is left out of the detail. -/
def body (e : ProtocolError) : ErrorBody where
  schemas := [schema]
  status := e.status
  keyword := e.keyword
  detail := match e with
    | .badRequest _ detail => detail
    | e => e.message

end ProtocolError

namespace ErrorBody

def toJson (b : ErrorBody) : Json :=
  .object ([("schemas", .array (b.schemas.map .string)), ("status", .nat b.status.toNat)] ++
    (b.keyword.map fun k => ("scimType", Json.string k.text)).toList ++
    [("detail", .string b.detail)])

def record : Json.Record ErrorBody where
  name := "ErrorResponse"
  blank := ⟨[], 0, none, ""⟩
  fields := [
    .of .required "schemas" fun v b => { b with schemas := v },
    .of .required "status" fun v b => { b with status := v },
    .of .named "scimType" fun v b => { b with keyword := v },
    .of .required "detail" fun v b => { b with detail := v }]

instance : Decode ErrorBody := record.decode

end ErrorBody

end Roster
