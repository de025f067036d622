import Roster.Actor.Store
import Roster.ProtocolError
import Roster.Uuid

namespace Roster.Batch

abbrev References := Store String Uuid

def marker : String := "placeholder-ref:"

def token? (s : String) : Option String :=
  (marker.toList.isPrefixOf? s.toList).map .ofList

def refer (token : String) : String := marker ++ token

namespace References

variable (refs : References)

def unknown (token : String) : ProtocolError :=
  .invalidValue ("bulkId '" ++ token ++
    "' does not refer to a resource created earlier in this batch")

def resolve (s : String) : Except ProtocolError (Option Uuid) :=
  match token? s with
  | none => .ok none
  | some token =>
    match refs.get? token with
    | some id => .ok (some id)
    | none => .error (unknown token)

def target (s : String) : Except ProtocolError Uuid :=
  match refs.resolve s with
  | .error e => .error e
  | .ok (some id) => .ok id
  | .ok none =>
    match Uuid.parse s with
    | .ok id => .ok id
    | .error _ => .error (.invalidValue ("'" ++ s ++ "' is not a valid resource id"))

mutual
/-- Replaces references by the identifiers they stand for, depth first. The first that stands for nothing ends this, and
the value is as it is then. -/
def substitute : Json → Json × Except ProtocolError Unit
  | .string s =>
    match refs.resolve s with
    | .ok (some id) => (.string id.text, .ok ())
    | .ok none => (.string s, .ok ())
    | .error e => (.string s, .error e)
  | .array items => ((.array (substituteItems items).1), (substituteItems items).2)
  | .object members => ((.object (substituteMembers members).1), (substituteMembers members).2)
  | .null => (.null, .ok ())
  | .bool b => (.bool b, .ok ())
  | .number x => (.number x, .ok ())

def substituteItems : List Json → List Json × Except ProtocolError Unit
  | [] => ([], .ok ())
  | v :: rest =>
    match substitute v with
    | (v, .error e) => (v :: rest, .error e)
    | (v, .ok ()) =>
      match substituteItems rest with
      | (rest, outcome) => (v :: rest, outcome)

def substituteMembers : List (String × Json) → List (String × Json) × Except ProtocolError Unit
  | [] => ([], .ok ())
  | (k, v) :: rest =>
    match substitute v with
    | (v, .error e) => ((k, v) :: rest, .error e)
    | (v, .ok ()) =>
      match substituteMembers rest with
      | (rest, outcome) => ((k, v) :: rest, outcome)
end

def resolved (payload : Json) : Except ProtocolError Json :=
  match refs.substitute payload with
  | (payload, .ok ()) => .ok payload
  | (_, .error e) => .error e

end References

end Roster.Batch
