import Roster.Json.Printer
import Roster.Text.Literal

namespace Roster.Json

inductive Found
  | null
  | bool (value : Bool)
  | number (value : Number)
  | string (value : String)
  | sequence
  | map
  deriving DecidableEq, Repr

def Found.ofJson : Json → Found
  | .null => .null
  | .bool b => .bool b
  | .number x => .number x
  | .string s => .string s
  | .array _ => .sequence
  | .object _ => .map

def Found.describe : Found → String
  | .null => "null"
  | .bool b => "boolean `" ++ (if b then "true" else "false") ++ "`"
  | .number (.integer z) => "integer `" ++ .ofList (integerText z) ++ "`"
  | .number (.binary x) => "floating point `" ++ .ofList x.text ++ "`"
  | .string s => "string " ++ Text.literal s
  | .sequence => "sequence"
  | .map => "map"

inductive Mismatch
  | wrongType (found : Found) (expected : String)
  | outOfRange (value : Int) (expected : String)
  | notOneKey
  | wrongLength (length : Nat) (expected : String)
  | duplicateField (name : String)
  | missingField (name : String)
  | unknownVariant (name : String) (known : List String)
  | rejected (reason : String)
  deriving DecidableEq, Repr

def Mismatch.message : Mismatch → String
  | .wrongType found expected => "invalid type: " ++ found.describe ++ ", expected " ++ expected
  | .outOfRange z expected =>
    "invalid value: integer `" ++ .ofList (integerText z) ++ "`, expected " ++ expected
  | .notOneKey => "invalid value: map, expected map with a single key"
  | .wrongLength n expected =>
    "invalid length " ++ .ofList (decimalDigits n) ++ ", expected " ++ expected
  | .duplicateField name => "duplicate field `" ++ name ++ "`"
  | .missingField name => "missing field `" ++ name ++ "`"
  | .unknownVariant name known =>
    "unknown variant `" ++ name ++ "`, expected one of " ++
      ", ".intercalate (known.map fun k => "`" ++ k ++ "`")
  | .rejected reason => reason

end Roster.Json
