import Roster.Json.Value

namespace Roster

/-- How values of a type are read. From a text, `levels` containers may still be entered. -/
class Decode (α : Type) where
  ofJson : Json → Except Json.Mismatch α
  read : (levels : Nat) → Json.Reader α

namespace Json

def refuse (v : Json) (expected : String) : Except Mismatch α :=
  .error (.wrongType (.ofJson v) expected)

namespace Reader

def failWith (cause : Mismatch) : Reader α := failHere (.mismatch cause)

def refuse (expected : String) : Reader α := do
  match ← peek with
  | some 0x6E => advance; wordNull; failWith (.wrongType .null expected)
  | some 0x74 => advance; wordTrue; failWith (.wrongType (.bool true) expected)
  | some 0x66 => advance; wordFalse; failWith (.wrongType (.bool false) expected)
  | some 0x2D => advance; failWith (.wrongType (.number (← numeral true)) expected)
  | some 0x22 => advance; failWith (.wrongType (.string (← quoted)) expected)
  | some 0x5B => failWith (.wrongType .sequence expected)
  | some 0x7B => failWith (.wrongType .map expected)
  | some b =>
    if isDigit b then do failWith (.wrongType (.number (← numeral false)) expected)
    else failNext .expectedValue
  | none => failNext .endInValue

def descend (levels : Nat) (body : Nat → Reader α) : Reader α :=
  match levels with
  | 0 => failNext .recursionLimit
  | levels + 1 => body levels

def text (expected : String) : Reader String := do
  match ← next with
  | none => failNext .endInValue
  | some 0x22 => advance; quoted
  | some _ => refuse expected

end Reader

instance : Decode Json where
  ofJson := .ok
  read := Reader.value

instance : Decode String where
  ofJson
    | .string s => .ok s
    | v => refuse v "a string"
  read _ := Reader.text "a string"

instance : Decode Bool where
  ofJson
    | .bool b => .ok b
    | v => refuse v "a boolean"
  read _ := do
    match ← Reader.next with
    | none => Reader.failNext .endInValue
    | some 0x74 => Reader.advance; Reader.wordTrue; pure true
    | some 0x66 => Reader.advance; Reader.wordFalse; pure false
    | some _ => Reader.refuse "a boolean"

def Number.unsigned (limit : Nat) (expected : String) : Number → Except Mismatch Nat
  | .binary x => .error (.wrongType (.number (.binary x)) expected)
  | .integer z =>
    if 0 ≤ z ∧ z < limit then .ok z.toNat else .error (.outOfRange z expected)

def unsignedOfJson (limit : Nat) (expected : String) : Json → Except Mismatch Nat
  | .number x => x.unsigned limit expected
  | v => refuse v expected

def Reader.unsigned (limit : Nat) (expected : String) : Reader Nat := do
  match ← next with
  | none => failNext .endInValue
  | some b =>
    if b = 0x2D ∨ isDigit b then do
      let negative := b = 0x2D
      if negative then advance
      match (← numeral negative).unsigned limit expected with
      | .ok n => pure n
      | .error cause => failWith cause
    else refuse expected

instance : Decode UInt16 where
  ofJson v := .ofNat <$> unsignedOfJson UInt16.size "u16" v
  read _ := .ofNat <$> Reader.unsigned UInt16.size "u16"

instance : Decode UInt32 where
  ofJson v := .ofNat <$> unsignedOfJson UInt32.size "u32" v
  read _ := .ofNat <$> Reader.unsigned UInt32.size "u32"

instance [Decode α] : Decode (Option α) where
  ofJson
    | .null => .ok none
    | v => some <$> Decode.ofJson v
  read levels := do
    match ← Reader.next with
    | some 0x6E => Reader.advance; Reader.wordNull; pure none
    | _ => some <$> Decode.read levels

instance [Decode α] : Decode (List α) where
  ofJson
    | .array items => items.mapM Decode.ofJson
    | v => refuse v "a sequence"
  read levels := do
    match ← Reader.next with
    | none => Reader.failNext .endInValue
    | some 0x5B => Reader.descend levels fun levels => Reader.arrayOf (Decode.read levels)
    | some _ => Reader.refuse "a sequence"

def decode (α : Type) [Decode α] (body : List UInt8) : Except Stop α :=
  (do let a ← Decode.read maxLevels; Reader.finish; pure a : Reader α).run' body

end Json

end Roster
