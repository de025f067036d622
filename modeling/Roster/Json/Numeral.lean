import Roster.Json.Reader

/-! Reading numbers.  Digits count as long as the significand fits 64 bits; later ones only move the point. -/

namespace Roster.Json.Reader

def isDigit (b : UInt8) : Bool := 0x30 ≤ b && b ≤ 0x39

def digitValue (b : UInt8) : Nat := b.toNat - 0x30

def digits : Reader (List UInt8) := fun input =>
  .ok (input.takeWhile isDigit, input.dropWhile isDigit)

def absorb (limit value : Nat) : List UInt8 → Nat × List UInt8
  | [] => (value, [])
  | d :: ds =>
    if 10 * value + digitValue d < limit then absorb limit (10 * value + digitValue d) ds
    else (value, d :: ds)

def scaled (negative : Bool) (significand : Nat) (exponent : Int) : Reader Number :=
  match Binary64.ofDecimal negative (.ofNat significand) exponent with
  | some x => pure (.binary x)
  | none => failHere .numberOutOfRange

/-- An integer is one when it fits 64 bits with its sign; zero with a sign is not one. -/
def whole (negative : Bool) (significand : Nat) : Reader Number :=
  if !negative then pure (.integer significand)
  else if significand = 0 ∨ UInt64.size < 2 * significand then scaled true significand 0
  else pure (.integer (-significand))

/-- From the exponent mark on. An exponent that does not fit 32 bits is an overflow at the digit that shows it, or
leaves nothing of the number. -/
def exponentPart (negative : Bool) (significand : Nat) (exponent : Int) : Reader Number := do
  advance
  let sign ← peek
  if sign = some 0x2B ∨ sign = some 0x2D then advance
  let below := sign = some 0x2D
  match ← peek with
  | none => failHere .endInValue
  | some b =>
    if isDigit b then
      let ds ← digits
      match absorb (UInt32.size / 2) 0 ds with
      | (e, []) => scaled negative significand (if below then exponent - e else exponent + e)
      | (_, _ :: more) =>
        if significand ≠ 0 ∧ !below then
          fun rest => .error (.placed .numberOutOfRange (more.length + rest.length))
        else scaled negative 0 0
    else
      advance
      failHere .invalidNumber

def scaledEnd (negative : Bool) (significand : Nat) (exponent : Int) : Reader Number := do
  match ← peek with
  | some 0x65 | some 0x45 => exponentPart negative significand exponent
  | _ => scaled negative significand exponent

def fractionPart (negative : Bool) (significand : Nat) (exponent : Int) : Reader Number := do
  advance
  let ds ← digits
  if ds.isEmpty then
    match ← peek with
    | none => failNext .endInValue
    | some _ => failNext .invalidNumber
  else
    let (significand, more) := absorb UInt64.size significand ds
    scaledEnd negative significand (exponent - (ds.length - more.length : Nat))

def numeralEnd (negative : Bool) (significand dropped : Nat) : Reader Number := do
  match ← peek with
  | some 0x2E => fractionPart negative significand dropped
  | some 0x65 | some 0x45 => exponentPart negative significand dropped
  | _ => if dropped = 0 then whole negative significand else scaled negative significand dropped

def numeral (negative : Bool) : Reader Number := do
  match ← peek with
  | none => failHere .endInValue
  | some b =>
    advance
    if b = 0x30 then
      match ← peek with
      | some c => if isDigit c then failNext .invalidNumber else numeralEnd negative 0 0
      | none => numeralEnd negative 0 0
    else if isDigit b then
      let ds ← digits
      let (significand, more) := absorb UInt64.size (digitValue b) ds
      numeralEnd negative significand more.length
    else failHere .invalidNumber

end Roster.Json.Reader
