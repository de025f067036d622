import Roster.Json.Container
import Roster.Json.Numeral

namespace Roster.Json.Reader

def valueWith (array object : Reader Json) : Reader Json := do
  match ← next with
  | none => failNext .endInValue
  | some 0x6E => advance; wordNull; pure .null
  | some 0x74 => advance; wordTrue; pure (.bool true)
  | some 0x66 => advance; wordFalse; pure (.bool false)
  | some 0x2D => advance; .number <$> numeral true
  | some 0x22 => advance; .string <$> quoted
  | some 0x5B => array
  | some 0x7B => object
  | some b => if isDigit b then .number <$> numeral false else failNext .expectedValue

def value : (levels : Nat) → Reader Json
  | 0 => valueWith (failNext .recursionLimit) (failNext .recursionLimit)
  | levels + 1 =>
    valueWith (.array <$> arrayOf (value levels))
      (.object <$> objectOf (fun k sorted => do colon; return insert k (← value levels) sorted) [])

def finish : Reader Unit := do
  match ← next with
  | none => pure ()
  | some _ => failNext .trailingCharacters

/-! A value that is passed over is checked less: its nesting is not limited, and neither surrogates nor the range of
numbers are looked at. -/

def skipEscape : Reader Unit := do
  match ← peek with
  | none => failHere .endInString
  | some b =>
    advance
    match b with
    | 0x22 | 0x5C | 0x2F | 0x62 | 0x66 | 0x6E | 0x72 | 0x74 => pure ()
    | 0x75 => let _ ← hexQuad
    | _ => failHere .invalidEscape

def skipString : (steps : List UInt8) → Reader Unit
  | [] => failHere .endInString
  | _ :: steps => fun input =>
    match input with
    | [] => .error (.placed .endInString 0)
    | b :: rest =>
      if b = 0x22 then .ok ((), rest)
      else if b = 0x5C then
        match skipEscape rest with
        | .ok (_, rest) => skipString steps rest
        | .error stop => .error stop
      else if b < 0x20 then .error (.placed .controlCharacter input.length)
      else skipString steps rest

def skipQuoted : Reader Unit := fun input => skipString input input

def skipExponent : Reader Unit := do
  advance
  let sign ← peek
  if sign = some 0x2B ∨ sign = some 0x2D then advance
  match ← peek with
  | none => failHere .invalidNumber
  | some b =>
    advance
    if isDigit b then let _ ← digits else failHere .invalidNumber

def skipFraction : Reader Unit := do
  advance
  let ds ← digits
  if ds.isEmpty then failNext .invalidNumber
  else match ← peek with
    | some 0x65 | some 0x45 => skipExponent
    | _ => pure ()

def skipNumeralEnd : Reader Unit := do
  match ← peek with
  | some 0x2E => skipFraction
  | some 0x65 | some 0x45 => skipExponent
  | _ => pure ()

def skipNumeral : Reader Unit := do
  match ← peek with
  | none => failHere .invalidNumber
  | some b =>
    advance
    if b = 0x30 then
      match ← peek with
      | some c => if isDigit c then failNext .invalidNumber else skipNumeralEnd
      | none => skipNumeralEnd
    else if isDigit b then do
      let _ ← digits
      skipNumeralEnd
    else failHere .invalidNumber

inductive Bracket
  | array
  | object
  deriving DecidableEq, Repr

def Bracket.closing : Bracket → UInt8
  | .array => 0x5D
  | .object => 0x7D

def Bracket.ended : Bracket → Problem
  | .array => .endInList
  | .object => .endInObject

def Bracket.noComma : Bracket → Problem
  | .array => .expectedCommaOrBracket
  | .object => .expectedCommaOrBrace

inductive Awaited
  | value
  | content
  | separator
  deriving DecidableEq, Repr

def skipKey : Bracket → Reader Unit
  | .array => pure ()
  | .object => do
    match ← next with
    | some 0x22 => advance; skipQuoted
    | some _ => failNext .keyNotString
    | none => failNext .endInObject
    match ← next with
    | some 0x3A => advance
    | some _ => failNext .expectedColon
    | none => failNext .endInObject

def skipStart : Reader (Option Bracket) := do
  match ← next with
  | none => failNext .endInValue
  | some 0x6E => advance; wordNull; pure none
  | some 0x74 => advance; wordTrue; pure none
  | some 0x66 => advance; wordFalse; pure none
  | some 0x2D => advance; skipNumeral; pure none
  | some 0x22 => advance; skipQuoted; pure none
  | some 0x5B => advance; pure (some .array)
  | some 0x7B => advance; pure (some .object)
  | some b =>
    if isDigit b then do
      skipNumeral
      pure none
    else failNext .expectedValue

def skipInside (awaited : Awaited) (b : Bracket) : Reader Bool := do
  match ← next with
  | none => failNext b.ended
  | some c =>
    if c = b.closing then do
      advance
      pure true
    else if awaited = .separator then
      if c = 0x2C then do
        advance
        skipKey b
        pure false
      else failNext b.noComma
    else do
      skipKey b
      pure false

/-- Passes over a value. The containers it stands in are listed from the innermost one. Every second step at least
passes a byte. -/
def skipSteps : (steps : Nat) → Awaited → List Bracket → Reader Unit
  | 0, _, _ => failHere .endInValue
  | steps + 1, .value, inside => fun input =>
    match skipStart input with
    | .error stop => .error stop
    | .ok (none, rest) => skipSteps steps .separator inside rest
    | .ok (some b, rest) => skipSteps steps .content (b :: inside) rest
  | _ + 1, _, [] => pure ()
  | steps + 1, awaited, b :: inside => fun input =>
    match skipInside awaited b input with
    | .error stop => .error stop
    | .ok (true, rest) => skipSteps steps .separator inside rest
    | .ok (false, rest) => skipSteps steps .value (b :: inside) rest

def skipValue : Reader Unit := fun input => skipSteps (2 * input.length + 2) .value [] input

end Roster.Json.Reader

namespace Roster.Json

/-- The place of a failure that happened when `left` bytes of `body` were left: lines count from one, and columns are
the bytes passed since the last end of line. -/
def placeOf (body : List UInt8) (left : Nat) : Nat × Nat :=
  let passed := body.take (body.length - left)
  (passed.count 0x0A + 1, (passed.reverse.takeWhile (· ≠ 0x0A)).length)

def Stop.message (body : List UInt8) (stop : Stop) : String :=
  let (problem, left) := match stop with
    | .placed problem left => (problem, left)
    | .pending cause rest => (.mismatch cause, rest.length)
  let (line, column) := placeOf body left
  problem.message ++ " at line " ++ .ofList (decimalDigits line) ++ " column " ++
    .ofList (decimalDigits column)

def maxLevels : Nat := 127

end Roster.Json
