import Roster.Json.Decode
import Roster.Text.Pieces

/-! Identifiers of 128 bits.  They are written in five groups of hexadecimal digits, and read in that form, without
hyphens, in braces, or behind `urn:uuid:`. -/

namespace Roster

structure Uuid where
  bits : BitVec 128
  deriving DecidableEq, Repr

namespace Uuid

def digits (u : Uuid) : List Char :=
  (List.range 32).map fun i => Nat.digitChar ((u.bits >>> (4 * (31 - i))).toNat % 16)

def simple (u : Uuid) : String := .ofList u.digits

def text (u : Uuid) : String :=
  let ds := u.digits
  .ofList (ds.take 8 ++ '-' :: ((ds.drop 8).take 4 ++ '-' :: ((ds.drop 12).take 4 ++ '-' ::
    ((ds.drop 16).take 4 ++ '-' :: ds.drop 20))))

instance : ToString Uuid := ⟨text⟩

inductive Malformed
  | character (found : Char) (position : Nat)
  | length (found : Nat)
  | groupCount (found : Nat)
  | groupLength (group expected found : Nat)
  deriving DecidableEq, Repr

def Malformed.message : Malformed → String
  | .character c i =>
    "invalid character: found `" ++ .singleton c ++ "` at " ++ .ofList (decimalDigits i)
  | .length n => "invalid length: found " ++ .ofList (decimalDigits n)
  | .groupCount n => "invalid group count: expected 5, found " ++ .ofList (decimalDigits n)
  | .groupLength g e n =>
    "invalid group length in group " ++ .ofList (decimalDigits g) ++ ": expected " ++
      .ofList (decimalDigits e) ++ ", found " ++ .ofList (decimalDigits n)

def hexValue (c : Char) : Option Nat :=
  if '0' ≤ c ∧ c ≤ '9' then some (c.toNat - 48)
  else if 'a' ≤ c ∧ c ≤ 'f' then some (c.toNat - 87)
  else if 'A' ≤ c ∧ c ≤ 'F' then some (c.toNat - 55)
  else none

def ofDigits? (cs : List Char) : Option Uuid := do
  let ds ← cs.mapM hexValue
  if ds.length = 32 then some ⟨.ofNat 128 (ds.foldl (16 * · + ·) 0)⟩ else none

def ofGroups? (cs : List Char) : Option Uuid :=
  let groups := Text.pieces '-' cs
  if groups.map List.length = [8, 4, 4, 4, 12] then ofDigits? groups.flatten else none

def groupLayout : List (Nat × Nat) := [(8, 8), (4, 13), (4, 18), (4, 23)]

def byteLength (cs : List Char) : Nat := cs.foldl (· + ·.utf8Size) 0

def stranger? (position : Nat) : List Char → Option Malformed
  | [] => none
  | c :: cs =>
    if c = '-' ∨ (hexValue c).isSome then stranger? (position + c.utf8Size) cs
    else some (.character c position)

def misplaced? (group start : Nat) : List (List Char) → List (Nat × Nat) → Option Malformed
  | piece :: pieces, (expected, stop) :: layout =>
    if start + piece.length = stop then misplaced? (group + 1) (stop + 1) pieces layout
    else some (.groupLength group expected piece.length)
  | _, _ => none

/-- What is wrong with the inner part of a text that is `whole` bytes long. The part starts at `offset`; whether it had to
be in groups decides how a part without hyphens is reported. -/
def diagnosePart (grouped : Bool) (offset whole : Nat) (part : List Char) : Malformed :=
  let groups := Text.pieces '-' part
  match stranger? offset part with
  | some malformed => malformed
  | none =>
    if groups.length = 1 ∧ !grouped then .length whole
    else if groups.length ≠ 5 then .groupCount groups.length
    else match misplaced? 0 0 groups groupLayout with
      | some malformed => malformed
      | none => .groupLength 4 12 (whole - 24)

def isUrn (cs : List Char) : Bool := (cs.take 9).map Char.toLower = "urn:uuid:".toList

def diagnose (cs : List Char) : Malformed :=
  let whole := byteLength cs
  if cs.head? = some '\x7b' ∧ cs.getLast? = some '\x7d' ∧ 2 ≤ cs.length then
    diagnosePart true 1 whole (cs.drop 1).dropLast
  else if isUrn cs then diagnosePart true 9 whole (cs.drop 9)
  else diagnosePart false 0 whole cs

/-- The part in which hyphenated groups are looked for, which depends on the length of the whole. -/
def hyphenatedPart? (cs : List Char) : Option (List Char) :=
  if byteLength cs = 36 then some cs
  else if byteLength cs = 38 ∧ cs.head? = some '\x7b' ∧ cs.getLast? = some '\x7d' then
    some (cs.drop 1).dropLast
  else if byteLength cs = 45 ∧ isUrn cs then some (cs.drop 9)
  else none

def parse (s : String) : Except Malformed Uuid :=
  let cs := s.toList
  let length := byteLength cs
  if length = 0 ∨ 45 < length then .error (.length length)
  else if length = 32 then
    match ofDigits? cs with
    | some u => .ok u
    | none => .error (diagnose cs)
  else match hyphenatedPart? cs with
    | none => .error (diagnose cs)
    | some inner =>
      match ofGroups? inner with
      | some u => .ok u
      | none => .error (diagnosePart true 0 (byteLength inner) inner)

def toJson (u : Uuid) : Json := .string u.text

def ofText (s : String) : Except Json.Mismatch Uuid :=
  match parse s with
  | .ok u => .ok u
  | .error e => .error (.rejected ("UUID parsing failed: " ++ e.message))

instance : Decode Uuid where
  ofJson
    | .string s => ofText s
    | v => Json.refuse v "a formatted UUID string"
  read _ := do
    match ofText (← Json.Reader.text "a formatted UUID string") with
    | .ok u => pure u
    | .error cause => Json.Reader.failWith cause

def randomForm (n : Nat) : Uuid :=
  ⟨(.ofNat 128 n &&& 0xFFFFFFFF_FFFF_0FFF_3FFF_FFFFFFFFFFFF#128) |||
    0x00000000_0000_4000_8000_000000000000#128⟩

def sequence (start n : Nat) : Uuid := randomForm (start + n)

end Uuid

end Roster
