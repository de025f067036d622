import Roster.Json.Reader

/-! Reading strings.  Escapes are replaced while the bytes are gathered; whether they are well-formed text is asked when
the closing quote has been read. -/

namespace Roster.Json.Reader

def hexValue (b : UInt8) : Option Nat :=
  if 0x30 ≤ b && b ≤ 0x39 then some (b.toNat - 0x30)
  else if 0x61 ≤ b && b ≤ 0x66 then some (b.toNat - 0x57)
  else if 0x41 ≤ b && b ≤ 0x46 then some (b.toNat - 0x37)
  else none

def hexQuad : Reader Nat := fun input =>
  match input with
  | a :: b :: c :: d :: rest =>
    match hexValue a, hexValue b, hexValue c, hexValue d with
    | some a, some b, some c, some d => .ok (((a * 16 + b) * 16 + c) * 16 + d, rest)
    | _, _, _, _ => .error (.placed .invalidEscape rest.length)
  | _ => .error (.placed .endInString 0)

def pairByte (b : UInt8) : Reader Unit := do
  match ← peek with
  | none => failHere .endInString
  | some c =>
    advance
    if c = b then pure () else failHere .endOfHexEscape

def hexEscape : Reader (List UInt8) := do
  let n ← hexQuad
  if 0xDC00 ≤ n ∧ n ≤ 0xDFFF then failHere .loneSurrogate
  else if n < 0xD800 ∨ 0xDBFF < n then return String.utf8EncodeChar (.ofNat n)
  else
    pairByte 0x5C
    pairByte 0x75
    let m ← hexQuad
    if m < 0xDC00 ∨ 0xDFFF < m then failHere .loneSurrogate
    else return String.utf8EncodeChar (.ofNat ((n - 0xD800) * 0x400 + (m - 0xDC00) + 0x10000))

def escape : Reader (List UInt8) := do
  match ← peek with
  | none => failHere .endInString
  | some b =>
    advance
    match b with
    | 0x22 => pure [0x22]
    | 0x5C => pure [0x5C]
    | 0x2F => pure [0x2F]
    | 0x62 => pure [0x08]
    | 0x66 => pure [0x0C]
    | 0x6E => pure [0x0A]
    | 0x72 => pure [0x0D]
    | 0x74 => pure [0x09]
    | 0x75 => hexEscape
    | _ => failHere .invalidEscape

def quotedBytes : (steps : List UInt8) → (gathered : List UInt8) → Reader (List UInt8)
  | [], _ => failHere .endInString
  | _ :: steps, gathered => fun input =>
    match input with
    | [] => .error (.placed .endInString 0)
    | b :: rest =>
      if b = 0x22 then .ok (gathered.reverse, rest)
      else if b = 0x5C then
        match escape rest with
        | .ok (bytes, rest) => quotedBytes steps (bytes.reverse ++ gathered) rest
        | .error stop => .error stop
      else if b < 0x20 then .error (.placed .controlCharacter rest.length)
      else quotedBytes steps (b :: gathered) rest

/-- A string, after its opening quote. Bytes that are no text are reported where the first of them stands, counted back
from the end. -/
def quoted : Reader String := fun input =>
  match quotedBytes input [] input with
  | .error stop => .error stop
  | .ok (bytes, rest) =>
    match String.fromUTF8? ⟨bytes.toArray⟩ with
    | some s => .ok (s, rest)
    | none =>
      .error (.placed .invalidCodePoint (rest.length + (bytes.length - Text.wellFormedLength bytes)))

end Roster.Json.Reader
