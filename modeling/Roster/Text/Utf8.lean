namespace Roster.Text

def isTail (b : UInt8) : Bool := 0x80 ≤ b && b ≤ 0xBF

def charWidth : List UInt8 → Option Nat
  | [] => none
  | a :: rest =>
    if a < 0x80 then some 1
    else match rest with
    | b :: rest =>
      if 0xC2 ≤ a && a ≤ 0xDF && isTail b then some 2
      else match rest with
      | c :: rest =>
        if 0xE0 ≤ a && a ≤ 0xEF && (if a = 0xE0 then 0xA0 else 0x80) ≤ b &&
            b ≤ (if a = 0xED then 0x9F else 0xBF) && isTail c then some 3
        else match rest with
        | d :: _ =>
          if 0xF0 ≤ a && a ≤ 0xF4 && (if a = 0xF0 then 0x90 else 0x80) ≤ b &&
              b ≤ (if a = 0xF4 then 0x8F else 0xBF) && isTail c && isTail d then some 4
          else none
        | [] => none
      | [] => none
    | [] => none

/-- How many bytes stand before the first character that is malformed; `steps` bounds the number of characters. -/
def validCount (steps : Nat) (bytes : List UInt8) : Nat :=
  match steps with
  | 0 => 0
  | steps + 1 =>
    match charWidth bytes with
    | none => 0
    | some n => n + validCount steps (bytes.drop n)

def wellFormedLength (bytes : List UInt8) : Nat := validCount bytes.length bytes

end Roster.Text
