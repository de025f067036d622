namespace Roster.Text

inductive NumeralFault
  | empty
  | notADigit
  | tooLarge
  deriving DecidableEq, Repr

def NumeralFault.message : NumeralFault → String
  | .empty => "cannot parse integer from empty string"
  | .notADigit => "invalid digit found in string"
  | .tooLarge => "number too large to fit in target type"

def digits64 (value : Nat) : List Char → Except NumeralFault Nat
  | [] => .ok value
  | c :: cs =>
    if c.isDigit then
      let next := 10 * value + (c.toNat - 48)
      if next < UInt64.size then digits64 next cs else .error .tooLarge
    else .error .notADigit

def unsigned64 (s : String) : Except NumeralFault Nat :=
  match s.toList with
  | [] => .error .empty
  | ['+'] => .error .notADigit
  | '+' :: cs => digits64 0 cs
  | cs => digits64 0 cs

end Roster.Text
