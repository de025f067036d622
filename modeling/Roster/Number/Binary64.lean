namespace Roster

/-- A binary64 number, by its bits: two of them are equal when they are the same number, sign of zero included. -/
structure Binary64 where
  bits : UInt64
  deriving DecidableEq, Repr

namespace Binary64

def ofFloat (x : Float) : Binary64 := ⟨x.toBits⟩

def negative (x : Binary64) : Bool := x.bits >>> 63 = 1

def fraction (x : Binary64) : Nat := (x.bits &&& 0xFFFFFFFFFFFFF).toNat

def biasedExponent (x : Binary64) : Nat := (x.bits >>> 52 &&& 0x7FF).toNat

def hiddenBit : Nat := 0x10000000000000

def significand (x : Binary64) : Nat :=
  if x.biasedExponent = 0 then x.fraction else hiddenBit + x.fraction

def exponent (x : Binary64) : Int :=
  (if x.biasedExponent = 0 then 1 else x.biasedExponent : Nat) - 1075

/-- Powers of ten are taken from the range of exact decimal exponents, 308 at most; a smaller number is divided down
in steps of that size until it is in range or zero. -/
def scale (steps : Nat) (x : Float) (exponent : Int) : Option Float :=
  if exponent.natAbs ≤ 308 then
    let power := Float.ofScientific 1 false exponent.natAbs
    if 0 ≤ exponent then
      let y := x * power
      if y.isInf then none else some y
    else some (x / power)
  else if x == 0 then some x
  else if 0 ≤ exponent then none
  else match steps with
  | 0 => some 0
  | steps + 1 => scale steps (x / Float.ofScientific 1 false 308) (exponent + 308)

/-- `± significand * 10 ^ exponent`, nothing when that is too large. Two divisions bring any significand of 64 bits to
zero, so three steps are enough. -/
def ofDecimal (negative : Bool) (significand : UInt64) (exponent : Int) : Option Binary64 :=
  (scale 3 significand.toFloat exponent).map fun x => ofFloat (if negative then -x else x)

end Binary64

end Roster
