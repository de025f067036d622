import Roster.Number.Binary64

namespace Roster

structure Decimal where
  digits : Nat
  exponent : Int
  deriving DecidableEq, Repr

/-- The numbers that round to `significand * 2 ^ exponent`, in units of a quarter of the last place. -/
structure Interval where
  low : Nat
  mid : Nat
  high : Nat
  closed : Bool
  exponent : Int

namespace Interval

/-- Below a power of two the neighbour is only half as far away. -/
def around (significand : Nat) (exponent : Int) : Interval where
  low := 4 * significand - (if significand = Binary64.hiddenBit ∧ -1074 < exponent then 1 else 2)
  mid := 4 * significand
  high := 4 * significand + 2
  closed := significand % 2 = 0
  exponent := exponent - 2

def numerator (i : Interval) (place : Int) (n : Nat) : Nat :=
  n * Nat.pow 2 i.exponent.toNat * Nat.pow 10 (-place).toNat

def denominator (i : Interval) (place : Int) : Nat :=
  Nat.pow 2 (-i.exponent).toNat * Nat.pow 10 place.toNat

def contains (i : Interval) (place : Int) (digits : Nat) : Bool :=
  let d := digits * i.denominator place
  let low := i.numerator place i.low
  let high := i.numerator place i.high
  if i.closed then low ≤ d && d ≤ high else low < d && d < high

def nearest? (i : Interval) (place : Int) : Option Nat :=
  let mid := i.numerator place i.mid
  let unit := i.denominator place
  let below := mid / unit
  match i.contains place below && 0 < below, i.contains place (below + 1) with
  | false, false => none
  | true, false => some below
  | false, true => some (below + 1)
  | true, true =>
    let twice := 2 * (mid - below * unit)
    some (if twice < unit ∨ (twice = unit ∧ below % 2 = 0) then below else below + 1)

/-- Tries coarser places before finer ones, so that the first hit has the fewest digits. -/
def search (i : Interval) (place : Int) : Nat → Decimal
  | 0 => ⟨i.mid, place⟩
  | steps + 1 =>
    match i.nearest? place with
    | some digits => ⟨digits, place⟩
    | none => search i (place - 1) steps

end Interval

/-- The place to start from is above the first digit; seventeen digits always read back. -/
def Binary64.shortest (x : Binary64) : Decimal :=
  if x.significand = 0 then ⟨0, 0⟩ else
    let magnitude : Int := x.significand.log2 + 1 + x.exponent
    (Interval.around x.significand x.exponent).search (magnitude * 30103 / 100000 + 1) 21

end Roster
