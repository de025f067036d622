import Mathlib.Algebra.Group.Int.Defs
import Roster.Json.Numeral
import Roster.Json.Printer
import Roster.Proofs.Json.Reading
import Roster.Proofs.Text.Utf8

namespace Roster.Json.Reader

open Text (encode)

def digitByte (n : Nat) : UInt8 := .ofNat (0x30 + n)

theorem encode_digitChar {n : Nat} (h : n < 10) : encode [Nat.digitChar n] = [digitByte n] := by
  revert n
  decide

theorem isDigit_digitByte {n : Nat} (h : n < 10) : isDigit (digitByte n) = true := by
  revert n
  decide

theorem digitValue_digitByte {n : Nat} (h : n < 10) : digitValue (digitByte n) = n := by
  revert n
  decide

def valueFrom (value : Nat) (ds : List UInt8) : Nat := ds.foldl (fun v d => 10 * v + digitValue d) value

structure Digits (n : Nat) (first : UInt8) (more : List UInt8) : Prop where
  digit : isDigit first = true
  digits : ∀ b ∈ more, isDigit b = true
  value : valueFrom (digitValue first) more = n
  leading : first = 0x30 → n = 0 ∧ more = []

theorem exists_digits (n : Nat) :
    ∃ first more, encode (decimalDigits n) = first :: more ∧ Digits n first more := by
  induction n using Nat.strongRecOn with
  | ind n ih =>
    rw [decimalDigits]
    split
    · rename_i h
      refine ⟨digitByte n, [], encode_digitChar h, isDigit_digitByte h, by simp, digitValue_digitByte h, ?_⟩
      intro hzero
      rw [← digitValue_digitByte h, hzero]
      exact ⟨rfl, rfl⟩
    · rename_i h
      have hlt : n % 10 < 10 := Nat.mod_lt n (by decide)
      obtain ⟨first, more, hbytes, hdigits⟩ := ih (n / 10) (by omega)
      refine ⟨first, more ++ [digitByte (n % 10)], ?_, hdigits.digit, ?_, ?_, ?_⟩
      · rw [Text.encode_append, hbytes, encode_digitChar hlt]
        rfl
      · simp only [List.mem_append, List.mem_singleton]
        rintro b (hb | rfl)
        · exact hdigits.digits b hb
        · exact isDigit_digitByte hlt
      · have hvalue := hdigits.value
        rw [valueFrom] at hvalue ⊢
        rw [List.foldl_append, hvalue, List.foldl_cons, List.foldl_nil, digitValue_digitByte hlt]
        omega
      · intro hfirst
        have := (hdigits.leading hfirst).1
        omega

theorem le_valueFrom (value : Nat) (ds : List UInt8) : value ≤ valueFrom value ds := by
  induction ds generalizing value with
  | nil => exact Nat.le_refl value
  | cons d ds ih => exact Nat.le_trans (by omega) (ih (10 * value + digitValue d))

theorem absorb_eq {limit value : Nat} {ds : List UInt8} (h : valueFrom value ds < limit) :
    absorb limit value ds = (valueFrom value ds, []) := by
  induction ds generalizing value with
  | nil => rfl
  | cons d ds ih =>
    rw [absorb, if_pos (Nat.lt_of_le_of_lt (le_valueFrom _ ds) h), ih h]
    rfl

theorem digits_append {ds rest : List UInt8} (h : ∀ b ∈ ds, isDigit b = true) (hrest : Ends rest) :
    digits (ds ++ rest) = .ok (ds, rest) := by
  have hnone : ∀ b ∈ rest.head?, ¬ isDigit b = true := by
    intro b hb
    rcases hrest b hb with rfl | rfl | rfl <;> decide
  rw [digits, List.takeWhile_append_of_pos h, List.dropWhile_append_of_pos h]
  cases rest with
  | nil => simp
  | cons b rest => simp [hnone b rfl]

theorem numeralEnd_of_ends {rest : List UInt8} (h : Ends rest) (negative : Bool) (n : Nat) :
    numeralEnd negative n 0 rest = whole negative n rest := by
  cases rest with
  | nil => rfl
  | cons b rest => rcases h b rfl with rfl | rfl | rfl <;> rfl

theorem numeral_zero {rest : List UInt8} (h : Ends rest) (negative : Bool) :
    numeral negative (0x30 :: rest) = whole negative 0 rest := by
  rw [← numeralEnd_of_ends h]
  cases rest with
  | nil => rfl
  | cons b rest => rcases h b rfl with rfl | rfl | rfl <;> rfl

theorem numeral_decimalDigits {n : Nat} (hn : n < UInt64.size) {rest : List UInt8} (hrest : Ends rest)
    (negative : Bool) : numeral negative (encode (decimalDigits n) ++ rest) = whole negative n rest := by
  obtain ⟨first, more, hbytes, hdigits⟩ := exists_digits n
  rw [hbytes, List.cons_append]
  by_cases hzero : first = 0x30
  · obtain ⟨rfl, rfl⟩ := hdigits.leading hzero
    rw [hzero]
    exact numeral_zero hrest negative
  · have hpeek : peek (first :: (more ++ rest)) = .ok (some first, first :: (more ++ rest)) := rfl
    have hadvance : advance (first :: (more ++ rest)) = .ok ((), more ++ rest) := rfl
    have habsorb : absorb UInt64.size (digitValue first) more = (n, []) := by
      rw [absorb_eq (hdigits.value ▸ hn), hdigits.value]
    rw [numeral, bind_of_ok hpeek]
    simp only [hzero, hdigits.digit, if_true, if_false]
    rw [bind_of_ok hadvance, bind_of_ok (digits_append hdigits.digits hrest), habsorb]
    exact numeralEnd_of_ends hrest negative n

theorem whole_natAbs {z : Int} (hneg : z < 0) (hlow : -2 ^ 63 ≤ z) :
    whole true z.natAbs = pure (.integer z) := by
  have hfits : ¬ (z.natAbs = 0 ∨ UInt64.size < 2 * z.natAbs) := by
    rw [UInt64.size]
    omega
  have hz : -(z.natAbs : Int) = z := by omega
  rw [whole, if_neg (by decide), if_neg hfits, hz]

end Roster.Json.Reader
