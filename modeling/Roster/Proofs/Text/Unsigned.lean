import Roster.Text.Unsigned

namespace Roster.Text

inductive Unsigned (s : String) : Nat → Prop
  | numeral {sign digits : List Char} : s.toList = sign ++ digits → sign = [] ∨ sign = ['+'] →
      digits ≠ [] → (∀ c ∈ digits, c.isDigit) → Nat.ofDigitChars 10 digits 0 < UInt64.size →
      Unsigned s (Nat.ofDigitChars 10 digits 0)

theorem le_ofDigitChars (cs : List Char) (value : Nat) : value ≤ Nat.ofDigitChars 10 cs value := by
  induction cs generalizing value with
  | nil => exact Nat.le_refl _
  | cons c cs ih =>
    rw [Nat.ofDigitChars_cons]
    exact Nat.le_trans (by omega) (ih _)

theorem digits64_cons (value : Nat) (c : Char) (cs : List Char) :
    digits64 value (c :: cs) =
      if c.isDigit then
        if 10 * value + (c.toNat - 48) < UInt64.size then digits64 (10 * value + (c.toNat - 48)) cs
        else .error .tooLarge
      else .error .notADigit := rfl

theorem digits64_eq_ok {value n : Nat} {cs : List Char} (hvalue : value < UInt64.size) :
    digits64 value cs = .ok n ↔
      (∀ c ∈ cs, c.isDigit) ∧ Nat.ofDigitChars 10 cs value < UInt64.size ∧ n = Nat.ofDigitChars 10 cs value := by
  induction cs generalizing value with
  | nil =>
    refine ⟨fun h => ⟨nofun, hvalue, (Except.ok.inj h).symm⟩, fun ⟨_, _, hn⟩ => hn ▸ rfl⟩
  | cons c cs ih =>
    rw [digits64_cons, Nat.ofDigitChars_cons, List.forall_mem_cons]
    split
    case isTrue hdigit =>
      split
      case isTrue hnext => rw [ih hnext]; simp [hdigit]
      case isFalse hlarge =>
        have hle := le_ofDigitChars cs (10 * value + (c.toNat - 48))
        exact ⟨nofun, fun ⟨_, hlt, _⟩ => absurd (Nat.lt_of_le_of_lt hle hlt) hlarge⟩
    case isFalse hdigit => exact ⟨nofun, fun ⟨⟨hc, _⟩, _⟩ => absurd hc hdigit⟩

theorem unsigned64_eq_ok {s : String} {n : Nat} : unsigned64 s = .ok n ↔ Unsigned s n := by
  have hzero : 0 < UInt64.size := by decide
  constructor
  · intro h
    rw [unsigned64] at h
    split at h
    case h_1 => cases h
    case h_2 => cases h
    case h_3 cs hne hs =>
      obtain ⟨hdigits, hlt, rfl⟩ := (digits64_eq_ok hzero).1 h
      have hsplit : s.toList = ['+'] ++ cs := hs
      exact .numeral hsplit (.inr rfl) hne hdigits hlt
    case h_4 hnil _ _ =>
      obtain ⟨hdigits, hlt, rfl⟩ := (digits64_eq_ok hzero).1 h
      exact .numeral (List.nil_append _).symm (.inl rfl) hnil hdigits hlt
  · intro h
    cases h with
    | @numeral sign digits hs hsign hne hdigits hlt =>
      have hread := (digits64_eq_ok hzero).2 ⟨hdigits, hlt, rfl⟩
      rw [unsigned64, hs]
      rcases hsign with rfl | rfl
      · rw [List.nil_append]
        split
        case h_1 => exact absurd rfl hne
        case h_2 => exact absurd (hdigits '+' List.mem_cons_self) (by decide)
        case h_3 => exact absurd (hdigits '+' List.mem_cons_self) (by decide)
        case h_4 => exact hread
      · cases digits with
        | nil => exact absurd rfl hne
        | cons c cs => exact hread

end Roster.Text
