import Roster.Json.Printer
import Roster.Json.Quoted
import Roster.Proofs.Json.Reading
import Roster.Proofs.Text.Utf8

namespace Roster.Json.Reader

open Text (encode)

/-- Between quotes, these bytes are read as those. No more steps are made than there are bytes. -/
def Passes (bs bytes : List UInt8) : Prop :=
  ∀ (steps gathered rest : List UInt8), bs.length ≤ steps.length →
    ∃ steps', steps.length ≤ steps'.length + bs.length ∧
      quotedBytes steps gathered (bs ++ rest) = quotedBytes steps' (bytes.reverse ++ gathered) rest

theorem passes_nil : Passes [] [] := fun steps _ _ _ => ⟨steps, Nat.le_refl _, rfl⟩

theorem Passes.append {bs bytes cs bytes' : List UInt8} (h : Passes bs bytes) (h' : Passes cs bytes') :
    Passes (bs ++ cs) (bytes ++ bytes') := by
  intro steps gathered rest hsteps
  rw [List.length_append] at hsteps ⊢
  obtain ⟨steps', hlength, hpass⟩ := h steps gathered (cs ++ rest) (by omega)
  obtain ⟨steps'', hlength', hpass'⟩ := h' steps' (bytes.reverse ++ gathered) rest (by omega)
  refine ⟨steps'', by omega, ?_⟩
  rw [List.append_assoc, hpass, hpass', List.reverse_append, List.append_assoc]

structure Plain (b : UInt8) : Prop where
  quote : b ≠ 0x22
  backslash : b ≠ 0x5C
  control : ¬ b < 0x20

theorem passes_plain {b : UInt8} (h : Plain b) : Passes [b] [b] := by
  intro steps gathered rest hsteps
  obtain ⟨hquote, hbackslash, hcontrol⟩ := h
  cases steps with
  | nil => simp at hsteps
  | cons _ steps =>
    refine ⟨steps, Nat.le_refl _, ?_⟩
    rw [List.singleton_append, quotedBytes]
    simp only [hquote, hbackslash, hcontrol, if_false, List.reverse_singleton, List.singleton_append]

theorem passes_of_plain {bs : List UInt8} (h : ∀ b ∈ bs, Plain b) : Passes bs bs := by
  induction bs with
  | nil => exact passes_nil
  | cons b bs ih =>
    exact (passes_plain (h b List.mem_cons_self)).append (ih fun b hb => h b (List.mem_cons_of_mem _ hb))

theorem passes_escape {bs bytes : List UInt8} (h : ∀ rest, escape (bs ++ rest) = .ok (bytes, rest)) :
    Passes (0x5C :: bs) bytes := by
  intro steps gathered rest hsteps
  cases steps with
  | nil => simp at hsteps
  | cons _ steps =>
    refine ⟨steps, ?_, ?_⟩
    · simp only [List.length_cons]
      omega
    · rw [List.cons_append, quotedBytes]
      simp [h rest]

theorem map_hexValue_digitChar {n : Nat} (h : n < 16) :
    (String.utf8EncodeChar (Nat.digitChar n)).map hexValue = [some n] := by
  revert n
  decide

theorem hexQuad_control {n : Nat} (h : n < 0x20) (rest : List UInt8) :
    hexQuad (encode ['0', '0', Nat.digitChar (n / 16), Nat.digitChar (n % 16)] ++ rest) = .ok (n, rest) := by
  obtain ⟨high, hhigh, hvalue⟩ := List.map_eq_singleton_iff.1 (map_hexValue_digitChar (n := n / 16) (by omega))
  obtain ⟨low, hlow, hvalue'⟩ := List.map_eq_singleton_iff.1 (map_hexValue_digitChar (n := n % 16) (by omega))
  have hzero : hexValue 0x30 = some 0 := rfl
  have hbytes : encode ['0', '0', Nat.digitChar (n / 16), Nat.digitChar (n % 16)] ++ rest =
      0x30 :: 0x30 :: high :: low :: rest := by
    simp only [Text.encode_cons, hhigh, hlow]
    rfl
  rw [hbytes, hexQuad, hzero, hvalue, hvalue']
  simp only [Except.ok.injEq, Prod.mk.injEq, and_true]
  omega

theorem escape_control {c : Char} (h : c.toNat < 0x20) (rest : List UInt8) :
    escape (encode ['u', '0', '0', Nat.digitChar (c.toNat / 16), Nat.digitChar (c.toNat % 16)] ++ rest) =
      .ok (String.utf8EncodeChar c, rest) := by
  have hquad := hexQuad_control h rest
  have hhex : hexEscape (encode ['0', '0', Nat.digitChar (c.toNat / 16), Nat.digitChar (c.toNat % 16)] ++ rest) =
      .ok (String.utf8EncodeChar c, rest) := by
    rw [hexEscape, bind_of_ok hquad, if_neg (by omega), if_pos (by omega), Char.ofNat_toNat]
    rfl
  exact hhex

theorem plain_of_mem {c : Char} (hquote : c ≠ '"') (hbackslash : c ≠ '\\') (hcontrol : ¬ c.toNat < 0x20)
    {b : UInt8} (hb : b ∈ String.utf8EncodeChar c) : Plain b := by
  by_cases h : c.toNat < 0x80
  · rw [Text.encodeChar_of_lt h, List.mem_singleton] at hb
    have hnat : b.toNat = c.toNat := by
      rw [hb, UInt8.toNat_ofNat', Nat.mod_eq_of_lt (by omega)]
    refine ⟨?_, ?_, ?_⟩
    · rintro rfl
      exact hquote (Char.toNat_inj.1 hnat.symm)
    · rintro rfl
      exact hbackslash (Char.toNat_inj.1 hnat.symm)
    · rw [UInt8.lt_iff_toNat_lt, hnat]
      exact hcontrol
  · have hle : 0x80 ≤ b := Text.le_of_mem_encodeChar (Nat.le_of_not_lt h) hb
    rw [UInt8.le_iff_toNat_le] at hle
    refine ⟨?_, ?_, ?_⟩
    · rintro rfl
      exact absurd hle (by decide)
    · rintro rfl
      exact absurd hle (by decide)
    · rw [UInt8.lt_iff_toNat_lt]
      exact Nat.not_lt_of_le (Nat.le_trans (by decide) hle)

theorem passes_escapeChar (c : Char) : Passes (encode (escapeChar c)) (String.utf8EncodeChar c) := by
  rw [escapeChar]
  split
  · rename_i h; subst h; exact @passes_escape [0x22] _ fun _ => rfl
  split
  · rename_i h; subst h; exact @passes_escape [0x5C] _ fun _ => rfl
  split
  · rename_i h; subst h; exact @passes_escape [0x62] _ fun _ => rfl
  split
  · rename_i h; subst h; exact @passes_escape [0x74] _ fun _ => rfl
  split
  · rename_i h; subst h; exact @passes_escape [0x6E] _ fun _ => rfl
  split
  · rename_i h; subst h; exact @passes_escape [0x66] _ fun _ => rfl
  split
  · rename_i h; subst h; exact @passes_escape [0x72] _ fun _ => rfl
  split
  · rename_i h
    exact passes_escape (escape_control h)
  · rename_i hquote hbackslash _ _ _ _ _ hcontrol
    rw [Text.encode_cons, Text.encode_nil, List.append_nil]
    exact passes_of_plain fun b hb => plain_of_mem hquote hbackslash hcontrol hb

theorem passes_text (cs : List Char) : Passes (encode (cs.flatMap escapeChar)) (encode cs) := by
  induction cs with
  | nil => exact passes_nil
  | cons c cs ih =>
    rw [List.flatMap_cons, Text.encode_append, Text.encode_cons]
    exact (passes_escapeChar c).append ih

theorem quoted_text (s : String) (rest : List UInt8) :
    quoted (encode (s.toList.flatMap escapeChar) ++ 0x22 :: rest) = .ok (s, rest) := by
  obtain ⟨steps, hlength, hpass⟩ := passes_text s.toList
    (encode (s.toList.flatMap escapeChar) ++ 0x22 :: rest) [] (0x22 :: rest) (by simp)
  rw [quoted, hpass]
  cases steps with
  | nil =>
    simp only [List.length_append, List.length_cons, List.length_nil] at hlength
    omega
  | cons _ steps => simp [quotedBytes, Text.fromUTF8?_encode]

end Roster.Json.Reader
