import Mathlib.Tactic.Ring
import Roster.Uuid

namespace Roster.Uuid

def digitValue (u : Uuid) (i : Nat) : Nat := u.bits.toNat / 16 ^ (31 - i) % 16

theorem digits_eq (u : Uuid) : u.digits = (List.range 32).map fun i => Nat.digitChar (u.digitValue i) := by
  refine List.map_congr_left fun i _ => ?_
  rw [digitValue, BitVec.toNat_ushiftRight, Nat.shiftRight_eq_div_pow, pow_mul]
  rfl

theorem digitValue_lt (u : Uuid) (i : Nat) : u.digitValue i < 16 := Nat.mod_lt _ (by decide)

@[simp] theorem digits_length (u : Uuid) : u.digits.length = 32 := by simp [digits]

theorem hexValue_digitChar {n : Nat} (h : n < 16) : hexValue (Nat.digitChar n) = some n := by
  revert n
  decide

theorem hexValue_of_mem_digits {u : Uuid} {c : Char} (h : c ∈ u.digits) : (hexValue c).isSome := by
  rw [digits_eq, List.mem_map] at h
  obtain ⟨i, -, rfl⟩ := h
  rw [hexValue_digitChar (u.digitValue_lt i)]
  rfl

theorem not_mem_digits {c : Char} (hc : hexValue c = none) (u : Uuid) : c ∉ u.digits := by
  intro h
  simpa [hc] using hexValue_of_mem_digits h

theorem utf8Size_of_hexValue {c : Char} (h : (hexValue c).isSome) : c.utf8Size = 1 := by
  rw [Char.utf8Size_eq_one_iff]
  simp only [hexValue] at h
  split at h
  · rename_i hc; exact Nat.le_trans (show c.val.toNat ≤ _ from hc.2) (by decide)
  · split at h
    · rename_i hc; exact Nat.le_trans (show c.val.toNat ≤ _ from hc.2) (by decide)
    · split at h
      · rename_i hc; exact Nat.le_trans (show c.val.toNat ≤ _ from hc.2) (by decide)
      · simp at h

theorem mapM_hexValue (u : Uuid) : u.digits.mapM hexValue = some ((List.range 32).map u.digitValue) := by
  rw [digits_eq]
  induction List.range 32 with
  | nil => rfl
  | cons i is ih =>
    simp [List.mapM_cons, hexValue_digitChar (u.digitValue_lt i), ih]

theorem foldl_digits (n k : Nat) :
    ((List.range k).map fun i => n / 16 ^ (k - 1 - i) % 16).foldl (16 * · + ·) 0 = n % 16 ^ k := by
  induction k generalizing n with
  | zero => simp [Nat.mod_one]
  | succ k ih =>
    have hinit : (List.range k).map (fun i => n / 16 ^ (k - i) % 16) =
        (List.range k).map fun i => n / 16 / 16 ^ (k - 1 - i) % 16 := by
      refine List.map_congr_left fun i hi => ?_
      have hk : k - i = (k - 1 - i) + 1 := by have := List.mem_range.1 hi; omega
      rw [hk, Nat.div_div_eq_div_mul, pow_succ, Nat.mul_comm]
    simp only [List.range_succ, List.map_append, List.map_cons, List.map_nil, List.foldl_append,
      List.foldl_cons, List.foldl_nil, Nat.add_sub_cancel, Nat.sub_self, pow_zero, Nat.div_one]
    rw [hinit, ih, pow_succ, Nat.mul_comm (16 ^ k), Nat.mod_mul, Nat.add_comm]

theorem ofDigits?_digits (u : Uuid) : ofDigits? u.digits = some u := by
  have hfold := foldl_digits u.bits.toNat 32
  have hbits : u.bits.toNat % 16 ^ 32 = u.bits.toNat := Nat.mod_eq_of_lt u.bits.isLt
  rw [hbits] at hfold
  simp only [ofDigits?, mapM_hexValue, Option.bind_eq_bind, Option.bind_some, List.length_map,
    List.length_range, if_true]
  have : (List.map u.digitValue (List.range 32)).foldl (16 * · + ·) 0 = u.bits.toNat := hfold
  rw [this]
  simp

structure SimpleForm (u : Uuid) (s : String) : Prop where
  length : s.toList.length = 32
  lower : ∀ c ∈ s.toList, c ∈ "0123456789abcdef".toList
  reads : ofDigits? s.toList = some u

theorem digitChar_mem {n : Nat} (h : n < 16) : Nat.digitChar n ∈ "0123456789abcdef".toList := by
  revert n
  decide

theorem simpleForm_simple (u : Uuid) : u.SimpleForm u.simple := by
  have hdigits : u.simple.toList = u.digits := String.toList_ofList
  refine ⟨?_, ?_, ?_⟩ <;> rw [hdigits]
  · exact u.digits_length
  · intro c hc
    rw [digits_eq, List.mem_map] at hc
    obtain ⟨i, -, rfl⟩ := hc
    exact digitChar_mem (u.digitValue_lt i)
  · exact u.ofDigits?_digits

def groups (u : Uuid) : List (List Char) :=
  [u.digits.take 8, (u.digits.drop 8).take 4, (u.digits.drop 12).take 4, (u.digits.drop 16).take 4,
    u.digits.drop 20]

theorem groups_flatten (u : Uuid) : u.groups.flatten = u.digits := by
  have h (i j : Nat) : (u.digits.drop i).take j ++ u.digits.drop (i + j) = u.digits.drop i := by
    rw [← List.drop_drop, List.take_append_drop]
  simp only [groups, List.flatten_cons, List.flatten_nil, List.append_nil]
  rw [h 16 4, h 12 4, h 8 4, List.take_append_drop]

theorem mem_text {u : Uuid} {c : Char} (h : c ∈ u.text.toList) : c = '-' ∨ c ∈ u.digits := by
  rw [text, String.toList_ofList] at h
  simp only [List.mem_append, List.mem_cons] at h
  rcases h with h | rfl | h | rfl | h | rfl | h | rfl | h
  · exact .inr (List.mem_of_mem_take h)
  · exact .inl rfl
  · exact .inr (List.mem_of_mem_drop (List.mem_of_mem_take h))
  · exact .inl rfl
  · exact .inr (List.mem_of_mem_drop (List.mem_of_mem_take h))
  · exact .inl rfl
  · exact .inr (List.mem_of_mem_drop (List.mem_of_mem_take h))
  · exact .inl rfl
  · exact .inr (List.mem_of_mem_drop h)

theorem text_length (u : Uuid) : u.text.toList.length = 36 := by
  simp [text]

theorem not_mem_text {c : Char} (hc : hexValue c = none) (hyphen : c ≠ '-') (u : Uuid) :
    c ∉ u.text.toList := by
  intro h
  rcases mem_text h with rfl | h
  · exact hyphen rfl
  · exact not_mem_digits hc u h

theorem byteLength_eq_length {cs : List Char} (h : ∀ c ∈ cs, c.utf8Size = 1) :
    byteLength cs = cs.length := by
  suffices ∀ n, cs.foldl (· + ·.utf8Size) n = n + cs.length by simpa [byteLength] using this 0
  induction cs with
  | nil => intro n; rfl
  | cons c cs ih =>
    intro n
    rw [List.foldl_cons, ih fun c hc => h c (List.mem_cons_of_mem _ hc), h c List.mem_cons_self,
      List.length_cons]
    omega

theorem byteLength_text (u : Uuid) : byteLength u.text.toList = 36 := by
  rw [byteLength_eq_length, text_length]
  intro c h
  rcases mem_text h with rfl | h
  · rfl
  · exact utf8Size_of_hexValue (hexValue_of_mem_digits h)

theorem pieces_text (u : Uuid) : Text.pieces '-' u.text.toList = u.groups := by
  have hyphen : '-' ∉ u.digits := not_mem_digits rfl u
  have htake (n : Nat) {cs : List Char} (h : '-' ∉ cs) : '-' ∉ cs.take n := fun hc =>
    h (List.mem_of_mem_take hc)
  have hdrop (n : Nat) : '-' ∉ u.digits.drop n := fun hc => hyphen (List.mem_of_mem_drop hc)
  rw [text, String.toList_ofList, Text.pieces_append_sep (htake 8 hyphen),
    Text.pieces_append_sep (htake 4 (hdrop 8)), Text.pieces_append_sep (htake 4 (hdrop 12)),
    Text.pieces_append_sep (htake 4 (hdrop 16)), Text.pieces_of_not_mem (hdrop 20)]
  rfl

theorem ofGroups?_text (u : Uuid) : ofGroups? u.text.toList = some u := by
  have hlengths : u.groups.map List.length = [8, 4, 4, 4, 12] := by simp [groups]
  rw [ofGroups?, pieces_text, if_pos hlengths, groups_flatten, ofDigits?_digits]

theorem parse_text (u : Uuid) : parse u.text = .ok u := by
  simp [parse, hyphenatedPart?, byteLength_text, ofGroups?_text]

theorem text_injective : Function.Injective text := by
  intro u v h
  have := (parse_text u).symm.trans ((congrArg parse h).trans (parse_text v))
  simpa using this

end Roster.Uuid
