import Mathlib.Data.List.DropRight
import Roster.Json.Decode
import Roster.Proofs.Except
import Roster.Proofs.Json.Value

namespace Roster.Json

open Reader (Reads Starts bind_eq_ok bind_of_ok map_eq_ok map_of_ok next_cons pure_eq_ok)

variable {levels : Nat} {α β : Type}

theorem reads_string (s : String) : Reads (Decode.read levels) (bytes (.string s)) s := by
  intro rest _
  rw [bytes_string]
  exact Reader.quoted_text s rest

theorem reads_unsigned {limit n : Nat} (hn : n < limit) (hlimit : limit ≤ UInt64.size) (expected : String) :
    Reads (Reader.unsigned limit expected) (bytes (.nat n)) n := by
  intro rest hrest
  have hnumeral : Reader.numeral false (bytes (.nat n) ++ rest) = .ok (.integer n, rest) :=
    Reader.numeral_decimalDigits (Nat.lt_of_lt_of_le hn hlimit) hrest false
  have hunsigned : Number.unsigned limit expected (.integer n) = .ok n := by
    rw [Number.unsigned, if_pos (by omega), Int.toNat_natCast]
  obtain ⟨first, more, hbytes, hdigits⟩ := Reader.exists_digits n
  have hfirst : bytes (.nat n) = first :: more := hbytes
  have hminus : first ≠ 0x2D := Reader.ne_of_isDigit hdigits.digit rfl
  rw [hfirst, List.cons_append] at hnumeral ⊢
  rw [Reader.unsigned, bind_of_ok (next_cons (Reader.isSpace_of_isDigit hdigits.digit) _)]
  simp only [hminus, hdigits.digit, or_true, if_true, decide_false, if_false]
  rw [bind_of_ok hnumeral]
  simp only [hunsigned]
  rfl

theorem reads_uint16 (n : UInt16) : Reads (Decode.read levels) (bytes (.nat n.toNat)) n := by
  have hread := (reads_unsigned n.toNat_lt_size (by decide) "u16").map UInt16.ofNat
  rwa [UInt16.ofNat_toNat] at hread

theorem reads_uint32 (n : UInt32) : Reads (Decode.read levels) (bytes (.nat n.toNat)) n := by
  have hread := (reads_unsigned n.toNat_lt_size (by decide) "u32").map UInt32.ofNat
  rwa [UInt32.ofNat_toNat] at hread

inductive Present : List UInt8 → Prop
  | cons {b : UInt8} (bs : List UInt8) : Reader.isSpace b = false → b ≠ 0x6E → Present (b :: bs)

theorem present_bytes {v : Json} (h : v.Whole) (hne : v ≠ .null) : Present v.bytes := by
  obtain ⟨first, more, hbytes, hspace, -, hnull⟩ := Reader.exists_first h
  rw [hbytes]
  exact .cons more hspace (hnull hne)

theorem reads_some [Decode α] {bs : List UInt8} {a : α} (hbs : Present bs)
    (h : Reads (Decode.read levels) bs a) : Reads (Decode.read levels) bs (some a) := by
  intro rest hrest
  cases hbs with
  | @cons first bs hspace hnull =>
    have hfirst : some first ≠ some 0x6E := fun heq => hnull (Option.some.inj heq)
    simp only [Decode.read, List.cons_append]
    rw [bind_of_ok (next_cons hspace _)]
    generalize some first = first at hfirst
    simp only
    exact map_of_ok (h rest hrest)

theorem reads_list [Decode α] {write : α → Json} {as : List α}
    (h : ∀ a ∈ as, Starts (bytes (write a)) ∧ Reads (Decode.read levels) (bytes (write a)) a) :
    Reads (Decode.read (levels + 1)) (bytes (.array (as.map write))) as := by
  intro rest _
  have hitems : List.Forall₂ (fun bs a => Starts bs ∧ Reads (Decode.read levels) bs a)
      ((as.map write).map bytes) as :=
    List.forall₂_map_left_iff.2 (List.forall₂_map_left_iff.2 (List.forall₂_same.2 h))
  rw [bytes_array]
  exact Reader.arrayOf_separated hitems rest

theorem decode_compact [Decode α] {v : Json} {a : α} (h : Reads (Decode.read maxLevels) v.bytes a) :
    decode α v.compact.toUTF8.data.toList = .ok a := by
  have hread := h [] Reader.ends_nil
  rw [List.append_nil] at hread
  rw [toUTF8_compact, decode, StateT.run', bind_of_ok hread]
  rfl

variable {input rest : List UInt8}

theorem read_of_decode [Decode α] {a : α} (h : decode α input = .ok a) :
    ∃ rest, Decode.read maxLevels input = .ok (a, rest) := by
  obtain ⟨⟨b, mid⟩, hrun, rfl⟩ := Except.map_eq_ok.1 h
  obtain ⟨a, rest, hread, hrun⟩ := bind_eq_ok.1 hrun
  obtain ⟨_, _, -, hrun⟩ := bind_eq_ok.1 hrun
  obtain ⟨rfl, -⟩ := pure_eq_ok.1 hrun
  exact ⟨rest, hread⟩

theorem Reader.refuse_ne_ok {expected : String} {out : α × List UInt8} :
    (Reader.refuse expected : Reader α) input ≠ .ok out := by
  intro h
  obtain ⟨b, _, -, h⟩ := bind_eq_ok.1 h
  split at h
  -- A scalar is passed over before it is refused.
  case h_1 | h_2 | h_3 | h_4 | h_5 =>
    obtain ⟨_, _, -, h⟩ := bind_eq_ok.1 h
    obtain ⟨_, _, -, h⟩ := bind_eq_ok.1 h
    cases h
  case h_8 =>
    split at h
    · obtain ⟨_, _, -, h⟩ := bind_eq_ok.1 h
      cases h
    · cases h
  case h_6 | h_7 | h_9 => cases h

theorem read_some [Decode α] {a : α} (h : Decode.read levels input = .ok (some a, rest)) :
    (input.dropWhile Reader.isSpace).head? ≠ some 0x6E ∧
      Decode.read levels (input.dropWhile Reader.isSpace) = .ok (a, rest) := by
  obtain ⟨b, mid, hnext, h⟩ := bind_eq_ok.1 h
  cases hnext
  generalize (input.dropWhile Reader.isSpace).head? = first at h ⊢
  split at h
  · obtain ⟨_, _, -, h⟩ := bind_eq_ok.1 h
    obtain ⟨_, _, -, h⟩ := bind_eq_ok.1 h
    cases h
  · rename_i hne
    obtain ⟨_, hread, heq⟩ := map_eq_ok.1 h
    cases heq
    exact ⟨hne, hread⟩

theorem read_list [Decode α] {P : α → Prop}
    (hitem : ∀ input a rest, Decode.read levels input = .ok (a, rest) → P a) {as : List α}
    (h : Decode.read (levels + 1) input = .ok (as, rest)) : ∀ a ∈ as, P a := by
  obtain ⟨b, mid, -, h⟩ := bind_eq_ok.1 h
  split at h
  · cases h
  · exact Reader.arrayOf_invariant hitem h
  · exact absurd h Reader.refuse_ne_ok

theorem read_some_value {v : Json} (h : Decode.read levels input = .ok (some v, rest)) :
    v ≠ .null ∧ v.Sorted ∧ v.Fits levels := by
  obtain ⟨hne, hread⟩ := read_some h
  refine ⟨?_, Reader.value_sorted hread⟩
  rintro rfl
  have hnull := Reader.head_of_value_null hread
  rw [List.dropWhile_idempotent] at hnull
  exact hne hnull

theorem isSome_of_ofJson [Decode α] {v : Json} (hv : v ≠ .null) {x : Option α} (h : Decode.ofJson v = .ok x) :
    x.isSome := by
  cases v with
  | null => exact absurd rfl hv
  | bool | number | string | array | object =>
    obtain ⟨a, -, rfl⟩ := Except.map_eq_ok.1 h
    rfl

end Roster.Json
