import Roster.Json.Value
import Roster.Proofs.Json.Container
import Roster.Proofs.Json.Numeral
import Roster.Proofs.Json.Sorted

/-! What is read as a value is sorted and not nested too deep.  Such a value is read from its text, as long as its numbers
are integers. -/

namespace Roster.Json

open Text (encode)
open Reader (Ends Folds Reads Starts bind_of_ok map_of_ok memberBytes next_cons separated)

inductive Whole : Json → Prop
  | null : Whole .null
  | bool (b : Bool) : Whole (.bool b)
  | integer {z : Int} : -2 ^ 63 ≤ z → z < 2 ^ 64 → Whole (.number (.integer z))
  | string (s : String) : Whole (.string s)
  | array {items : List Json} : (∀ v ∈ items, Whole v) → Whole (.array items)
  | object {members : List (String × Json)} : (∀ m ∈ members, Whole m.2) → Whole (.object members)

inductive Fits : Nat → Json → Prop
  | null (levels : Nat) : Fits levels .null
  | bool (levels : Nat) (b : Bool) : Fits levels (.bool b)
  | number (levels : Nat) (x : Number) : Fits levels (.number x)
  | string (levels : Nat) (s : String) : Fits levels (.string s)
  | array {levels : Nat} {items : List Json} : (∀ v ∈ items, Fits levels v) → Fits (levels + 1) (.array items)
  | object {levels : Nat} {members : List (String × Json)} :
    (∀ m ∈ members, Fits levels m.2) → Fits (levels + 1) (.object members)

namespace Reader

inductive Scalar : Json → Prop
  | null : Scalar .null
  | bool (b : Bool) : Scalar (.bool b)
  | number (x : Number) : Scalar (.number x)
  | string (s : String) : Scalar (.string s)

theorem Scalar.sorted {v : Json} (h : Scalar v) (levels : Nat) : v.Sorted ∧ v.Fits levels := by
  cases h with
  | null => exact ⟨.null, .null levels⟩
  | bool b => exact ⟨.bool b, .bool levels b⟩
  | number x => exact ⟨.number x, .number levels x⟩
  | string s => exact ⟨.string s, .string levels s⟩

theorem valueWith_eq_ok {array object : Reader Json} {input rest : List UInt8} {v : Json}
    (h : valueWith array object input = .ok (v, rest)) :
    (Scalar v ∧ (v = .null → (input.dropWhile isSpace).head? = some 0x6E)) ∨
      (∃ mid, array mid = .ok (v, rest)) ∨ ∃ mid, object mid = .ok (v, rest) := by
  rw [valueWith] at h
  obtain ⟨b, mid, hnext, h⟩ := bind_eq_ok.1 h
  have hb : (input.dropWhile isSpace).head? = b := congrArg Prod.fst (Except.ok.inj hnext)
  rw [hb]
  split at h
  · cases h
  · obtain ⟨_, _, -, h⟩ := bind_eq_ok.1 h
    obtain ⟨_, _, -, h⟩ := bind_eq_ok.1 h
    obtain ⟨rfl, -⟩ := pure_eq_ok.1 h
    exact .inl ⟨.null, fun _ => rfl⟩
  · obtain ⟨_, _, -, h⟩ := bind_eq_ok.1 h
    obtain ⟨_, _, -, h⟩ := bind_eq_ok.1 h
    obtain ⟨rfl, -⟩ := pure_eq_ok.1 h
    exact .inl ⟨.bool true, by simp⟩
  · obtain ⟨_, _, -, h⟩ := bind_eq_ok.1 h
    obtain ⟨_, _, -, h⟩ := bind_eq_ok.1 h
    obtain ⟨rfl, -⟩ := pure_eq_ok.1 h
    exact .inl ⟨.bool false, by simp⟩
  · obtain ⟨_, _, -, h⟩ := bind_eq_ok.1 h
    obtain ⟨x, -, rfl⟩ := map_eq_ok.1 h
    exact .inl ⟨.number x, by simp⟩
  · obtain ⟨_, _, -, h⟩ := bind_eq_ok.1 h
    obtain ⟨s, -, rfl⟩ := map_eq_ok.1 h
    exact .inl ⟨.string s, by simp⟩
  · exact .inr (.inl ⟨mid, h⟩)
  · exact .inr (.inr ⟨mid, h⟩)
  · split at h
    · obtain ⟨x, -, rfl⟩ := map_eq_ok.1 h
      exact .inl ⟨.number x, by simp⟩
    · cases h

theorem value_sorted {levels : Nat} {input rest : List UInt8} {v : Json}
    (h : value levels input = .ok (v, rest)) : v.Sorted ∧ v.Fits levels := by
  induction levels generalizing input rest v with
  | zero =>
    obtain ⟨hscalar, -⟩ | ⟨_, h⟩ | ⟨_, h⟩ := valueWith_eq_ok h
    · exact hscalar.sorted 0
    · cases h
    · cases h
  | succ levels ih =>
    obtain ⟨hscalar, -⟩ | ⟨_, h⟩ | ⟨_, h⟩ := valueWith_eq_ok h
    · exact hscalar.sorted (levels + 1)
    · obtain ⟨items, hread, rfl⟩ := map_eq_ok.1 h
      have hitems := arrayOf_invariant (fun _ _ _ => ih) hread
      exact ⟨.array fun v hv => (hitems v hv).1, .array fun v hv => (hitems v hv).2⟩
    · obtain ⟨members, hread, rfl⟩ := map_eq_ok.1 h
      have hmembers : Ascending members ∧ ∀ m ∈ members, m.2.Sorted ∧ m.2.Fits levels := by
        refine objectOf_invariant (P := fun ms => Ascending ms ∧ ∀ m ∈ ms, m.2.Sorted ∧ m.2.Fits levels) ?_
          ⟨List.Pairwise.nil, List.forall_mem_nil _⟩ hread
        intro key sorted input sorted' rest hsorted hmember
        obtain ⟨_, _, -, hmember⟩ := bind_eq_ok.1 hmember
        obtain ⟨v, _, hvalue, hmember⟩ := bind_eq_ok.1 hmember
        obtain ⟨rfl, -⟩ := pure_eq_ok.1 hmember
        refine ⟨hsorted.1.insert key v, fun m hm => ?_⟩
        rcases mem_insert hm with rfl | hm
        · exact ih hvalue
        · exact hsorted.2 m hm
      exact ⟨.object hmembers.1 fun m hm => (hmembers.2 m hm).1, .object fun m hm => (hmembers.2 m hm).2⟩

theorem head_of_value_null {levels : Nat} {input rest : List UInt8}
    (h : value levels input = .ok (.null, rest)) : (input.dropWhile isSpace).head? = some 0x6E := by
  cases levels with
  | zero =>
    obtain ⟨-, hnull⟩ | ⟨_, h⟩ | ⟨_, h⟩ := valueWith_eq_ok h
    · exact hnull rfl
    · cases h
    · cases h
  | succ levels =>
    obtain ⟨-, hnull⟩ | ⟨_, h⟩ | ⟨_, h⟩ := valueWith_eq_ok h
    · exact hnull rfl
    · obtain ⟨_, -, h⟩ := map_eq_ok.1 h
      cases h
    · obtain ⟨_, -, h⟩ := map_eq_ok.1 h
      cases h

end Reader

def bytes (v : Json) : List UInt8 := encode v.text

theorem toUTF8_compact (v : Json) : v.compact.toUTF8.data.toList = v.bytes := by
  rw [compact, Text.data_toUTF8, String.toList_ofList, bytes]

def memberOf (m : String × Json) : String × List UInt8 := (m.1, m.2.bytes)

theorem encode_textItems_cons (v : Json) (items : List Json) :
    encode (textItems (v :: items)) = v.bytes ++ separated false (items.map bytes) := by
  induction items generalizing v with
  | nil => simp [textItems, bytes, separated]
  | cons w rest ih =>
    rw [textItems, Text.encode_append, Text.encode_cons, ih]
    · rfl
    · simp

theorem encode_textItems (items : List Json) : encode (textItems items) = separated true (items.map bytes) := by
  cases items with
  | nil => rfl
  | cons v rest => exact encode_textItems_cons v rest

theorem encode_member (m : String × Json) :
    encode (quote m.1 ++ ':' :: text m.2) = memberBytes (memberOf m) := by
  rw [Text.encode_append]
  rfl

theorem encode_textMembers_cons (m : String × Json) (members : List (String × Json)) :
    encode (textMembers (m :: members)) =
      memberBytes (memberOf m) ++ separated false ((members.map memberOf).map memberBytes) := by
  induction members generalizing m with
  | nil =>
    rw [textMembers, encode_member]
    exact (List.append_nil _).symm
  | cons next rest ih =>
    rw [textMembers, ← List.cons_append, ← List.append_assoc, Text.encode_append, encode_member, Text.encode_cons, ih]
    · rfl
    · simp

theorem encode_textMembers (members : List (String × Json)) :
    encode (textMembers members) = separated true ((members.map memberOf).map memberBytes) := by
  cases members with
  | nil => rfl
  | cons m rest => exact encode_textMembers_cons m rest

theorem bytes_array (items : List Json) (rest : List UInt8) :
    bytes (.array items) ++ rest = 0x5B :: (separated true (items.map bytes) ++ 0x5D :: rest) := by
  rw [bytes, text, Text.encode_cons, Text.encode_append, encode_textItems, List.append_assoc, List.append_assoc]
  rfl

theorem bytes_object (members : List (String × Json)) (rest : List UInt8) :
    bytes (.object members) ++ rest =
      0x7B :: (separated true ((members.map memberOf).map memberBytes) ++ 0x7D :: rest) := by
  rw [bytes, text, Text.encode_cons, Text.encode_append, encode_textMembers, List.append_assoc, List.append_assoc]
  rfl

theorem bytes_string (s : String) (rest : List UInt8) :
    bytes (.string s) ++ rest = 0x22 :: (encode (s.toList.flatMap escapeChar) ++ 0x22 :: rest) := by
  rw [bytes, text, quote, Text.encode_cons, Text.encode_append, List.append_assoc, List.append_assoc]
  rfl

namespace Reader

variable (array object : Reader Json) {rest : List UInt8}

theorem valueWith_null : valueWith array object (bytes .null ++ rest) = .ok (.null, rest) := rfl

theorem valueWith_bool (b : Bool) : valueWith array object (bytes (.bool b) ++ rest) = .ok (.bool b, rest) := by
  cases b <;> rfl

theorem valueWith_string (s : String) :
    valueWith array object (bytes (.string s) ++ rest) = .ok (.string s, rest) := by
  rw [bytes_string]
  exact map_of_ok (quoted_text s rest)

theorem ne_of_isDigit {b c : UInt8} (h : isDigit b = true) (hc : isDigit c = false) : b ≠ c := by
  rintro rfl
  simp [h] at hc

theorem isSpace_of_isDigit {b : UInt8} (h : isDigit b = true) : isSpace b = false := by
  have hne : b ≠ 0x20 ∧ b ≠ 0x09 ∧ b ≠ 0x0A ∧ b ≠ 0x0D := by
    refine ⟨?_, ?_, ?_, ?_⟩ <;> exact ne_of_isDigit h rfl
  simp [isSpace, hne]

theorem valueWith_digit {b : UInt8} (h : isDigit b = true) (rest : List UInt8) :
    valueWith array object (b :: rest) = (Json.number <$> numeral false) (b :: rest) := by
  have hne : b ≠ 0x6E ∧ b ≠ 0x74 ∧ b ≠ 0x66 ∧ b ≠ 0x2D ∧ b ≠ 0x22 ∧ b ≠ 0x5B ∧ b ≠ 0x7B := by
    refine ⟨?_, ?_, ?_, ?_, ?_, ?_, ?_⟩ <;> exact ne_of_isDigit h rfl
  obtain ⟨hn, ht, hf, hminus, hquote, hbracket, hbrace⟩ := hne
  rw [valueWith, bind_of_ok (next_cons (isSpace_of_isDigit h) rest)]
  simp only [h, if_true]

theorem valueWith_integer {z : Int} (hlow : -2 ^ 63 ≤ z) (hhigh : z < 2 ^ 64) (hrest : Ends rest) :
    valueWith array object (bytes (.number (.integer z)) ++ rest) = .ok (.number (.integer z), rest) := by
  have hfits : z.natAbs < UInt64.size := by
    rw [UInt64.size]
    omega
  have hread (negative : Bool) := numeral_decimalDigits hfits hrest negative
  rw [bytes, Json.text, Number.text, integerText]
  split
  · rename_i hneg
    have htrue := hread true
    rw [whole_natAbs hneg hlow] at htrue
    exact map_of_ok htrue
  · rename_i hneg
    have hz : (z.natAbs : Int) = z := by omega
    have hfalse : numeral false (encode (decimalDigits z.natAbs) ++ rest) = .ok (.integer z, rest) := by
      rw [hread false, whole, if_pos (by rfl), hz]
      rfl
    obtain ⟨first, more, hbytes, hdigits⟩ := exists_digits z.natAbs
    rw [hbytes, List.cons_append] at hfalse ⊢
    rw [valueWith_digit array object hdigits.digit]
    exact map_of_ok hfalse

theorem exists_first {v : Json} (h : v.Whole) :
    ∃ first more, v.bytes = first :: more ∧ isSpace first = false ∧ first ≠ 0x5D ∧ (v ≠ .null → first ≠ 0x6E) := by
  cases h with
  | null => exact ⟨_, _, rfl, rfl, by decide, fun h => absurd rfl h⟩
  | bool b => cases b <;> exact ⟨_, _, rfl, rfl, by decide, fun _ => by decide⟩
  | string s => exact ⟨_, _, rfl, rfl, by decide, fun _ => by decide⟩
  | array _ => exact ⟨_, _, rfl, rfl, by decide, fun _ => by decide⟩
  | object _ => exact ⟨_, _, rfl, rfl, by decide, fun _ => by decide⟩
  | @integer z _ _ =>
    rw [bytes, Json.text, Number.text, integerText]
    split
    · exact ⟨_, _, rfl, rfl, by decide, fun _ => by decide⟩
    · obtain ⟨first, more, hbytes, hdigits⟩ := exists_digits z.natAbs
      have hspace : isSpace first = false := isSpace_of_isDigit hdigits.digit
      exact ⟨first, more, hbytes, hspace, ne_of_isDigit hdigits.digit rfl, fun _ => ne_of_isDigit hdigits.digit rfl⟩

theorem starts_bytes {v : Json} (h : v.Whole) : Starts v.bytes := by
  obtain ⟨first, more, hbytes, hspace, hclose, -⟩ := exists_first h
  rw [hbytes]
  exact .cons more hspace hclose

theorem value_of_scalar {levels : Nat} {v : Json} {input rest : List UInt8}
    (h : ∀ array object, valueWith array object input = .ok (v, rest)) : value levels input = .ok (v, rest) := by
  cases levels <;> exact h _ _

theorem reads_array {levels : Nat} {items : List Json}
    (h : ∀ v ∈ items, Starts v.bytes ∧ Reads (value levels) v.bytes v) :
    Reads (value (levels + 1)) (bytes (.array items)) (.array items) := by
  intro rest _
  have hitems : List.Forall₂ (fun bs v => Starts bs ∧ Reads (value levels) bs v) (items.map bytes) items :=
    List.forall₂_map_left_iff.2 (List.forall₂_same.2 h)
  rw [bytes_array, value]
  exact map_of_ok (arrayOf_separated hitems rest)

theorem folds_members {levels : Nat} {before members : List (String × Json)}
    (hkeys : Ascending (before ++ members)) (h : ∀ m ∈ members, Reads (value levels) m.2.bytes m.2) :
    Folds (fun k sorted => do colon; return insert k (← value levels) sorted) (members.map memberOf)
      before (before ++ members) := by
  induction members generalizing before with
  | nil =>
    rw [List.append_nil]
    exact .nil before
  | cons m rest ih =>
    have hlast : ∀ n ∈ before, n.1 < m.1 := fun n hn =>
      (List.pairwise_append.1 hkeys).2.2 n hn m List.mem_cons_self
    have hinsert : insert m.1 m.2 before = before ++ [m] := insert_of_forall_lt m.2 hlast
    rw [List.append_cons] at hkeys ⊢
    have hrest := ih hkeys fun n hn => h n (List.mem_cons_of_mem _ hn)
    refine .cons (fun more hmore => ?_) hrest
    have hcolon : colon (0x3A :: (m.2.bytes ++ more)) = .ok ((), m.2.bytes ++ more) := rfl
    rw [List.cons_append, bind_of_ok hcolon, bind_of_ok (h m List.mem_cons_self more hmore), hinsert]
    rfl

theorem reads_object {levels : Nat} {members : List (String × Json)} (hkeys : Ascending members)
    (h : ∀ m ∈ members, Reads (value levels) m.2.bytes m.2) :
    Reads (value (levels + 1)) (bytes (.object members)) (.object members) := by
  intro rest _
  rw [bytes_object, value]
  exact map_of_ok (objectOf_separated (@folds_members levels [] members hkeys h) rest)

theorem reads_value {levels : Nat} {v : Json} (hfits : v.Fits levels) (hsorted : v.Sorted) (hwhole : v.Whole) :
    Reads (value levels) v.bytes v := by
  induction hfits with
  | null levels => exact fun rest _ => value_of_scalar fun array object => valueWith_null array object
  | bool levels b => exact fun rest _ => value_of_scalar fun array object => valueWith_bool array object b
  | string levels s => exact fun rest _ => value_of_scalar fun array object => valueWith_string array object s
  | number levels x =>
    cases hwhole with
    | integer hlow hhigh =>
      exact fun rest hrest => value_of_scalar fun array object => valueWith_integer array object hlow hhigh hrest
  | array _ ih =>
    cases hsorted with
    | array hsorted =>
      cases hwhole with
      | array hwhole =>
        exact reads_array fun v hv => ⟨starts_bytes (hwhole v hv), ih v hv (hsorted v hv) (hwhole v hv)⟩
  | object _ ih =>
    cases hsorted with
    | object hkeys hsorted =>
      cases hwhole with
      | object hwhole => exact reads_object hkeys fun m hm => ih m hm (hsorted m hm) (hwhole m hm)

end Reader

end Roster.Json
