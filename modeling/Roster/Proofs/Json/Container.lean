import Mathlib.Data.List.Forall2
import Roster.Json.Container
import Roster.Proofs.Json.Quoted
import Roster.Proofs.Json.Reading

namespace Roster.Json.Reader

open Text (encode)

variable {α β : Type}

def Reads (read : Reader α) (bs : List UInt8) (a : α) : Prop :=
  ∀ rest, Ends rest → read (bs ++ rest) = .ok (a, rest)

theorem Reads.map {read : Reader α} {bs : List UInt8} {a : α} (h : Reads read bs a) (f : α → β) :
    Reads (f <$> read) bs (f a) :=
  fun rest hrest => map_of_ok (h rest hrest)

inductive Starts : List UInt8 → Prop
  | cons {b : UInt8} (bs : List UInt8) : isSpace b = false → b ≠ 0x5D → Starts (b :: bs)

def comma (first : Bool) (bs : List UInt8) : List UInt8 := if first then bs else 0x2C :: bs

def separated : (first : Bool) → List (List UInt8) → List UInt8
  | _, [] => []
  | first, bs :: rest => comma first bs ++ separated false rest

theorem bracketed_eq_ok {body : Reader α} {close : Reader Unit} {leave : List UInt8 → List UInt8}
    {input rest : List UInt8} {a : α} (h : bracketed body close leave input = .ok (a, rest)) :
    ∃ mid, body (input.drop 1) = .ok (a, mid) := by
  rw [bracketed] at h
  split at h
  · rename_i a' mid hbody
    obtain ⟨_, _, -, h⟩ := bind_eq_ok.1 h
    obtain ⟨rfl, -⟩ := pure_eq_ok.1 h
    exact ⟨mid, hbody⟩
  · cases h
  · cases h

theorem elements_invariant {item : Reader α} {P : α → Prop}
    (hitem : ∀ input a rest, item input = .ok (a, rest) → P a) {steps : List UInt8} {first : Bool}
    {gathered as : List α} {input rest : List UInt8} (hgathered : ∀ a ∈ gathered, P a)
    (h : elements item steps first gathered input = .ok (as, rest)) : ∀ a ∈ as, P a := by
  induction steps generalizing first gathered input with
  | nil => cases h
  | cons _ steps ih =>
    simp only [elements] at h
    split at h
    · cases h
    · cases h
      simpa using hgathered
    · split at h
      · cases h
      · rename_i a mid hread
        refine ih ?_ h
        simp only [List.mem_cons, forall_eq_or_imp]
        exact ⟨hitem _ _ _ hread, hgathered⟩

theorem members_invariant {item : String → β → Reader β} {P : β → Prop}
    (hitem : ∀ key b input b' rest, P b → item key b input = .ok (b', rest) → P b') {steps : List UInt8}
    {first : Bool} {b b' : β} {input rest : List UInt8} (hb : P b)
    (h : members item steps first b input = .ok (b', rest)) : P b' := by
  induction steps generalizing first b input with
  | nil => cases h
  | cons _ steps ih =>
    simp only [members] at h
    split at h
    · cases h
    · cases h
      exact hb
    · split at h
      · cases h
      · rename_i next mid hread
        obtain ⟨key, _, -, hread⟩ := bind_eq_ok.1 hread
        exact ih (hitem key b _ next _ hb hread) h

theorem arrayOf_invariant {item : Reader α} {P : α → Prop}
    (hitem : ∀ input a rest, item input = .ok (a, rest) → P a) {input rest : List UInt8} {as : List α}
    (h : arrayOf item input = .ok (as, rest)) : ∀ a ∈ as, P a := by
  obtain ⟨mid, h⟩ := bracketed_eq_ok h
  exact elements_invariant hitem (List.forall_mem_nil P) h

theorem objectOf_invariant {item : String → β → Reader β} {P : β → Prop}
    (hitem : ∀ key b input b' rest, P b → item key b input = .ok (b', rest) → P b') {b b' : β}
    {input rest : List UInt8} (hb : P b) (h : objectOf item b input = .ok (b', rest)) : P b' := by
  obtain ⟨mid, h⟩ := bracketed_eq_ok h
  exact members_invariant hitem hb h

theorem ends_separated (bss : List (List UInt8)) {b : UInt8} (h : b = 0x2C ∨ b = 0x5D ∨ b = 0x7D)
    (rest : List UInt8) : Ends (separated false bss ++ b :: rest) := by
  cases bss with
  | nil => exact ends_cons h rest
  | cons bs bss => exact ends_cons (.inl rfl) _

theorem length_separated (first : Bool) (bss : List (List UInt8)) :
    bss.length ≤ (separated first bss).length + first.toNat := by
  induction bss generalizing first with
  | nil => exact Nat.zero_le _
  | cons bs bss ih =>
    have hrest := ih false
    cases first <;> simp [separated, comma] at hrest ⊢ <;> omega

theorem element_comma (first : Bool) {bs : List UInt8} (h : Starts bs) (rest : List UInt8) :
    element first (comma first bs ++ rest) = .ok (true, bs ++ rest) := by
  cases h with
  | @cons b bs hspace hclose =>
    cases first with
    | true =>
      rw [comma, if_pos rfl, List.cons_append, element, bind_of_ok (next_cons hspace _)]
      simp only [if_true]
      rfl
    | false =>
      have hadvance : advance (0x2C :: b :: (bs ++ rest)) = .ok ((), b :: (bs ++ rest)) := rfl
      rw [comma, if_neg Bool.false_ne_true, List.cons_append, List.cons_append, element,
        bind_of_ok (next_cons rfl _)]
      change (advance >>= _) _ = _
      rw [bind_of_ok hadvance, bind_of_ok (next_cons hspace _)]
      simp only
      rfl

theorem element_last (first : Bool) (rest : List UInt8) :
    element first (0x5D :: rest) = .ok (false, 0x5D :: rest) := rfl

theorem elements_separated {item : Reader α} {bss : List (List UInt8)} {as : List α}
    (h : List.Forall₂ (fun bs a => Starts bs ∧ Reads item bs a) bss as) {steps : List UInt8}
    (hsteps : bss.length < steps.length) (first : Bool) (gathered : List α) (rest : List UInt8) :
    elements item steps first gathered (separated first bss ++ 0x5D :: rest) =
      .ok (gathered.reverse ++ as, 0x5D :: rest) := by
  induction h generalizing steps first gathered with
  | nil =>
    cases steps with
    | nil => simp at hsteps
    | cons _ steps => simp [elements, separated, element_last]
  | @cons bs a bss as hitem hrest ih =>
    cases steps with
    | nil => simp at hsteps
    | cons _ steps =>
      have hread := hitem.2 _ (ends_separated bss (.inr (.inl rfl)) rest)
      simp only [elements, separated, List.append_assoc, element_comma first hitem.1, hread,
        ih (Nat.lt_of_succ_lt_succ hsteps), List.reverse_cons, List.singleton_append]

theorem arrayOf_separated {item : Reader α} {bss : List (List UInt8)} {as : List α}
    (h : List.Forall₂ (fun bs a => Starts bs ∧ Reads item bs a) bss as) (rest : List UInt8) :
    arrayOf item (0x5B :: (separated true bss ++ 0x5D :: rest)) = .ok (as, rest) := by
  have hsteps : bss.length < (0x5B :: (separated true bss ++ 0x5D :: rest)).length := by
    have hlength := length_separated true bss
    simp at hlength ⊢
    omega
  rw [arrayOf, bracketed]
  simp only [List.drop_one, List.tail_cons, elements_separated h hsteps true [] rest]
  rfl

def memberBytes (m : String × List UInt8) : List UInt8 := encode (quote m.1) ++ 0x3A :: m.2

theorem memberBytes_append (key : String) (bs rest : List UInt8) :
    memberBytes (key, bs) ++ rest =
      0x22 :: (encode (key.toList.flatMap escapeChar) ++ 0x22 :: 0x3A :: (bs ++ rest)) := by
  have hquote : encode (quote key) = 0x22 :: (encode (key.toList.flatMap escapeChar) ++ [0x22]) := by
    rw [quote, Text.encode_cons, Text.encode_append]
    rfl
  rw [memberBytes, hquote]
  simp

theorem key_memberBytes (item : String → β → Reader β) (key : String) (b : β) (bs rest : List UInt8) :
    (do let k ← Reader.key; item k b : Reader β) (memberBytes (key, bs) ++ rest) =
      item key b (0x3A :: (bs ++ rest)) := by
  have hkey : Reader.key (memberBytes (key, bs) ++ rest) = .ok (key, 0x3A :: (bs ++ rest)) := by
    rw [memberBytes_append]
    exact quoted_text key _
  exact bind_of_ok hkey

theorem member_comma (first : Bool) (m : String × List UInt8) (rest : List UInt8) :
    member first (comma first (memberBytes m) ++ rest) = .ok (true, memberBytes m ++ rest) := by
  cases first with
  | true =>
    rw [comma, if_pos rfl, memberBytes_append]
    rfl
  | false =>
    rw [comma, if_neg Bool.false_ne_true, List.cons_append, memberBytes_append]
    rfl

theorem member_last (first : Bool) (rest : List UInt8) :
    member first (0x7D :: rest) = .ok (false, 0x7D :: rest) := rfl

inductive Folds (item : String → β → Reader β) : List (String × List UInt8) → β → β → Prop
  | nil (b : β) : Folds item [] b b
  | cons {key : String} {bs : List UInt8} {ms : List (String × List UInt8)} {b b' b'' : β} :
    Reads (item key b) (0x3A :: bs) b' → Folds item ms b' b'' → Folds item ((key, bs) :: ms) b b''

theorem members_separated {item : String → β → Reader β} {ms : List (String × List UInt8)} {b b' : β}
    (h : Folds item ms b b') {steps : List UInt8} (hsteps : ms.length < steps.length) (first : Bool)
    (rest : List UInt8) :
    members item steps first b (separated first (ms.map memberBytes) ++ 0x7D :: rest) = .ok (b', 0x7D :: rest) := by
  induction h generalizing steps first with
  | nil b =>
    cases steps with
    | nil => simp at hsteps
    | cons _ steps => simp [members, separated, member_last]
  | @cons key bs ms b b' b'' hitem hrest ih =>
    cases steps with
    | nil => simp at hsteps
    | cons _ steps =>
      have hread := hitem _ (ends_separated (ms.map memberBytes) (.inr (.inr rfl)) rest)
      rw [List.cons_append] at hread
      simp only [List.map_cons, members, separated, List.append_assoc, member_comma, key_memberBytes, hread,
        ih (Nat.lt_of_succ_lt_succ hsteps)]

theorem lt_length_object (ms : List (String × List UInt8)) (rest : List UInt8) :
    ms.length < (0x7B :: (separated true (ms.map memberBytes) ++ 0x7D :: rest)).length := by
  have hlength := length_separated true (ms.map memberBytes)
  simp at hlength ⊢
  omega

theorem objectOf_separated {item : String → β → Reader β} {ms : List (String × List UInt8)} {b b' : β}
    (h : Folds item ms b b') (rest : List UInt8) :
    objectOf item b (0x7B :: (separated true (ms.map memberBytes) ++ 0x7D :: rest)) = .ok (b', rest) := by
  rw [objectOf, bracketed]
  simp only [List.drop_one, List.tail_cons, members_separated h (lt_length_object ms rest) true rest]
  rfl

end Roster.Json.Reader
