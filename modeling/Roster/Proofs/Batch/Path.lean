import Mathlib.Data.List.Basic
import Roster.Batch.Path
import Roster.Proofs.Text.Pieces
import Roster.Proofs.Uuid

namespace Roster.Batch.Path

theorem isPart_text (id : Uuid) : IsPart id.text := by
  constructor
  · intro h
    have := Uuid.text_length id
    rw [h] at this
    simp at this
  · exact Uuid.not_mem_text rfl (by decide) id

theorem trimSlash_slash (cs : List Char) : trimSlash ('/' :: cs) = cs := rfl

theorem trimSlash_of_head?_ne {cs : List Char} (h : cs.head? ≠ some '/') : trimSlash cs = cs := by
  unfold trimSlash
  split
  · exact absurd rfl h
  · rfl

def lead (s : String) : String := if s.toList.head? = some '/' then "/" else ""

theorem lead_toList_append_trimSlash (s : String) :
    (lead s).toList ++ trimSlash s.toList = s.toList := by
  rw [lead]
  split
  · rename_i h
    obtain ⟨cs, hcs⟩ := List.head?_eq_some_iff.1 h
    rw [hcs, trimSlash_slash]
    rfl
  · rename_i h
    rw [trimSlash_of_head?_ne h, String.toList_empty, List.nil_append]

theorem lead_eq (s : String) : lead s = "" ∨ lead s = "/" := by
  rw [lead]
  split
  · exact .inr rfl
  · exact .inl rfl

theorem eq_lead_append_text {s : String} {p : Path} (h : parse s = .ok p) :
    p.WellFormed ∧ s = lead s ++ p.text := by
  have hs := lead_toList_append_trimSlash s
  rw [parse] at h
  split at h
  · rename_i segment hp
    obtain ⟨hmem, heq⟩ := Text.pieces_eq_singleton_iff.1 hp
    split at h
    · simp at h
    · rename_i hne
      cases h
      refine ⟨⟨⟨by simpa using hne, by simpa using hmem⟩, by simp⟩, String.toList_injective ?_⟩
      rw [String.toList_append, text, String.toList_ofList, ← heq, hs]
  · rename_i segment identifier hp
    obtain ⟨hmem, hmem', heq⟩ := Text.pieces_eq_pair_iff.1 hp
    split at h
    · simp at h
    · rename_i hne
      rw [not_or] at hne
      cases h
      refine ⟨⟨⟨by simpa using hne.1, by simpa using hmem⟩, ?_⟩, String.toList_injective ?_⟩
      · rintro _ ⟨⟩
        exact ⟨by simpa using hne.2, by simpa using hmem'⟩
      · simpa [text, String.toList_append, ← heq] using hs.symm
  · simp at h

theorem parse_slash_text {p : Path} (h : p.WellFormed) : parse ("/" ++ p.text) = .ok p := by
  obtain ⟨segment, identifier⟩ := p
  obtain ⟨⟨hs, hs'⟩, hi⟩ := h
  cases identifier with
  | none => simp_all [parse, text, trimSlash_slash, String.toList_append, Text.pieces_of_not_mem]
  | some i =>
    obtain ⟨hi, hi'⟩ := hi i rfl
    simp_all [parse, text, trimSlash_slash, Text.pieces_append_sep, Text.pieces_of_not_mem,
      String.toList_append]

theorem parse_lead_append {p : Path} (h : p.WellFormed) (s : String) :
    parse (lead s ++ p.text) = .ok p := by
  rcases lead_eq s with hl | hl <;> rw [hl]
  · rw [String.empty_append, parse_text h]
  · exact parse_slash_text h

def Spells (p : Path) (s : String) : Prop := p.WellFormed ∧ (s = p.text ∨ s = "/" ++ p.text)

theorem WellFormed.spells {p : Path} (h : p.WellFormed) {s : String} (hs : s = lead s ++ p.text) : p.Spells s := by
  refine ⟨h, ?_⟩
  rcases lead_eq s with hl | hl <;> rw [hl] at hs
  · exact .inl (hs.trans String.empty_append)
  · exact .inr hs

theorem parse_eq_ok_iff {s : String} {p : Path} : parse s = .ok p ↔ p.Spells s := by
  constructor
  · intro h
    obtain ⟨hp, hs⟩ := eq_lead_append_text h
    exact hp.spells hs
  · rintro ⟨hp, rfl | rfl⟩
    · exact parse_text hp
    · exact parse_slash_text hp

theorem Spells.unique {p q : Path} {s : String} (h : p.Spells s) (h' : q.Spells s) : p = q := by
  apply Except.ok.inj (ε := ProtocolError)
  rw [← parse_eq_ok_iff.2 h, ← parse_eq_ok_iff.2 h']

theorem wellFormed_pair {segment identifier : String} (hs : IsPart segment) (hi : IsPart identifier) :
    (⟨segment, some identifier⟩ : Path).WellFormed :=
  ⟨hs, fun _ h => Option.some.inj h ▸ hi⟩

theorem parse_pair {segment identifier : String} (hs : IsPart segment) (hi : IsPart identifier) :
    parse (segment ++ "/" ++ identifier) = .ok ⟨segment, some identifier⟩ :=
  parse_text (p := ⟨segment, some identifier⟩) (wellFormed_pair hs hi)

theorem parse_eq_error {s : String} {cause : ProtocolError} (h : parse s = .error cause) :
    cause = malformed s := by
  rw [parse] at h
  split at h
  · split at h <;> cases h
    rfl
  · split at h <;> cases h
    rfl
  · cases h
    rfl

theorem parse_eq_error_iff {s : String} : parse s = .error (malformed s) ↔ ∀ p : Path, ¬ p.Spells s := by
  constructor
  · intro h p hp
    rw [parse_eq_ok_iff.2 hp] at h
    cases h
  · intro h
    cases hparse : parse s with
    | ok p => exact absurd (parse_eq_ok_iff.1 hparse) (h p)
    | error cause => rw [parse_eq_error hparse]

/-! What is left of a path without the slash in front has at most one slash, and neither at its ends. -/

theorem trimSlash_append {cs : List Char} (h : cs ≠ []) (ds : List Char) :
    trimSlash (cs ++ ds) = trimSlash cs ++ ds := by
  cases cs with
  | nil => exact absurd rfl h
  | cons c cs =>
    by_cases hc : c = '/'
    · rw [hc, List.cons_append, trimSlash_slash, trimSlash_slash]
    · have hkeep (es : List Char) : trimSlash (c :: es) = c :: es := trimSlash_of_head?_ne (by simpa using hc)
      rw [List.cons_append, hkeep, hkeep, List.cons_append]

theorem Spells.trimSlash_eq {p : Path} {s : String} (h : p.Spells s) : trimSlash s.toList = p.text.toList := by
  have hs := congrArg String.toList (eq_lead_append_text (parse_eq_ok_iff.2 h)).2
  rw [String.toList_append, ← lead_toList_append_trimSlash] at hs
  exact List.append_cancel_left hs

theorem WellFormed.text_ne_nil {p : Path} (h : p.WellFormed) : p.text.toList ≠ [] := by
  obtain ⟨segment, identifier⟩ := p
  cases identifier with
  | none => simpa [text] using h.1.1
  | some i => simp [text]

theorem WellFormed.parts {p : Path} (h : p.WellFormed) {cs ds : List Char} (htext : p.text.toList = cs ++ '/' :: ds) :
    cs ≠ [] ∧ ds ≠ [] ∧ '/' ∉ ds := by
  obtain ⟨segment, identifier⟩ := p
  obtain ⟨⟨hsegment, hslash⟩, hidentifier⟩ := h
  cases identifier with
  | none => exact absurd (htext ▸ List.mem_append_right cs List.mem_cons_self) hslash
  | some i =>
    obtain ⟨hi, hislash⟩ := hidentifier i rfl
    have hsplit : segment.toList ++ '/' :: i.toList = cs ++ '/' :: ds := by
      simpa [text, String.toList_append] using htext
    obtain ⟨rfl, -, rfl⟩ := (List.append_cons_inj_of_notMem hslash hislash).1 hsplit
    exact ⟨by simpa using hsegment, by simpa using hi, hislash⟩

/-- Why a text is no path.  An identifier that is empty leaves a slash at the end.  A third part takes two slashes behind
something, since one in front does not count. -/
inductive Flawed : String → Prop
  | empty : Flawed ""
  | doubled (rest : String) : Flawed ("//" ++ rest)
  | trailing (front : String) : Flawed (front ++ "/")
  | third {first : String} (second rest : String) : first ≠ "" → Flawed (first ++ "/" ++ second ++ "/" ++ rest)

theorem Flawed.not_spells {s : String} (h : Flawed s) (p : Path) : ¬ p.Spells s := by
  intro hp
  have htrim := hp.trimSlash_eq
  cases h with
  | empty => exact hp.1.text_ne_nil htrim.symm
  | doubled rest =>
    have hslash : trimSlash ("//" ++ rest).toList = [] ++ '/' :: rest.toList := by
      rw [String.toList_append]
      rfl
    exact (hp.1.parts (htrim.symm.trans hslash)).1 rfl
  | trailing front =>
    by_cases hfront : front.toList = []
    · rw [String.toList_append, hfront] at htrim
      exact hp.1.text_ne_nil htrim.symm
    · rw [String.toList_append, trimSlash_append hfront] at htrim
      exact (hp.1.parts htrim.symm).2.1 rfl
  | @third first second rest hfirst =>
    have hslash : trimSlash (first ++ "/" ++ second ++ "/" ++ rest).toList =
        trimSlash first.toList ++ '/' :: (second.toList ++ '/' :: rest.toList) := by
      rw [← trimSlash_append (by simpa using hfirst)]
      simp [String.toList_append]
    exact (hp.1.parts (htrim.symm.trans hslash)).2.2 (List.mem_append_right _ List.mem_cons_self)

theorem flawed_of_lead {s : String} (h : s = lead s) : Flawed s := by
  rcases lead_eq s with hl | hl
  · rw [h, hl]
    exact .empty
  · rw [h, hl]
    exact .trailing ""

theorem flawed_of_doubled {s : String} {rest : List Char} (h : trimSlash s.toList = '/' :: rest) : Flawed s := by
  unfold trimSlash at h
  split at h
  case h_1 hs =>
    have hdoubled : s = "//" ++ .ofList rest := by
      apply String.toList_injective
      simp [hs, h, String.toList_append]
    rw [hdoubled]
    exact .doubled _
  case h_2 hs => exact absurd h (hs rest)

theorem ofList_slash (cs ds : List Char) : String.ofList (cs ++ '/' :: ds) = .ofList cs ++ "/" ++ .ofList ds := by
  rw [List.append_cons, String.ofList_append, String.ofList_append]

theorem spells_or_flawed (s : String) : (∃ p : Path, p.Spells s) ∨ Flawed s := by
  have hs : s = lead s ++ .ofList (trimSlash s.toList) := by
    apply String.toList_injective
    rw [String.toList_append, String.toList_ofList, lead_toList_append_trimSlash]
  by_cases hslash : '/' ∈ trimSlash s.toList
  · -- The first slash parts the text. What is wrong, if anything, is one of the two parts.
    obtain ⟨segment, identifier, htrim, hsegment⟩ := List.eq_append_cons_of_mem hslash
    rw [htrim, ofList_slash] at hs
    by_cases hempty : segment = []
    · rw [hempty] at htrim
      exact .inr (flawed_of_doubled htrim)
    by_cases hempty' : identifier = []
    · rw [hempty', String.ofList_nil, String.append_empty, ← String.append_assoc] at hs
      exact .inr (hs ▸ .trailing _)
    by_cases hslash' : '/' ∈ identifier
    · obtain ⟨second, rest, rfl⟩ := List.append_of_mem hslash'
      simp only [ofList_slash, ← String.append_assoc] at hs
      rw [hs]
      refine .inr (.third _ _ ?_)
      simp [hempty]
    · refine .inl ⟨⟨.ofList segment, some (.ofList identifier)⟩, WellFormed.spells (wellFormed_pair ?_ ?_) hs⟩
      · exact ⟨by simpa using hempty, by simpa using hsegment⟩
      · exact ⟨by simpa using hempty', by simpa using hslash'⟩
  · by_cases hempty : trimSlash s.toList = []
    · rw [hempty, String.ofList_nil, String.append_empty] at hs
      exact .inr (flawed_of_lead hs)
    · refine .inl ⟨⟨.ofList (trimSlash s.toList), none⟩, WellFormed.spells ⟨⟨?_, ?_⟩, by simp⟩ hs⟩
      · simpa using hempty
      · simpa using hslash

theorem flawed_iff {s : String} : Flawed s ↔ ∀ p : Path, ¬ p.Spells s := by
  constructor
  · exact Flawed.not_spells
  · intro h
    obtain ⟨p, hp⟩ | hflawed := spells_or_flawed s
    · exact absurd hp (h p)
    · exact hflawed

theorem parse_of_mem {segment identifier : String} (hs : IsPart segment) (h : '/' ∈ identifier.toList) :
    parse (segment ++ "/" ++ identifier) = .error (malformed (segment ++ "/" ++ identifier)) := by
  apply parse_eq_error_iff.2
  apply Flawed.not_spells
  obtain ⟨second, rest, hidentifier⟩ := List.append_of_mem h
  have hsplit : identifier = .ofList second ++ "/" ++ .ofList rest := by
    rw [← ofList_slash, ← hidentifier, String.ofList_toList]
  rw [hsplit, ← String.append_assoc, ← String.append_assoc]
  exact .third _ _ hs.1

theorem spells_single_iff {segment s : String} :
    (⟨segment, none⟩ : Path).Spells s ↔ IsPart segment ∧ (s = segment ∨ s = "/" ++ segment) := by
  simp [Spells, WellFormed, text]

theorem spells_pair_iff {segment identifier s : String} :
    (⟨segment, some identifier⟩ : Path).Spells s ↔ IsPart segment ∧ IsPart identifier ∧
      (s = segment ++ "/" ++ identifier ∨ s = "/" ++ segment ++ "/" ++ identifier) := by
  simp [Spells, WellFormed, text, and_assoc, String.append_assoc]

/-- What is read from a text, or that nothing is, and why. -/
structure ExactlySplit (s : String) : Prop where
  single : ∀ segment : String, parse s = .ok ⟨segment, none⟩ ↔
    IsPart segment ∧ (s = segment ∨ s = "/" ++ segment)
  pair : ∀ segment identifier : String, parse s = .ok ⟨segment, some identifier⟩ ↔
    IsPart segment ∧ IsPart identifier ∧
      (s = segment ++ "/" ++ identifier ∨ s = "/" ++ segment ++ "/" ++ identifier)
  refused : parse s = .error (.badRequest .invalidPath ("'" ++ s ++ "' is not a resource path")) ↔
    ∀ p : Path, ¬ p.Spells s
  flawed : Flawed s ↔ ∀ p : Path, ¬ p.Spells s
  unique : ∀ p q : Path, p.Spells s → q.Spells s → p = q

theorem parse_exactlySplit (s : String) : ExactlySplit s where
  single _ := parse_eq_ok_iff.trans spells_single_iff
  pair _ _ := parse_eq_ok_iff.trans spells_pair_iff
  refused := parse_eq_error_iff
  flawed := flawed_iff
  unique _ _ := Spells.unique

example : parse "/Users/a/" = .error (malformed "/Users/a/") := by decide

end Roster.Batch.Path
