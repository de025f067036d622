import Roster.Text.Pieces

namespace Roster.Text

theorem not_mem_of_mem_pieces {sep : Char} {cs piece : List Char} (h : piece ∈ pieces sep cs) :
    sep ∉ piece := by
  induction cs generalizing piece with
  | nil => simp_all [pieces]
  | cons c cs ih =>
    by_cases hc : c = sep
    · rw [pieces, if_pos hc, List.mem_cons] at h
      rcases h with rfl | h
      · exact List.not_mem_nil
      · exact ih h
    · rw [pieces, if_neg hc] at h
      cases hp : pieces sep cs with
      | nil => exact absurd hp (pieces_ne_nil sep cs)
      | cons first rest =>
        rw [hp, List.modifyHead_cons, List.mem_cons] at h
        rcases h with rfl | h
        · rw [List.mem_cons, not_or]
          exact ⟨Ne.symm hc, ih (hp ▸ List.mem_cons_self)⟩
        · exact ih (hp ▸ List.mem_cons_of_mem _ h)

theorem intercalate_pieces (sep : Char) (cs : List Char) : [sep].intercalate (pieces sep cs) = cs := by
  induction cs with
  | nil => rfl
  | cons c cs ih =>
    cases hp : pieces sep cs with
    | nil => exact absurd hp (pieces_ne_nil sep cs)
    | cons first rest =>
      rw [hp] at ih
      by_cases hc : c = sep
      · rw [pieces, if_pos hc, hp, ← ih, hc]
        cases rest <;> simp [List.intercalate]
      · rw [pieces, if_neg hc, hp, List.modifyHead_cons, ← ih]
        cases rest <;> simp [List.intercalate]

theorem pieces_eq_singleton_iff {sep : Char} {cs piece : List Char} :
    pieces sep cs = [piece] ↔ sep ∉ piece ∧ cs = piece := by
  constructor
  · intro h
    have := intercalate_pieces sep cs
    exact ⟨not_mem_of_mem_pieces (h ▸ List.mem_cons_self), by simpa [h, List.intercalate] using this.symm⟩
  · rintro ⟨h, rfl⟩
    exact pieces_of_not_mem h

theorem pieces_eq_pair_iff {sep : Char} {cs first second : List Char} :
    pieces sep cs = [first, second] ↔ sep ∉ first ∧ sep ∉ second ∧ cs = first ++ sep :: second := by
  constructor
  · intro h
    have := intercalate_pieces sep cs
    have hmem (piece : List Char) (hp : piece ∈ [first, second]) : sep ∉ piece :=
      not_mem_of_mem_pieces (h ▸ hp)
    exact ⟨hmem _ (by simp), hmem _ (by simp), by simpa [h, List.intercalate] using this.symm⟩
  · rintro ⟨h, h', rfl⟩
    rw [pieces_append_sep h, pieces_of_not_mem h']

end Roster.Text
