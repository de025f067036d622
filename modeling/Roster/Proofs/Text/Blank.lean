import Roster.Text.Blank

namespace Roster.Text

inductive Trimmed : List Char → String → Prop
  | between {lead trail : List Char} {name : String} : (∀ c ∈ lead, isBlank c) → (∀ c ∈ trail, isBlank c) →
      (∀ c ∈ name.toList.head?, ¬ isBlank c) → (∀ c ∈ name.toList.getLast?, ¬ isBlank c) →
      Trimmed (lead ++ name.toList ++ trail) name

theorem not_isBlank_of_mem_head? {cs : List Char} {c : Char} (hc : c ∈ (cs.dropWhile isBlank).head?) :
    ¬ isBlank c := by
  have hhead := List.head?_dropWhile_not isBlank cs
  rw [Option.mem_def.1 hc] at hhead
  exact Bool.not_eq_true _ ▸ hhead

theorem isBlank_of_mem_takeWhile {cs : List Char} {c : Char} (hc : c ∈ cs.takeWhile isBlank) : isBlank c :=
  List.all_eq_true.1 List.all_takeWhile c hc

theorem trimmed_trim (cs : List Char) : Trimmed cs (trim (.ofList cs)) := by
  let rest := cs.dropWhile isBlank
  let name := (rest.reverse.dropWhile isBlank).reverse
  let trail := (rest.reverse.takeWhile isBlank).reverse
  have htrim : (trim (.ofList cs)).toList = name := by rw [trim, String.toList_ofList, String.toList_ofList]
  have hrest : name ++ trail = rest := by
    rw [← List.reverse_append, List.takeWhile_append_dropWhile, List.reverse_reverse]
  have hcs : cs.takeWhile isBlank ++ name ++ trail = cs := by
    rw [List.append_assoc, hrest, List.takeWhile_append_dropWhile]
  -- The name begins where the rest does, unless it is empty.
  have hfirst : ∀ c ∈ name.head?, ¬ isBlank c := by
    intro c hc
    have hc : c ∈ rest.head? := by rw [← hrest, List.head?_append, Option.mem_def.1 hc]; rfl
    exact not_isBlank_of_mem_head? hc
  have hlast : ∀ c ∈ name.getLast?, ¬ isBlank c := by
    intro c hc
    rw [List.getLast?_reverse] at hc
    exact not_isBlank_of_mem_head? hc
  have htrimmed : Trimmed (cs.takeWhile isBlank ++ (trim (.ofList cs)).toList ++ trail) (trim (.ofList cs)) :=
    .between (fun _ => isBlank_of_mem_takeWhile) (fun c hc => isBlank_of_mem_takeWhile (List.mem_reverse.1 hc))
      (htrim ▸ hfirst) (htrim ▸ hlast)
  rwa [htrim, hcs] at htrimmed

end Roster.Text
