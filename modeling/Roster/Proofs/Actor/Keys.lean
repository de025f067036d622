import Mathlib.Data.List.Nodup
import Roster.Actor.Store

namespace Roster.Store

variable {ι α : Type}

def keys (s : Store ι α) : List ι := s.entries.map Prod.fst

@[simp] theorem length_keys (s : Store ι α) : s.keys.length = s.size := List.length_map _

variable [DecidableEq ι]

theorem mem_keys_iff {s : Store ι α} {i : ι} : i ∈ s.keys ↔ (s.get? i).isSome := by
  simp [keys, get?, List.find?_isSome]

theorem get?_eq_none_iff {s : Store ι α} {i : ι} : s.get? i = none ↔ i ∉ s.keys := by
  rw [mem_keys_iff, Option.not_isSome_iff_eq_none]

theorem keys_put (i : ι) (a : α) (entries : List (ι × α)) :
    (put i a entries).map Prod.fst =
      if i ∈ entries.map Prod.fst then entries.map Prod.fst else entries.map Prod.fst ++ [i] := by
  induction entries with
  | nil => rfl
  | cons e es ih =>
    rw [put]
    by_cases he : e.1 = i
    · simp [he]
    · simp only [he, if_false, List.map_cons, ih, List.mem_cons, Ne.symm he, false_or]
      split <;> rfl

theorem keys_insert_of_mem {s : Store ι α} {i : ι} (h : i ∈ s.keys) (a : α) : (s.insert i a).keys = s.keys :=
  (keys_put i a s.entries).trans (if_pos h)

theorem keys_insert_of_not_mem {s : Store ι α} {i : ι} (h : i ∉ s.keys) (a : α) :
    (s.insert i a).keys = s.keys ++ [i] :=
  (keys_put i a s.entries).trans (if_neg h)

theorem keys_erase {s : Store ι α} (h : s.keys.Nodup) (i : ι) : (s.erase i).keys = s.keys.erase i := by
  rw [h.erase_eq_filter, keys, keys, erase, List.filter_map]
  apply congrArg (List.map Prod.fst)
  apply List.filter_congr
  intro e _
  simp [bne, beq_eq_decide]

end Roster.Store
