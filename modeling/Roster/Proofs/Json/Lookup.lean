import Roster.Proofs.Json.Sorted

namespace Roster.Json

variable {α : Type} {members members' : List (String × α)} {key : String}

@[simp] theorem get?_cons (key k : String) (v : α) (rest : List (String × α)) :
    get? key ((k, v) :: rest) = if key = k then some v else get? key rest := by
  rw [get?, List.lookup_cons]
  by_cases h : key = k
  · rw [if_pos h, beq_iff_eq.2 h]
  · rw [if_neg h, beq_false_of_ne h]
    rfl

theorem get?_eq_none_iff : get? key members = none ↔ ∀ member ∈ members, member.1 ≠ key := by
  rw [get?, List.lookup_eq_none_iff]
  exact forall₂_congr fun _ _ => bne_iff_ne.trans ne_comm

theorem eq_nil_iff : members = [] ↔ ∀ key, get? key members = none := by
  constructor
  · rintro rfl key
    rfl
  · intro h
    cases members with
    | nil => rfl
    | cons member rest => exact absurd rfl (get?_eq_none_iff.1 (h member.1) member List.mem_cons_self)

theorem get?_insert (key key' : String) (value : α) (members : List (String × α)) :
    get? key' (insert key value members) = if key' = key then some value else get? key' members := by
  induction members with
  | nil => rw [insert, get?_cons]
  | cons member rest ih =>
    obtain ⟨k, v⟩ := member
    rw [insert]
    split
    · rw [get?_cons]
    · split
      · rename_i heq
        rw [get?_cons, get?_cons, heq]
        split <;> rfl
      · rename_i hne
        rw [get?_cons, get?_cons, ih]
        by_cases h : key' = k
        · rw [if_pos h, if_neg fun heq => hne (heq.symm.trans h), if_pos h]
        · rw [if_neg h, if_neg h]

theorem get?_erase (key key' : String) (members : List (String × α)) :
    get? key' (erase key members) = if key' = key then none else get? key' members := by
  induction members with
  | nil => exact (ite_self none).symm
  | cons member rest ih =>
    obtain ⟨k, v⟩ := member
    rw [erase] at ih ⊢
    by_cases hk : k = key
    · rw [List.filter_cons_of_neg (by simp [hk]), ih, get?_cons, hk]
      split <;> rfl
    · rw [List.filter_cons_of_pos (by simp [hk]), get?_cons, get?_cons, ih]
      by_cases h : key' = k
      · rw [if_pos h, if_neg fun heq => hk (h.symm.trans heq), if_pos h]
      · rw [if_neg h, if_neg h]

theorem Ascending.erase (h : Ascending members) (key : String) : Ascending (Json.erase key members) :=
  List.Pairwise.filter _ h

theorem Ascending.get?_of_lt {first : String × α} (h : Ascending (first :: members)) (hlt : key < first.1) :
    get? key (first :: members) = none := by
  refine get?_eq_none_iff.2 fun member hmember heq => String.lt_irrefl key ?_
  rcases List.mem_cons.1 hmember with rfl | hmember
  · exact heq ▸ hlt
  · exact String.lt_trans hlt (heq ▸ (List.pairwise_cons.1 h).1 member hmember)

theorem Ascending.ext (h : Ascending members) (h' : Ascending members')
    (hget : ∀ key, get? key members = get? key members') : members = members' := by
  induction members generalizing members' with
  | nil => exact (eq_nil_iff.2 fun key => (hget key).symm).symm
  | cons first rest ih =>
    cases members' with
    | nil => exact eq_nil_iff.2 hget
    | cons first' rest' =>
      obtain ⟨k, v⟩ := first
      obtain ⟨k', v'⟩ := first'
      obtain rfl : k = k' := by
        refine String.le_antisymm (fun hlt => ?_) (fun hlt => ?_)
        · have hnone := hget k'
          rw [h.get?_of_lt hlt, get?_cons, if_pos rfl] at hnone
          cases hnone
        · have hnone := hget k
          rw [h'.get?_of_lt hlt, get?_cons, if_pos rfl] at hnone
          cases hnone
      have hvalue := hget k
      rw [get?_cons, get?_cons, if_pos rfl, if_pos rfl] at hvalue
      obtain ⟨hfirst, hrest⟩ := List.pairwise_cons.1 h
      obtain ⟨hfirst', hrest'⟩ := List.pairwise_cons.1 h'
      -- Neither tail has the first key once more.
      have htail : ∀ key, get? key rest = get? key rest' := by
        intro key
        by_cases hkey : key = k
        · subst hkey
          rw [get?_eq_none_iff.2 fun member hmember => (String.ne_of_lt (hfirst member hmember)).symm,
            get?_eq_none_iff.2 fun member hmember => (String.ne_of_lt (hfirst' member hmember)).symm]
        · have := hget key
          rwa [get?_cons, get?_cons, if_neg hkey, if_neg hkey] at this
      rw [Option.some.inj hvalue, ih hrest hrest' htail]

end Roster.Json
