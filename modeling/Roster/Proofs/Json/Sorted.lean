import Roster.Json.Basic

namespace Roster.Json

def Ascending (members : List (String × α)) : Prop := members.Pairwise fun m n => m.1 < n.1

inductive Sorted : Json → Prop
  | null : Sorted .null
  | bool (b : Bool) : Sorted (.bool b)
  | number (x : Number) : Sorted (.number x)
  | string (s : String) : Sorted (.string s)
  | array {items : List Json} : (∀ v ∈ items, Sorted v) → Sorted (.array items)
  | object {members : List (String × Json)} :
    Ascending members → (∀ m ∈ members, Sorted m.2) → Sorted (.object members)

theorem mem_insert {key : String} {value : α} {members : List (String × α)} {entry : String × α}
    (h : entry ∈ insert key value members) : entry = (key, value) ∨ entry ∈ members := by
  induction members with
  | nil => exact .inl (List.mem_singleton.1 h)
  | cons member rest ih =>
    obtain ⟨k, v⟩ := member
    rw [insert] at h
    split at h
    · exact List.mem_cons.1 h
    · split at h
      · exact (List.mem_cons.1 h).imp_right (List.mem_cons_of_mem _)
      · rcases List.mem_cons.1 h with rfl | h
        · exact .inr List.mem_cons_self
        · exact (ih h).imp_right (List.mem_cons_of_mem _)

theorem Ascending.insert {members : List (String × α)} (h : Ascending members) (key : String) (value : α) :
    Ascending (insert key value members) := by
  induction h with
  | nil => exact List.pairwise_singleton _ _
  | @cons first rest hfirst hrest ih =>
    rw [Json.insert]
    split
    · rename_i hlt
      refine .cons ?_ (.cons hfirst hrest)
      rintro m (_ | ⟨_, hm⟩)
      · exact hlt
      · exact String.lt_trans hlt (hfirst m hm)
    · rename_i hle
      split
      · rename_i heq
        exact .cons (heq ▸ hfirst) hrest
      · rename_i hne
        refine .cons (fun m hm => ?_) ih
        rcases mem_insert hm with rfl | hm
        · exact Decidable.byContradiction fun hge =>
            hne (String.le_antisymm (String.not_lt.1 hge) (String.not_lt.1 hle))
        · exact hfirst m hm

theorem insert_of_forall_lt {members : List (String × α)} {key : String} (value : α)
    (h : ∀ m ∈ members, m.1 < key) : insert key value members = members ++ [(key, value)] := by
  induction members with
  | nil => rfl
  | cons first rest ih =>
    have hlt := h first List.mem_cons_self
    have hne : key ≠ first.1 := fun heq => String.lt_irrefl key (heq ▸ hlt)
    rw [insert, if_neg (String.lt_asymm hlt), if_neg hne,
      ih fun m hm => h m (List.mem_cons_of_mem _ hm)]
    rfl

end Roster.Json
