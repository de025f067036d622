import Roster.Proofs.Json.Sorted
import Roster.Proofs.Json.Texts

namespace Roster.Json

inductive Step
  | item (index : Nat)
  | member (key : String)
  deriving DecidableEq, Repr

abbrev Place := List Step

inductive Step.Before : Step → Step → Prop
  | item {i j : Nat} : i < j → Before (.item i) (.item j)
  | member {k l : String} : k < l → Before (.member k) (.member l)

def Place.Before : Place → Place → Prop := List.Lex Step.Before

abbrev Leaf := Place × String

def Leaf.under (step : Step) (l : Leaf) : Leaf := (step :: l.1, l.2)

mutual
def leaves : Json → List Leaf
  | .string s => [([], s)]
  | .array items => leavesOfItems 0 items
  | .object members => leavesOfMembers members
  | .null | .bool _ | .number _ => []

def leavesOfItems (n : Nat) : List Json → List Leaf
  | [] => []
  | v :: rest => (leaves v).map (Leaf.under (.item n)) ++ leavesOfItems (n + 1) rest

def leavesOfMembers : List (String × Json) → List Leaf
  | [] => []
  | (k, v) :: rest => (leaves v).map (Leaf.under (.member k)) ++ leavesOfMembers rest
end

def frame (v : Json) : Json := v.mapTexts fun _ => ""

theorem frame_array (items : List Json) : frame (.array items) = .array (items.map frame) := by
  rw [frame, mapTexts, mapTextsOfItems_eq]
  rfl

theorem frame_object (members : List (String × Json)) :
    frame (.object members) = .object (members.map fun m => (m.1, m.2.frame)) := by
  rw [frame, mapTexts, mapTextsOfMembers_eq]
  rfl

theorem leavesOfItems_texts {items : List Json} (h : ∀ v ∈ items, v.leaves.map Prod.snd = v.texts) (n : Nat) :
    (leavesOfItems n items).map Prod.snd = items.flatMap texts := by
  induction items generalizing n with
  | nil => rfl
  | cons v rest ih =>
    rw [leavesOfItems, List.map_append, List.map_map, List.flatMap_cons, ← h v List.mem_cons_self,
      ih fun w hw => h w (List.mem_cons_of_mem _ hw)]
    rfl

theorem leavesOfMembers_texts {members : List (String × Json)}
    (h : ∀ m ∈ members, m.2.leaves.map Prod.snd = m.2.texts) :
    (leavesOfMembers members).map Prod.snd = members.flatMap fun m => m.2.texts := by
  induction members with
  | nil => rfl
  | cons m rest ih =>
    rw [leavesOfMembers, List.map_append, List.map_map, List.flatMap_cons, ← h m List.mem_cons_self,
      ih fun w hw => h w (List.mem_cons_of_mem _ hw)]
    rfl

@[simp] theorem map_snd_leaves (v : Json) : v.leaves.map Prod.snd = v.texts := by
  induction v with
  | null => rfl
  | bool b => rfl
  | number x => rfl
  | string s => rfl
  | array items ih => rw [leaves, texts, textsOfItems_eq, leavesOfItems_texts ih]
  | object members ih => rw [leaves, texts, textsOfMembers_eq, leavesOfMembers_texts ih]

theorem mem_texts_iff {v : Json} {s : String} : s ∈ v.texts ↔ ∃ p, (p, s) ∈ v.leaves := by
  simp [← map_snd_leaves]

theorem ascending_under {ls : List Leaf} (step : Step) (h : ls.Pairwise fun l m => Place.Before l.1 m.1) :
    (ls.map (Leaf.under step)).Pairwise fun l m => Place.Before l.1 m.1 :=
  List.pairwise_map.2 (h.imp fun hlm => .cons hlm)

theorem mem_leavesOfItems {n : Nat} {items : List Json} {l : Leaf} (h : l ∈ leavesOfItems n items) :
    ∃ i p, n ≤ i ∧ l.1 = .item i :: p := by
  induction items generalizing n with
  | nil => simp [leavesOfItems] at h
  | cons v rest ih =>
    rw [leavesOfItems, List.mem_append] at h
    rcases h with h | h
    · obtain ⟨m, -, rfl⟩ := List.mem_map.1 h
      exact ⟨n, m.1, Nat.le_refl n, rfl⟩
    · obtain ⟨i, p, hi, hp⟩ := ih h
      exact ⟨i, p, Nat.le_of_succ_le hi, hp⟩

theorem mem_leavesOfMembers {members : List (String × Json)} {l : Leaf} (h : l ∈ leavesOfMembers members) :
    ∃ m ∈ members, ∃ p, l.1 = .member m.1 :: p := by
  induction members with
  | nil => simp [leavesOfMembers] at h
  | cons m rest ih =>
    rw [leavesOfMembers, List.mem_append] at h
    rcases h with h | h
    · obtain ⟨l', -, rfl⟩ := List.mem_map.1 h
      exact ⟨m, List.mem_cons_self, l'.1, rfl⟩
    · obtain ⟨m', hm', hp⟩ := ih h
      exact ⟨m', List.mem_cons_of_mem _ hm', hp⟩

theorem leavesOfItems_ascending {items : List Json}
    (h : ∀ v ∈ items, v.leaves.Pairwise fun l m => Place.Before l.1 m.1) (n : Nat) :
    (leavesOfItems n items).Pairwise fun l m => Place.Before l.1 m.1 := by
  induction items generalizing n with
  | nil => exact .nil
  | cons v rest ih =>
    rw [leavesOfItems, List.pairwise_append]
    refine ⟨ascending_under _ (h v List.mem_cons_self), ih (fun w hw => h w (List.mem_cons_of_mem _ hw)) _, ?_⟩
    intro l hl m hm
    obtain ⟨l', -, rfl⟩ := List.mem_map.1 hl
    obtain ⟨i, p, hi, hp⟩ := mem_leavesOfItems hm
    rw [hp]
    exact .rel (.item hi)

theorem leavesOfMembers_ascending {members : List (String × Json)} (hkeys : Ascending members)
    (h : ∀ m ∈ members, m.2.leaves.Pairwise fun l m => Place.Before l.1 m.1) :
    (leavesOfMembers members).Pairwise fun l m => Place.Before l.1 m.1 := by
  induction hkeys with
  | nil => exact .nil
  | cons hfirst _ ih =>
    rw [leavesOfMembers, List.pairwise_append]
    refine ⟨ascending_under _ (h _ List.mem_cons_self), ih fun w hw => h w (List.mem_cons_of_mem _ hw), ?_⟩
    intro l hl m hm
    obtain ⟨l', -, rfl⟩ := List.mem_map.1 hl
    obtain ⟨m', hm', p, hp⟩ := mem_leavesOfMembers hm
    rw [hp]
    exact .rel (.member (hfirst m' hm'))

theorem Sorted.leaves_ascending {v : Json} (h : v.Sorted) :
    v.leaves.Pairwise fun l m => Place.Before l.1 m.1 := by
  induction h with
  | null => exact .nil
  | bool b => exact .nil
  | number x => exact .nil
  | string s => exact List.pairwise_singleton _ _
  | array _ ih => exact leavesOfItems_ascending ih 0
  | object hkeys _ ih => exact leavesOfMembers_ascending hkeys ih

end Roster.Json
