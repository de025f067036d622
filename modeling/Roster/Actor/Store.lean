namespace Roster

structure Store (ι α : Type) where
  entries : List (ι × α) := []
  deriving DecidableEq, Repr

namespace Store

variable {ι α : Type} [DecidableEq ι]

instance : EmptyCollection (Store ι α) := ⟨{}⟩

def get? (s : Store ι α) (i : ι) : Option α := (s.entries.find? (·.1 = i)).map (·.2)

def put (i : ι) (a : α) : List (ι × α) → List (ι × α)
  | [] => [(i, a)]
  | e :: es => if e.1 = i then (i, a) :: es else e :: put i a es

def insert (s : Store ι α) (i : ι) (a : α) : Store ι α := ⟨put i a s.entries⟩

def erase (s : Store ι α) (i : ι) : Store ι α := ⟨s.entries.filter (·.1 ≠ i)⟩

def size (s : Store ι α) : Nat := s.entries.length

@[simp] theorem get?_empty (i : ι) : (∅ : Store ι α).get? i = none := rfl

@[simp] theorem get?_insert (s : Store ι α) (i j : ι) (a : α) :
    (s.insert i a).get? j = if j = i then some a else s.get? j := by
  simp only [get?, insert]
  induction s.entries with
  | nil => grind [put]
  | cons e es ih => grind [put]

@[simp] theorem get?_erase (s : Store ι α) (i j : ι) :
    (s.erase i).get? j = if j = i then none else s.get? j := by
  simp only [get?, erase]
  induction s.entries with
  | nil => simp
  | cons e es ih => grind

end Store

end Roster
