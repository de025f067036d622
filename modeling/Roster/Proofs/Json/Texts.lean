import Mathlib.Data.List.Basic
import Roster.Json.Basic

namespace Roster.Json

@[elab_as_elim, induction_eliminator]
theorem induct {P : Json → Prop} (null : P .null) (bool : ∀ b, P (.bool b))
    (number : ∀ x, P (.number x)) (string : ∀ s, P (.string s))
    (array : ∀ items, (∀ v ∈ items, P v) → P (.array items))
    (object : ∀ members : List (String × Json), (∀ m ∈ members, P m.2) → P (.object members)) :
    ∀ v, P v
  | .null => null
  | .bool b => bool b
  | .number x => number x
  | .string s => string s
  | .array items => array items fun v _ => induct null bool number string array object v
  | .object members => object members fun m _ => induct null bool number string array object m.2
decreasing_by
  · have := List.sizeOf_lt_of_mem ‹_›
    simp only [Json.array.sizeOf_spec]
    omega
  · have := List.sizeOf_lt_of_mem ‹m ∈ members›
    have : sizeOf m = 1 + sizeOf m.1 + sizeOf m.2 := rfl
    simp only [Json.object.sizeOf_spec]
    omega

mutual
def texts : Json → List String
  | .string s => [s]
  | .array items => textsOfItems items
  | .object members => textsOfMembers members
  | .null | .bool _ | .number _ => []

def textsOfItems : List Json → List String
  | [] => []
  | v :: rest => texts v ++ textsOfItems rest

def textsOfMembers : List (String × Json) → List String
  | [] => []
  | (_, v) :: rest => texts v ++ textsOfMembers rest
end

mutual
def mapTexts (f : String → String) : Json → Json
  | .string s => .string (f s)
  | .array items => .array (mapTextsOfItems f items)
  | .object members => .object (mapTextsOfMembers f members)
  | .null => .null
  | .bool b => .bool b
  | .number x => .number x

def mapTextsOfItems (f : String → String) : List Json → List Json
  | [] => []
  | v :: rest => mapTexts f v :: mapTextsOfItems f rest

def mapTextsOfMembers (f : String → String) : List (String × Json) → List (String × Json)
  | [] => []
  | (k, v) :: rest => (k, mapTexts f v) :: mapTextsOfMembers f rest
end

@[simp] theorem textsOfItems_eq (items : List Json) : textsOfItems items = items.flatMap texts := by
  induction items with
  | nil => rfl
  | cons v rest ih => rw [textsOfItems, ih, List.flatMap_cons]

@[simp] theorem textsOfMembers_eq (members : List (String × Json)) :
    textsOfMembers members = members.flatMap fun m => texts m.2 := by
  induction members with
  | nil => rfl
  | cons m rest ih => rw [textsOfMembers, ih, List.flatMap_cons]

@[simp] theorem mapTextsOfItems_eq (f : String → String) (items : List Json) :
    mapTextsOfItems f items = items.map (mapTexts f) := by
  induction items with
  | nil => rfl
  | cons v rest ih => rw [mapTextsOfItems, ih, List.map_cons]

@[simp] theorem mapTextsOfMembers_eq (f : String → String) (members : List (String × Json)) :
    mapTextsOfMembers f members = members.map fun m => (m.1, mapTexts f m.2) := by
  induction members with
  | nil => rfl
  | cons m rest ih => rw [mapTextsOfMembers, ih, List.map_cons]

@[simp] theorem texts_mapTexts (f : String → String) (v : Json) :
    (v.mapTexts f).texts = v.texts.map f := by
  induction v with
  | null => rfl
  | bool b => rfl
  | number x => rfl
  | string s => rfl
  | array items ih =>
    simp only [mapTexts, texts, mapTextsOfItems_eq, textsOfItems_eq, List.flatMap_map, List.map_flatMap]
    exact List.flatMap_congr ih
  | object members ih =>
    simp only [mapTexts, texts, mapTextsOfMembers_eq, textsOfMembers_eq, List.flatMap_map,
      List.map_flatMap]
    exact List.flatMap_congr ih

theorem mapTexts_mapTexts (f g : String → String) (v : Json) :
    (v.mapTexts f).mapTexts g = v.mapTexts (g ∘ f) := by
  induction v with
  | null => rfl
  | bool b => rfl
  | number x => rfl
  | string s => rfl
  | array items ih =>
    simp only [mapTexts, mapTextsOfItems_eq, List.map_map]
    exact congrArg Json.array (List.map_congr_left ih)
  | object members ih =>
    simp only [mapTexts, mapTextsOfMembers_eq, List.map_map]
    exact congrArg Json.object (List.map_congr_left fun m hm => congrArg (Prod.mk m.1) (ih m hm))

theorem mapTexts_ne_null {f : String → String} {v : Json} (h : v ≠ .null) : v.mapTexts f ≠ .null := by
  cases v with
  | null => exact absurd rfl h
  | bool | number | string | array | object => simp [mapTexts]

theorem mapTexts_eq_self {f : String → String} {v : Json} (h : ∀ s ∈ v.texts, f s = s) : v.mapTexts f = v := by
  induction v with
  | null => rfl
  | bool b => rfl
  | number x => rfl
  | string s => rw [mapTexts, h s (List.mem_singleton.2 rfl)]
  | array items ih =>
    rw [texts, textsOfItems_eq] at h
    have hitems (v : Json) (hv : v ∈ items) : v.mapTexts f = v :=
      ih v hv fun s hs => h s (List.mem_flatMap.2 ⟨v, hv, hs⟩)
    rw [mapTexts, mapTextsOfItems_eq, List.map_congr_left hitems, List.map_id']
  | object members ih =>
    rw [texts, textsOfMembers_eq] at h
    have hmembers (m : String × Json) (hm : m ∈ members) : (m.1, m.2.mapTexts f) = m :=
      congrArg (Prod.mk m.1) (ih m hm fun s hs => h s (List.mem_flatMap.2 ⟨m, hm, hs⟩))
    rw [mapTexts, mapTextsOfMembers_eq, List.map_congr_left hmembers, List.map_id']

end Roster.Json
