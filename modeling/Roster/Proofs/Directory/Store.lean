import Roster.Proofs.Resource.Kind

namespace Roster

namespace Store

variable {ι α : Type} [DecidableEq ι]

theorem insert_of_get? {s : Store ι α} {i : ι} {a : α} (h : s.get? i = some a) : s.insert i a = s := by
  obtain ⟨entries⟩ := s
  rw [insert, mk.injEq]
  simp only [get?, Option.map_eq_some_iff] at h
  obtain ⟨⟨j, b⟩, hfind, rfl⟩ := h
  induction entries with
  | nil => simp at hfind
  | cons e es ih =>
    rw [List.find?_cons] at hfind
    rw [put]
    by_cases he : e.1 = i
    · rw [if_pos he]
      simp only [he, decide_true, Option.some.injEq] at hfind
      rw [hfind, ← he, hfind]
    · rw [if_neg he]
      simp only [he, decide_false] at hfind
      rw [ih hfind]

theorem get?_of_keys (keys : List ι) (a : α) (i : ι) :
    (⟨keys.map (·, a)⟩ : Store ι α).get? i = if i ∈ keys then some a else none := by
  induction keys with
  | nil => rfl
  | cons k rest ih =>
    simp only [get?, List.map_cons, List.find?_cons, List.mem_cons] at ih ⊢
    by_cases hk : k = i
    · simp [hk]
    · simpa [hk, Ne.symm hk] using ih

end Store

namespace Directory

def store (d : Directory) : (kind : ResourceType) → Store Uuid kind.Entity
  | .user => d.users
  | .group => d.groups
  | .serviceCredential => d.credentials
  | .custom name => (d.customs.get? name).getD ∅

def withStore (d : Directory) : (kind : ResourceType) → Store Uuid kind.Entity → Directory
  | .user, s => { d with users := s }
  | .group, s => { d with groups := s }
  | .serviceCredential, s => { d with credentials := s }
  | .custom name, s => { d with customs := d.customs.insert name s }

def Has (d : Directory) : ResourceType → Prop
  | .user | .group | .serviceCredential => True
  | .custom name => (d.customs.get? name).isSome

def drawn (d : Directory) : Directory := { d with issued := d.issued + 1 }

variable (d : Directory)

@[simp] theorem store_withStore (kind : ResourceType) (s : Store Uuid kind.Entity) :
    (d.withStore kind s).store kind = s := by
  cases kind with
  | user => rfl
  | group => rfl
  | serviceCredential => rfl
  | custom name => simp [store, withStore]

theorem store_withStore_of_ne {kind kind' : ResourceType} (h : kind' ≠ kind)
    (s : Store Uuid kind.Entity) : (d.withStore kind s).store kind' = d.store kind' := by
  cases kind <;> cases kind' <;> simp_all [store, withStore]

@[simp] theorem withStore_store {kind : ResourceType} (h : d.Has kind) :
    d.withStore kind (d.store kind) = d := by
  cases kind with
  | user => rfl
  | group => rfl
  | serviceCredential => rfl
  | custom name =>
    obtain ⟨s, hs⟩ := Option.isSome_iff_exists.1 h
    simp only [withStore, store, hs, Option.getD_some, Store.insert_of_get? hs]

@[simp] theorem issued_withStore (kind : ResourceType) (s : Store Uuid kind.Entity) :
    (d.withStore kind s).issued = d.issued := by
  cases kind <;> rfl

@[simp] theorem store_drawn (kind : ResourceType) : d.drawn.store kind = d.store kind := by
  cases kind <;> rfl

@[simp] theorem issued_drawn : d.drawn.issued = d.issued + 1 := rfl

theorem has_withStore (kind kind' : ResourceType) (s : Store Uuid kind.Entity) :
    d.Has kind' → (d.withStore kind s).Has kind' := by
  intro h
  cases kind <;> cases kind' <;> simp_all [Has, withStore]
  split
  · rfl
  · exact h

@[simp] theorem has_drawn (kind : ResourceType) : d.drawn.Has kind ↔ d.Has kind := by
  cases kind <;> rfl

def find? (kind : ResourceType) (id : Uuid) : Option kind.Entity := (d.store kind).get? id

def insert (kind : ResourceType) (id : Uuid) (a : kind.Entity) : Directory :=
  d.withStore kind ((d.store kind).insert id a)

def erase (kind : ResourceType) (id : Uuid) : Directory :=
  d.withStore kind ((d.store kind).erase id)

theorem drawn_insert (kind : ResourceType) (id : Uuid) (a : kind.Entity) :
    (d.insert kind id a).drawn = d.drawn.insert kind id a := by
  cases kind <;> rfl

@[simp] theorem find?_drawn (kind : ResourceType) (id : Uuid) : d.drawn.find? kind id = d.find? kind id := by
  rw [find?, find?, store_drawn]

@[simp] theorem find?_insert_self (kind : ResourceType) (id : Uuid) (a : kind.Entity) :
    (d.insert kind id a).find? kind id = some a := by
  simp [find?, insert]

@[simp] theorem find?_erase_self (kind : ResourceType) (id : Uuid) :
    (d.erase kind id).find? kind id = none := by
  simp [find?, erase]

theorem find?_insert_of_ne {kind kind' : ResourceType} {id id' : Uuid}
    (h : ¬ (kind' = kind ∧ id' = id)) (a : kind.Entity) :
    (d.insert kind id a).find? kind' id' = d.find? kind' id' := by
  by_cases hk : kind' = kind
  · subst hk
    have hid : id' ≠ id := fun hid => h ⟨rfl, hid⟩
    simp [find?, insert, hid]
  · rw [find?, insert, store_withStore_of_ne d hk, find?]

theorem find?_erase_of_ne {kind kind' : ResourceType} {id id' : Uuid}
    (h : ¬ (kind' = kind ∧ id' = id)) : (d.erase kind id).find? kind' id' = d.find? kind' id' := by
  by_cases hk : kind' = kind
  · subst hk
    have hid : id' ≠ id := fun hid => h ⟨rfl, hid⟩
    simp [find?, erase, hid]
  · rw [find?, erase, store_withStore_of_ne d hk, find?]

theorem has_of_find? {kind : ResourceType} {id : Uuid} {a : kind.Entity} (h : d.find? kind id = some a) :
    d.Has kind := by
  cases kind with
  | user | group | serviceCredential => trivial
  | custom name =>
    cases hstore : d.customs.get? name with
    | none => simp [find?, store, hstore] at h
    | some s => simp [Has, hstore]

theorem insert_of_find? {kind : ResourceType} {id : Uuid} {a : kind.Entity} (h : d.find? kind id = some a) :
    d.insert kind id a = d := by
  rw [insert, Store.insert_of_get? h, d.withStore_store (d.has_of_find? h)]

theorem isSome_find?_insert {kind kind' : ResourceType} {id id' : Uuid} (a : kind.Entity) :
    ((d.insert kind id a).find? kind' id').isSome ↔
      kind' = kind ∧ id' = id ∨ (d.find? kind' id').isSome := by
  by_cases hsame : kind' = kind ∧ id' = id
  · obtain ⟨rfl, rfl⟩ := hsame
    simp
  · rw [d.find?_insert_of_ne hsame, or_iff_right hsame]

theorem isSome_find?_erase {kind kind' : ResourceType} {id id' : Uuid} :
    ((d.erase kind id).find? kind' id').isSome ↔
      ¬ (kind' = kind ∧ id' = id) ∧ (d.find? kind' id').isSome := by
  by_cases hsame : kind' = kind ∧ id' = id
  · obtain ⟨rfl, rfl⟩ := hsame
    simp
  · rw [d.find?_erase_of_ne hsame, and_iff_right hsame]

@[simp] theorem find?_empty (customTypes : List String) (kind : ResourceType) (id : Uuid) :
    (empty customTypes).find? kind id = none := by
  cases kind with
  | user => rfl
  | group => rfl
  | serviceCredential => rfl
  | custom name =>
    simp only [find?, store, empty, Store.get?_of_keys]
    split <;> rfl

theorem has_empty {customTypes : List String} {kind : ResourceType}
    (h : ∀ name, kind = .custom name → name ∈ customTypes) : (empty customTypes).Has kind := by
  cases kind with
  | user => trivial
  | group => trivial
  | serviceCredential => trivial
  | custom name => simp [Has, empty, Store.get?_of_keys, h name rfl]

@[simp] theorem issued_insert (kind : ResourceType) (id : Uuid) (a : kind.Entity) :
    (d.insert kind id a).issued = d.issued :=
  d.issued_withStore kind _

@[simp] theorem issued_erase (kind : ResourceType) (id : Uuid) : (d.erase kind id).issued = d.issued :=
  d.issued_withStore kind _

end Directory

end Roster
