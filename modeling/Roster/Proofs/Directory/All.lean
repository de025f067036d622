import Roster.Proofs.Directory.Step

namespace Roster.Directory

def All (P : (kind : ResourceType) → Uuid → kind.Entity → Prop) (d : Directory) : Prop :=
  ∀ kind id a, d.find? kind id = some a → P kind id a

variable {P : (kind : ResourceType) → Uuid → kind.Entity → Prop} {d d' : Directory} {kind : ResourceType}

theorem all_empty (customTypes : List String) : (empty customTypes).All P := by
  intro kind id a h
  simp at h

theorem All.drawn (h : d.All P) : d.drawn.All P := by
  intro kind id a ha
  rw [find?_drawn] at ha
  exact h kind id a ha

theorem All.insert (h : d.All P) {id : Uuid} {a : kind.Entity} (ha : P kind id a) :
    (d.insert kind id a).All P := by
  intro kind' id' b hb
  by_cases hsame : kind' = kind ∧ id' = id
  · obtain ⟨rfl, rfl⟩ := hsame
    rw [find?_insert_self] at hb
    exact Option.some.inj hb ▸ ha
  · rw [d.find?_insert_of_ne hsame] at hb
    exact h kind' id' b hb

theorem All.erase (h : d.All P) (id : Uuid) : (d.erase kind id).All P := by
  intro kind' id' b hb
  by_cases hsame : kind' = kind ∧ id' = id
  · obtain ⟨rfl, rfl⟩ := hsame
    simp at hb
  · rw [d.find?_erase_of_ne hsame] at hb
    exact h kind' id' b hb

variable {generate : Nat → Uuid}

theorem Step.all (hstep : Step generate d d') (h : d.All P)
    (hmake : ∀ {kind : ResourceType} {params : kind.Params} {a : kind.Entity},
      kind.make d.users (generate d.issued) params = .ok a → P kind (generate d.issued) a)
    (hrevise : ∀ {kind : ResourceType} {id : Uuid} {change : kind.Revision} {a b : kind.Entity},
      P kind id a → kind.revise d.users change a = .ok b → P kind id b) : d'.All P := by
  obtain ⟨n, hstep⟩ := hstep
  cases hstep with
  | stay => exact h
  | draw => exact h.drawn
  | create hcreate => exact (h.insert (hmake hcreate)).drawn
  | update hfind hupdate => exact h.insert (hrevise (h _ _ _ hfind) hupdate)
  | delete => exact h.erase _

end Roster.Directory
