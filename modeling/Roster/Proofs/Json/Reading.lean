import Roster.Json.Reader

namespace Roster.Json.Reader

variable {x : Reader α} {f : α → Reader β} {input rest : List UInt8} {a : α} {b : β}

theorem bind_of_ok (h : x input = .ok (a, rest)) : (x >>= f) input = f a rest := by
  simp only [bind, StateT.bind, h, Except.bind]

theorem bind_eq_ok :
    (x >>= f) input = .ok (b, rest) ↔ ∃ a mid, x input = .ok (a, mid) ∧ f a mid = .ok (b, rest) := by
  simp only [bind, StateT.bind]
  rcases x input with stop | ⟨a, mid⟩
  · exact ⟨nofun, fun ⟨_, _, h, _⟩ => nomatch h⟩
  · refine ⟨fun h => ⟨a, mid, rfl, h⟩, ?_⟩
    rintro ⟨_, _, h, h'⟩
    cases h
    exact h'

theorem pure_eq_ok {b' : α} : (pure a : Reader α) input = .ok (b', rest) ↔ b' = a ∧ rest = input := by
  change (Except.ok (a, input) : Except Stop (α × List UInt8)) = .ok (b', rest) ↔ _
  rw [Except.ok.injEq, Prod.mk.injEq, @eq_comm _ a, @eq_comm _ input]

theorem map_of_ok {f : α → β} (h : x input = .ok (a, rest)) : (f <$> x) input = .ok (f a, rest) := by
  simp only [Functor.map, StateT.map, h, bind, Except.bind]
  rfl

theorem map_eq_ok {f : α → β} :
    (f <$> x) input = .ok (b, rest) ↔ ∃ a, x input = .ok (a, rest) ∧ f a = b := by
  change (x >>= fun a => pure (f a)) input = _ ↔ _
  rw [bind_eq_ok]
  constructor
  · rintro ⟨a, mid, h, hpure⟩
    obtain ⟨rfl, rfl⟩ := pure_eq_ok.1 hpure
    exact ⟨a, h, rfl⟩
  · rintro ⟨a, h, rfl⟩
    exact ⟨a, rest, h, rfl⟩

theorem next_cons {b : UInt8} (h : isSpace b = false) (rest : List UInt8) :
    next (b :: rest) = .ok (some b, b :: rest) := by
  simp [next, h]

def Ends (rest : List UInt8) : Prop := ∀ b ∈ rest.head?, b = 0x2C ∨ b = 0x5D ∨ b = 0x7D

theorem ends_nil : Ends [] := nofun

theorem ends_cons {b : UInt8} (h : b = 0x2C ∨ b = 0x5D ∨ b = 0x7D) (rest : List UInt8) : Ends (b :: rest) := by
  rintro c ⟨⟩
  exact h

end Roster.Json.Reader
