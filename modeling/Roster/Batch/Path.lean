import Roster.ProtocolError
import Roster.Text.Pieces

namespace Roster.Batch

structure Path where
  segment : String
  identifier : Option String
  deriving DecidableEq, Repr

namespace Path

def text (p : Path) : String :=
  match p.identifier with
  | none => p.segment
  | some identifier => p.segment ++ "/" ++ identifier

def IsPart (s : String) : Prop := s ≠ "" ∧ '/' ∉ s.toList

def WellFormed (p : Path) : Prop := IsPart p.segment ∧ ∀ i ∈ p.identifier, IsPart i

def trimSlash : List Char → List Char
  | '/' :: cs => cs
  | cs => cs

def malformed (s : String) : ProtocolError :=
  .invalidPath ("'" ++ s ++ "' is not a resource path")

def parse (s : String) : Except ProtocolError Path :=
  match Text.pieces '/' (trimSlash s.toList) with
  | [segment] => if segment = [] then .error (malformed s) else .ok ⟨.ofList segment, none⟩
  | [segment, identifier] =>
    if segment = [] ∨ identifier = [] then .error (malformed s)
    else .ok ⟨.ofList segment, some (.ofList identifier)⟩
  | _ => .error (malformed s)

theorem trimSlash_of_not_mem {cs : List Char} (h : '/' ∉ cs) (hne : cs ≠ []) (rest : List Char) :
    trimSlash (cs ++ rest) = cs ++ rest := by
  cases cs with
  | nil => exact absurd rfl hne
  | cons c cs =>
    simp only [List.mem_cons, not_or] at h
    unfold trimSlash
    split
    · rename_i heq
      simp only [List.cons_append, List.cons.injEq] at heq
      exact absurd heq.1.symm h.1
    · rfl

theorem parse_text {p : Path} (h : p.WellFormed) : parse p.text = .ok p := by
  obtain ⟨segment, identifier⟩ := p
  obtain ⟨⟨hs, hs'⟩, hi⟩ := h
  have hne : segment.toList ≠ [] := by simpa using hs
  cases identifier with
  | none =>
    have := trimSlash_of_not_mem hs' hne []
    simp_all [parse, text, Text.pieces_of_not_mem]
  | some i =>
    obtain ⟨hi, hi'⟩ := hi i rfl
    have := trimSlash_of_not_mem hs' hne ('/' :: i.toList)
    simp_all [parse, text, Text.pieces_append_sep, Text.pieces_of_not_mem, String.toList_append]

end Path

end Roster.Batch
