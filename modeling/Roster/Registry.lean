import Roster.Handler
import Roster.Text.Literal

namespace Roster

inductive ResourceType
  | user
  | group
  | serviceCredential
  | custom (name : String)
  deriving DecidableEq, Repr

namespace ResourceType

def name : ResourceType → String
  | .user => "User"
  | .group => "Group"
  | .serviceCredential => "ServiceCredential"
  | .custom name => name

def describe : ResourceType → String
  | .custom name => "Custom(" ++ Text.literal name ++ ")"
  | kind => kind.name

end ResourceType

structure Registry.Entry (σ : Type) where
  kind : ResourceType
  handler : Handler σ

def Registry.Entry.describe (e : Registry.Entry σ) : String :=
  "RegistryEntry \x7b resource_type: " ++ e.kind.describe ++ ", .. \x7d"

structure Registry (σ : Type) where
  entries : List (String × Registry.Entry σ) := []

inductive RegistryError
  | duplicateSegment (segment : String)
  | invalidSegment (segment : String)
  deriving DecidableEq, Repr

def RegistryError.message : RegistryError → String
  | .duplicateSegment segment => "path segment '" ++ segment ++ "' is already registered"
  | .invalidSegment segment =>
    "path segment must be non-empty and must not contain '/': '" ++ segment ++ "'"

namespace Registry

variable {σ : Type} (r : Registry σ)

def get? (segment : String) : Option (Entry σ) := r.entries.lookup segment

def size : Nat := r.entries.length

def listing : List (String × ResourceType) :=
  (r.entries.map fun (segment, e) => (segment, e.kind)).mergeSort fun a b => a.1 ≤ b.1

def register (segment : String) (kind : ResourceType) (handler : Handler σ) :
    Except RegistryError (Registry σ) :=
  if segment = "" ∨ '/' ∈ segment.toList then .error (.invalidSegment segment)
  else if (r.get? segment).isSome then .error (.duplicateSegment segment)
  else .ok ⟨r.entries ++ [(segment, ⟨kind, handler⟩)]⟩

def resolve (segment : String) : Except ProtocolError (Entry σ) :=
  match r.get? segment with
  | some e => .ok e
  | none => .error (.invalidPath ("no resource is registered at '" ++ segment ++ "'"))

def recorded : Registry (σ × List Call) :=
  ⟨r.entries.map fun (segment, e) => (segment, ⟨e.kind, e.handler.recorded segment⟩)⟩

end Registry

end Roster
