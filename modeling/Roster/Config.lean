import Roster.Batch.Endpoint
import Roster.Text.Blank
import Roster.Text.Pieces
import Roster.Text.Unsigned

namespace Roster

structure Config where
  limits : Batch.Limits := {}
  bufferSize : Nat := 32
  customTypes : List String := ["Devices"]
  baseUrl : Option String := none
  deriving DecidableEq, Repr

namespace Config

inductive Setting
  | maxOperations
  | maxPayloadBytes
  | bufferSize
  deriving DecidableEq, Repr

def Setting.variableName : Setting → String
  | .maxOperations => "BULK_MAX_OPERATIONS"
  | .maxPayloadBytes => "BULK_MAX_PAYLOAD_BYTES"
  | .bufferSize => "ACTOR_BUFFER_SIZE"

def Setting.wanted : Setting → String
  | .maxOperations | .maxPayloadBytes => "a non-negative integer"
  | .bufferSize => "a positive integer"

structure Invalid where
  setting : Setting
  cause : Option Text.NumeralFault
  deriving DecidableEq, Repr

def Invalid.message (i : Invalid) : String :=
  i.setting.variableName ++ " must be " ++ i.setting.wanted

def Invalid.chain (i : Invalid) : List String :=
  i.message :: (i.cause.map Text.NumeralFault.message).toList

def number (setting : Setting) (default : Nat) (lookup : String → Option String) :
    Except Invalid Nat :=
  match lookup setting.variableName with
  | none => .ok default
  | some text => (Text.unsigned64 text).mapError fun fault => ⟨setting, some fault⟩

def names (text : String) : List String :=
  ((Text.pieces ',' text.toList).map fun piece => Text.trim (.ofList piece)).filter (· ≠ "")

def ofLookup (lookup : String → Option String) : Except Invalid Config := do
  let maxOperations ← number .maxOperations 1000 lookup
  let maxPayloadBytes ← number .maxPayloadBytes 1048576 lookup
  let bufferSize ← number .bufferSize 32 lookup
  if bufferSize = 0 then throw ⟨.bufferSize, none⟩
  return {
    limits := ⟨maxOperations, maxPayloadBytes⟩
    bufferSize := bufferSize
    customTypes := ((lookup "CUSTOM_RESOURCE_TYPES").map names).getD ["Devices"]
    baseUrl := (lookup "SCIM_BASE_URL").filter fun url => !Text.allBlank url }

end Config

end Roster
