import Roster.CommandLine

namespace Roster.CommandLine

def unreadable : IO.Error → Unreadable
  | .noFileOrDirectory .. => .missing
  | .permissionDenied .. => .forbidden
  | .inappropriateType _ code _ => if code = 21 then .directory else .notDirectory
  | .invalidArgument _ code details => if code = 36 ∨ code = -36 then .nameTooLong else .other details
  | e => .other (toString e)

def readBytes (file : String) : IO (Except Unreadable (List UInt8)) := do
  try
    return .ok (← IO.FS.readBinFile file).toList
  catch e => return .error (unreadable e)

def randomIds : IO (Nat → Uuid) := do
  let bytes ← IO.getRandomBytes 16
  return Uuid.sequence (bytes.toList.foldl (256 * · + ·.toNat) 0)

def variableNames : List String :=
  ["BULK_MAX_OPERATIONS", "BULK_MAX_PAYLOAD_BYTES", "ACTOR_BUFFER_SIZE", "CUSTOM_RESOURCE_TYPES",
    "SCIM_BASE_URL"]

def readSettings : IO String := do
  match ← readBytes ".env" with
  | .ok bytes => return (String.fromUTF8? ⟨bytes.toArray⟩).getD ""
  | .error _ => return ""

def surroundings (arguments : List String) : IO Surroundings := do
  let settings ← readSettings
  let names := variableNames ++ Settings.references (Settings.ofText settings)
  let environment ← names.filterMapM fun name => do
    return (← IO.getEnv name).map fun value => (name, value)
  let request := (options arguments {}).toOption.bind (·.request)
  let content ← readBytes (request.getD "")
  return {
    arguments := arguments
    environment := fun name => environment.lookup name
    settings := settings
    file := fun _ => content }

end Roster.CommandLine

open Roster in
def main (arguments : List String) : IO UInt32 := do
  let outcome := CommandLine.run .bounded (← CommandLine.randomIds) (← CommandLine.surroundings arguments)
  IO.print outcome.stdout
  IO.eprint outcome.stderr
  return outcome.exit
