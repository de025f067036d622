import Roster.Batch.Path
import Roster.Batch.Reference
import Roster.Batch.Request
import Roster.Registry

namespace Roster.Batch

inductive Dispatch
  | create (payload : Json)
  | update (id : Uuid) (payload : Json)
  | delete (id : Uuid)
  deriving DecidableEq, Repr

inductive Effect
  | created (id : Uuid)
  | modified (id : Uuid)
  | removed (id : Uuid)
  deriving DecidableEq, Repr

namespace Effect

def status : Effect → UInt16
  | .created _ => 201
  | .modified _ | .removed _ => 204

def id : Effect → Uuid
  | .created id | .modified id | .removed id => id

end Effect

/-- Calls the handler. An update or a deletion that found nothing to change is a failure here. -/
def Dispatch.invoke (handler : Handler σ) : Dispatch → Action σ (Except ProtocolError Effect)
  | .create payload, s =>
    match handler.create payload s with
    | (.ok id, s) => (.ok (.created id), s)
    | (.error e, s) => (.error e.toProtocolError, s)
  | .update id payload, s =>
    match handler.update id payload s with
    | (.ok true, s) => (.ok (.modified id), s)
    | (.ok false, s) =>
      (.error (.expectationFailed ("resource " ++ id.text ++ " was not modified")), s)
    | (.error e, s) => (.error e.toProtocolError, s)
  | .delete id, s =>
    match handler.delete id s with
    | (.ok true, s) => (.ok (.removed id), s)
    | (.ok false, s) =>
      (.error (.expectationFailed ("resource " ++ id.text ++ " was not deleted")), s)
    | (.error e, s) => (.error e.toProtocolError, s)

structure Plan (σ : Type) where
  segment : String
  entry : Registry.Entry σ
  dispatch : Dispatch

namespace Operation

variable (op : Operation)

def requireData : Except ProtocolError (Option Json) :=
  match op.verb, op.data with
  | .delete, _ => .ok none
  | _, some data => .ok (some data)
  | _, none => .error (.invalidSyntax (op.method.name ++ " operation requires data"))

def name? : Option String := if op.verb = .create then op.bulkId.filter (· ≠ "") else none

def requireName : Except ProtocolError Unit :=
  if op.verb = .create ∧ op.name? = none then
    .error (.invalidSyntax "create operation requires a non-empty bulkId")
  else .ok ()

def address (refs : References) (identifier : Option String) (payload : Option Json) :
    Except ProtocolError Dispatch :=
  match op.verb, identifier, payload with
  | .create, some _, _ =>
    .error (.invalidPath ("create path '" ++ op.path ++ "' must not name a resource"))
  | .create, none, some payload => .ok (.create payload)
  | .update, some identifier, some payload => return .update (← refs.target identifier) payload
  | .delete, some identifier, _ => return .delete (← refs.target identifier)
  | _, none, _ => .error (.invalidValue ("path '" ++ op.path ++ "' must name a resource"))
  | _, _, none => .error (.invalidSyntax "operation requires data")

def plan (registry : Registry σ) (refs : References) : Except ProtocolError (Plan σ) := do
  let data ← op.requireData
  op.requireName
  let payload ← data.mapM refs.resolved
  let path ← Path.parse op.path
  let entry ← registry.resolve path.segment
  return ⟨path.segment, entry, ← op.address refs path.identifier payload⟩

def remember (refs : References) (effect : Effect) : References :=
  match effect, op.name? with
  | .created id, some name => refs.insert name id
  | _, _ => refs

end Operation

end Roster.Batch
