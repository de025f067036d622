import Roster.Actor.Basic
import Roster.Resource.Error

namespace Roster

abbrev Attributes := List (String × Json)

structure CustomResource where
  id : Uuid
  resourceType : String
  attributes : Attributes
  deriving DecidableEq, Repr

structure CustomCreate where
  resourceType : String
  attributes : Attributes
  deriving DecidableEq, Repr

/-- Attributes to merge in; `null` removes one. -/
structure CustomUpdate where
  attributes : Attributes
  deriving DecidableEq, Repr

namespace CustomResource

def toJson (r : CustomResource) : Json :=
  .object [("id", r.id.toJson), ("resourceType", .string r.resourceType),
    ("attributes", .object r.attributes)]

def serverOwned : List String := ["id", "resourceType", "meta"]

def intruder? (attributes : Attributes) : Option String :=
  serverOwned.find? fun name => (Json.get? name attributes).isSome

def build (id : Uuid) (params : CustomCreate) : Except CustomError CustomResource :=
  match intruder? params.attributes with
  | some name => .error (.readOnly name)
  | none =>
    if params.attributes = [] then .error (.invalid "at least one attribute is required")
    else .ok { id := id, resourceType := params.resourceType, attributes := params.attributes }

def merge (stored changes : Attributes) : Attributes :=
  changes.foldl (fun stored (name, v) =>
    match v with
    | .null => Json.erase name stored
    | v => Json.insert name v stored) stored

def hooks : Hooks σ Uuid CustomCreate CustomUpdate CustomError CustomResource where
  build := build
  onUpdate change r s :=
    match intruder? change.attributes with
    | some name => ((.error (.readOnly name), r), s)
    | none => ((.ok (), { r with attributes := merge r.attributes change.attributes }), s)

def client (name : String) (c : Client σ Uuid CustomCreate CustomUpdate CustomError CustomResource) :
    Client σ Uuid Attributes Attributes CustomError CustomResource where
  create attributes := c.create ⟨name, attributes⟩
  get := c.get
  update id attributes := c.update id ⟨attributes⟩
  delete := c.delete

def readAttributes : Json → Except ProtocolError Attributes
  | .object attributes => .ok attributes
  | v =>
    .error (.invalidSyntax ("custom resource payload must be a JSON object, got " ++ v.compact))

end CustomResource

def Client.customHandler
    (c : Client σ Uuid Attributes Attributes CustomError CustomResource) : Handler σ :=
  c.handler CustomResource.readAttributes CustomResource.readAttributes

end Roster
