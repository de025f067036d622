import Roster.Batch.Request

namespace Roster.Batch

structure Result where
  method : Method
  path : String
  bulkId : Option String
  version : Option String
  location : Option String
  status : UInt16
  error : Option ErrorBody
  deriving DecidableEq, Repr

namespace Result

def success (op : Operation) (status : UInt16) (location : Option String) : Result where
  method := op.method
  path := op.path
  bulkId := op.bulkId
  version := op.version
  location := location
  status := status
  error := none

def failure (op : Operation) (e : ProtocolError) : Result where
  method := op.method
  path := op.path
  bulkId := op.bulkId
  version := op.version
  location := none
  status := e.status
  error := some e.body

def isSuccess (r : Result) : Bool := r.error.isNone

def toJson (r : Result) : Json :=
  .object ([("method", Json.string r.method.name), ("path", .string r.path)] ++
    (r.bulkId.map fun b => ("bulkId", Json.string b)).toList ++
    (r.version.map fun v => ("version", Json.string v)).toList ++
    (r.location.map fun l => ("location", Json.string l)).toList ++
    [("status", .nat r.status.toNat)] ++
    (r.error.map fun e => ("response", e.toJson)).toList)

end Result

structure Response where
  results : List Result
  deriving DecidableEq, Repr

namespace Response

def failures (r : Response) : Nat := r.results.countP (!·.isSuccess)

def toJson (r : Response) : Json := .object [("Operations", .array (r.results.map Result.toJson))]

end Response

end Roster.Batch
