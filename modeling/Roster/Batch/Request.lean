import Roster.ProtocolError

namespace Roster.Batch

inductive Verb
  | create
  | update
  | delete
  deriving DecidableEq, Repr

def Verb.ofName? (name : String) : Option Verb :=
  let upper := name.toList.map Char.toUpper
  if upper = "POST".toList ∨ upper = "CREATE".toList then some .create
  else if upper = "PUT".toList ∨ upper = "PATCH".toList ∨ upper = "UPDATE".toList then some .update
  else if upper = "DELETE".toList then some .delete
  else none

structure Method where
  name : String
  verb : Verb
  named : Verb.ofName? name = some verb
  deriving DecidableEq, Repr

namespace Method

def ofName? (name : String) : Option Method :=
  match h : Verb.ofName? name with
  | some verb => some ⟨name, verb, h⟩
  | none => none

def ofVerb : Verb → Method
  | .create => ⟨"POST", .create, by decide⟩
  | .update => ⟨"PUT", .update, by decide⟩
  | .delete => ⟨"DELETE", .delete, by decide⟩

def ofText (name : String) : Except Json.Mismatch Method :=
  match ofName? name with
  | some m => .ok m
  | none => .error (.rejected ("unknown method '" ++ name ++ "'"))

instance : Decode Method where
  ofJson v := do ofText (← Decode.ofJson v)
  read levels := do
    match ofText (← Decode.read levels) with
    | .ok m => pure m
    | .error cause => fun rest => .error (.pending cause rest)

end Method

structure Operation where
  method : Method
  bulkId : Option String
  path : String
  data : Option Json
  version : Option String
  deriving DecidableEq, Repr

namespace Operation

def verb (op : Operation) : Verb := op.method.verb

def create (bulkId path : String) (data : Json) : Operation :=
  ⟨.ofVerb .create, some bulkId, path, some data, none⟩

def update (path : String) (data : Json) : Operation :=
  ⟨.ofVerb .update, none, path, some data, none⟩

def delete (path : String) : Operation := ⟨.ofVerb .delete, none, path, none, none⟩

def record : Json.Record Operation where
  name := "BulkOperation"
  blank := ⟨.ofVerb .create, none, "", none, none⟩
  fields := [
    .of .required "method" (fun v op => { op with method := v }) ["verb"],
    .of .optional "bulkId" (fun v op => { op with bulkId := v }) ["placeholderId"],
    .of .required "path" fun v op => { op with path := v },
    .of .optional "data" (fun v op => { op with data := v }) ["payload"],
    .of .optional "version" fun v op => { op with version := v }]

instance : Decode Operation := record.decode

def toJson (op : Operation) : Json :=
  .object ([("method", Json.string op.method.name)] ++
    (op.bulkId.map fun b => ("bulkId", Json.string b)).toList ++
    [("path", .string op.path)] ++
    (op.data.map fun d => ("data", d)).toList ++
    (op.version.map fun v => ("version", Json.string v)).toList)

end Operation

structure Request where
  errorBudget : Option UInt32
  operations : List Operation
  deriving DecidableEq, Repr

namespace Request

def record : Json.Record Request where
  name := "BulkRequest"
  blank := ⟨none, []⟩
  fields := [
    .of .optional "failOnErrors" (fun v r => { r with errorBudget := v }) ["errorBudget"],
    .of .optional "Operations" (fun v r => { r with operations := v }) ["operations"]]

instance : Decode Request := record.decode

def toJson (r : Request) : Json :=
  .object ((r.errorBudget.map fun b => ("failOnErrors", Json.nat b.toNat)).toList ++
    [("Operations", .array (r.operations.map Operation.toJson))])

def ofBytes (body : List UInt8) (maxPayloadBytes : Nat) : Except ProtocolError Request :=
  if maxPayloadBytes < body.length then
    .error (.badRequest .tooMany ("bulk request of " ++ .ofList (decimalDigits body.length) ++
      " bytes exceeds the maximum of " ++ .ofList (decimalDigits maxPayloadBytes)))
  else match Json.decode Request body with
    | .ok r => .ok r
    | .error stop => .error (.invalidSyntax (stop.message body))

end Request

end Roster.Batch
