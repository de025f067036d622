import Roster.Json.Decode

namespace Roster.Json

/-- When an attribute may be left out: never, in an object but not in an array, or at the end of an
array, too. -/
inductive Presence
  | required
  | named
  | optional
  deriving DecidableEq, Repr

structure Field (α : Type) where
  name : String
  aliases : List String
  presence : Presence
  ofJson : Json → α → Except Mismatch α
  read : (levels : Nat) → α → Reader α

def Field.of [Decode β] (presence : Presence) (name : String) (set : β → α → α)
    (aliases : List String := []) : Field α where
  name := name
  aliases := aliases
  presence := presence
  ofJson v a := return set (← Decode.ofJson v) a
  read levels a := return set (← Decode.read levels) a

def Field.named (f : Field α) (key : String) : Bool := key = f.name || f.aliases.contains key

/-- Reading starts from the blank record and sets the attributes that are met. The blank values of required
attributes never show, since a record that lacks one of them is refused. -/
structure Record (α : Type) where
  name : String
  blank : α
  fields : List (Field α)

namespace Record

variable (r : Record α)

def expected : String := "struct " ++ r.name

def field? (key : String) : Option (Field α) := r.fields.find? (·.named key)

def tooShort (n : Nat) : Mismatch :=
  .wrongLength n (r.expected ++ " with " ++ .ofList (decimalDigits r.fields.length) ++
    (if r.fields.length = 1 then " element" else " elements"))

structure Draft (α : Type) where
  met : List String
  record : α

def draft : Draft α := ⟨[], r.blank⟩

def complete (d : Draft α) : Except Mismatch α :=
  match r.fields.find? fun f => f.presence = .required && !d.met.contains f.name with
  | some f => .error (.missingField f.name)
  | none => .ok d.record

def take (d : Draft α) (key : String) (v : Json) : Except Mismatch (Draft α) :=
  match r.field? key with
  | none => .ok d
  | some f =>
    if d.met.contains f.name then .error (.duplicateField f.name)
    else return ⟨f.name :: d.met, ← f.ofJson v d.record⟩

def ofMembers (members : List (String × Json)) : Except Mismatch α := do
  r.complete (← members.foldlM (fun d (k, v) => r.take d k v) r.draft)

def takeItems (n : Nat) (a : α) : List (Field α) → List Json → Except Mismatch (α × List Json)
  | [], items => .ok (a, items)
  | f :: fields, [] =>
    if f.presence = .optional then takeItems (n + 1) a fields [] else .error (r.tooShort n)
  | f :: fields, v :: items => do takeItems (n + 1) (← f.ofJson v a) fields items

def ofItems (items : List Json) : Except Mismatch α := do
  match ← r.takeItems 0 r.blank r.fields items with
  | (a, []) => .ok a
  | (_, _ :: _) => .error (.wrongLength items.length "fewer elements in array")

def ofJson : Json → Except Mismatch α
  | .object members => r.ofMembers members
  | .array items => r.ofItems items
  | v => refuse v r.expected

def fail (cause : Mismatch) : Reader β := fun rest => .error (.pending cause rest)

/-- A mismatch of a record is pending until the record has been left. -/
def settle (x : Except Mismatch β) : Reader β :=
  match x with
  | .ok b => pure b
  | .error cause => fail cause

def readMember (levels : Nat) (key : String) (d : Draft α) : Reader (Draft α) := do
  match r.field? key with
  | none =>
    Reader.colon
    Reader.skipValue
    pure d
  | some f =>
    if d.met.contains f.name then fail (.duplicateField f.name)
    else
      Reader.colon
      return ⟨f.name :: d.met, ← f.read levels d.record⟩

def readItems (levels n : Nat) (a : α) : List (Field α) → Reader α
  | [] => pure a
  | f :: fields => do
    if ← Reader.element (n = 0) then
      let a ← f.read levels a
      readItems levels (n + 1) a fields
    else if f.presence = .optional then readItems levels (n + 1) a fields
    else fail (r.tooShort n)

def readMembers (levels : Nat) (input : List UInt8) : Reader α := do
  settle (r.complete (← Reader.members (r.readMember levels) input true r.draft))

def read (levels : Nat) : Reader α := do
  match ← Reader.next with
  | none => Reader.failNext .endInValue
  | some 0x5B =>
    Reader.descend levels fun levels =>
      Reader.bracketed (r.readItems levels 0 r.blank r.fields) Reader.closeArray Reader.leaveArray
  | some 0x7B =>
    Reader.descend levels fun levels input =>
      Reader.bracketed (r.readMembers levels input) Reader.closeObject Reader.leaveObject input
  | some _ => Reader.refuse r.expected

@[reducible] def decode : Decode α where
  ofJson := r.ofJson
  read := r.read

end Record

end Roster.Json
