import Roster.Resource.User

namespace Roster

structure Member where
  value : Uuid
  display : Option String := none
  deriving DecidableEq, Repr

structure Group where
  id : Uuid
  displayName : String
  members : List Member
  deriving DecidableEq, Repr

structure GroupCreate where
  displayName : String := ""
  members : List Member := []
  deriving DecidableEq, Repr

structure GroupUpdate where
  displayName : Option String := none
  members : Option (List Member) := none
  deriving DecidableEq, Repr

def Member.record : Json.Record Member where
  name := "Member"
  blank := ⟨⟨0⟩, none⟩
  fields := [
    .of .required "value" fun v m => { m with value := v },
    .of .named "display" fun v m => { m with display := v }]

instance : Decode Member := Member.record.decode

def Member.toJson (m : Member) : Json :=
  .object [("value", m.value.toJson), ("display", .ofOption .string m.display)]

def GroupCreate.record : Json.Record GroupCreate where
  name := "GroupCreate"
  blank := {}
  fields := [
    .of .optional "displayName" fun v p => { p with displayName := v },
    .of .optional "members" fun v p => { p with members := v }]

instance : Decode GroupCreate := GroupCreate.record.decode

def GroupUpdate.record : Json.Record GroupUpdate where
  name := "GroupUpdate"
  blank := {}
  fields := [
    .of .named "displayName" fun v p => { p with displayName := v },
    .of .named "members" fun v p => { p with members := v }]

instance : Decode GroupUpdate := GroupUpdate.record.decode

namespace Group

def toJson (g : Group) : Json :=
  .object [("id", g.id.toJson), ("displayName", .string g.displayName),
    ("members", .array (g.members.map Member.toJson))]

def blankName : GroupError := .invalid "displayName is required and must not be blank"

def build (id : Uuid) (params : GroupCreate) : Except GroupError Group :=
  if Text.allBlank params.displayName then .error blankName
  else .ok { id := id, displayName := params.displayName, members := params.members }

def checkMembers (lookup : UserLookup σ) : List Member → Action σ (Except GroupError Unit)
  | [], s => (.ok (), s)
  | m :: ms, s =>
    match lookup m.value s with
    | (.ok (some _), s) => checkMembers lookup ms s
    | (.ok none, s) => (.error (.unknownMember m.value), s)
    | (.error e, s) => (.error (.lookupFailed e.message), s)

def rename (name : Option String) (g : Group) : Except GroupError Group :=
  if name.any Text.allBlank then .error blankName
  else .ok { g with displayName := name.getD g.displayName }

/-- A new name is taken over before new members are looked up. -/
def hooks (lookup : UserLookup σ) : Hooks σ Uuid GroupCreate GroupUpdate GroupError Group where
  build := build
  onCreate g s :=
    match checkMembers lookup g.members s with
    | (outcome, s) => ((outcome, g), s)
  onUpdate change g s :=
    match g.rename change.displayName with
    | .error e => ((.error e, g), s)
    | .ok g =>
      match change.members with
      | none => ((.ok (), g), s)
      | some members =>
        match checkMembers lookup members s with
        | (.error e, s) => ((.error e, g), s)
        | (.ok (), s) => ((.ok (), { g with members := members }), s)

end Group

def Client.groupHandler (c : Client σ Uuid GroupCreate GroupUpdate GroupError Group) : Handler σ :=
  c.handler (readPayload GroupCreate) (readPayload GroupUpdate)

end Roster
