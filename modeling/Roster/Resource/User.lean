import Roster.Actor.Basic
import Roster.Resource.Error
import Roster.Text.Blank

namespace Roster

structure Email where
  value : String
  primary : Bool := false
  deriving DecidableEq, Repr

structure User where
  id : Uuid
  userName : String
  displayName : Option String
  emails : List Email
  active : Bool
  deriving DecidableEq, Repr

structure UserCreate where
  userName : String := ""
  displayName : Option String := none
  emails : List Email := []
  active : Option Bool := none
  deriving DecidableEq, Repr

structure UserUpdate where
  userName : Option String := none
  displayName : Option String := none
  emails : Option (List Email) := none
  active : Option Bool := none
  deriving DecidableEq, Repr

def Email.record : Json.Record Email where
  name := "Email"
  blank := ⟨"", false⟩
  fields := [
    .of .required "value" fun v e => { e with value := v },
    .of .optional "primary" fun v e => { e with primary := v }]

instance : Decode Email := Email.record.decode

def Email.toJson (e : Email) : Json :=
  .object [("value", .string e.value), ("primary", .bool e.primary)]

def UserCreate.record : Json.Record UserCreate where
  name := "UserCreate"
  blank := {}
  fields := [
    .of .optional "userName" fun v p => { p with userName := v },
    .of .named "displayName" fun v p => { p with displayName := v },
    .of .optional "emails" fun v p => { p with emails := v },
    .of .named "active" fun v p => { p with active := v }]

instance : Decode UserCreate := UserCreate.record.decode

def UserUpdate.record : Json.Record UserUpdate where
  name := "UserUpdate"
  blank := {}
  fields := [
    .of .named "userName" fun v p => { p with userName := v },
    .of .named "displayName" fun v p => { p with displayName := v },
    .of .named "emails" fun v p => { p with emails := v },
    .of .named "active" fun v p => { p with active := v }]

instance : Decode UserUpdate := UserUpdate.record.decode

namespace User

def toJson (u : User) : Json :=
  .object [("id", u.id.toJson), ("userName", .string u.userName),
    ("displayName", .ofOption .string u.displayName),
    ("emails", .array (u.emails.map Email.toJson)), ("active", .bool u.active)]

def blankName : UserError := .invalid "userName is required and must not be blank"

def build (id : Uuid) (params : UserCreate) : Except UserError User :=
  if Text.allBlank params.userName then .error blankName
  else .ok {
    id := id
    userName := params.userName
    displayName := params.displayName
    emails := params.emails
    active := params.active.getD true }

def revise (change : UserUpdate) (u : User) : Except UserError User :=
  if change.userName.any Text.allBlank then .error blankName
  else .ok { u with
    userName := change.userName.getD u.userName
    displayName := change.displayName.or u.displayName
    emails := change.emails.getD u.emails
    active := change.active.getD u.active }

def hooks : Hooks σ Uuid UserCreate UserUpdate UserError User where
  build := build
  onUpdate change u s :=
    match u.revise change with
    | .error e => ((.error e, u), s)
    | .ok u => ((.ok (), u), s)

end User

abbrev UserLookup (σ : Type) := Uuid → Action σ (Except UserError (Option User))

def Client.userHandler (c : Client σ Uuid UserCreate UserUpdate UserError User) : Handler σ :=
  c.handler (readPayload UserCreate) (readPayload UserUpdate)

end Roster
