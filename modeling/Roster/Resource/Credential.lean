import Roster.Resource.User

namespace Roster

structure Credential where
  id : Uuid
  name : String
  clientId : String
  ownerId : Option Uuid
  scopes : List String
  deriving DecidableEq, Repr

structure CredentialCreate where
  name : String := ""
  ownerId : Option Uuid := none
  scopes : List String := []
  clientSecret : Option String := none
  deriving DecidableEq, Repr

structure CredentialUpdate where
  name : Option String := none
  ownerId : Option Uuid := none
  scopes : Option (List String) := none
  clientId : Option String := none
  clientSecret : Option String := none
  deriving DecidableEq, Repr

def CredentialCreate.record : Json.Record CredentialCreate where
  name := "CredentialCreate"
  blank := {}
  fields := [
    .of .optional "name" fun v p => { p with name := v },
    .of .named "ownerId" fun v p => { p with ownerId := v },
    .of .optional "scopes" fun v p => { p with scopes := v },
    .of .named "clientSecret" (fun v p => { p with clientSecret := v }) ["secret"]]

instance : Decode CredentialCreate := CredentialCreate.record.decode

def CredentialUpdate.record : Json.Record CredentialUpdate where
  name := "CredentialUpdate"
  blank := {}
  fields := [
    .of .named "name" fun v p => { p with name := v },
    .of .named "ownerId" fun v p => { p with ownerId := v },
    .of .named "scopes" fun v p => { p with scopes := v },
    .of .named "clientId" fun v p => { p with clientId := v },
    .of .named "clientSecret" (fun v p => { p with clientSecret := v }) ["secret"]]

instance : Decode CredentialUpdate := CredentialUpdate.record.decode

namespace Credential

def toJson (c : Credential) : Json :=
  .object [("id", c.id.toJson), ("name", .string c.name), ("clientId", .string c.clientId),
    ("ownerId", .ofOption Uuid.toJson c.ownerId), ("scopes", .array (c.scopes.map .string))]

def blankName : CredentialError := .invalid "name is required and must not be blank"

def secretGiven : CredentialError := .sensitive "clientSecret"

def clientIdOf (id : Uuid) : String := "svc-" ++ id.simple

def build (id : Uuid) (params : CredentialCreate) : Except CredentialError Credential :=
  if params.clientSecret.isSome then .error secretGiven
  else if Text.allBlank params.name then .error blankName
  else .ok {
    id := id
    name := params.name
    clientId := clientIdOf id
    ownerId := params.ownerId
    scopes := params.scopes }

def checkOwner (lookup : UserLookup σ) : Option Uuid → Action σ (Except CredentialError Unit)
  | none, s => (.ok (), s)
  | some owner, s =>
    match lookup owner s with
    | (.ok (some _), s) => (.ok (), s)
    | (.ok none, s) => (.error (.unknownOwner owner), s)
    | (.error e, s) => (.error (.lookupFailed e.message), s)

def rename (change : CredentialUpdate) (c : Credential) : Except CredentialError Credential :=
  if change.clientSecret.isSome then .error secretGiven
  else if change.clientId.any (· ≠ c.clientId) then .error (.immutable "clientId")
  else if change.name.any Text.allBlank then .error blankName
  else .ok { c with name := change.name.getD c.name }

/-- A new name is taken over before a new owner is looked up. -/
def hooks (lookup : UserLookup σ) :
    Hooks σ Uuid CredentialCreate CredentialUpdate CredentialError Credential where
  build := build
  onCreate c s :=
    match checkOwner lookup c.ownerId s with
    | (outcome, s) => ((outcome, c), s)
  onUpdate change c s :=
    match c.rename change with
    | .error e => ((.error e, c), s)
    | .ok c =>
      match checkOwner lookup change.ownerId s with
      | (.error e, s) => ((.error e, c), s)
      | (.ok (), s) =>
        ((.ok (), { c with
          ownerId := change.ownerId.or c.ownerId
          scopes := change.scopes.getD c.scopes }), s)

end Credential

def Client.credentialHandler
    (c : Client σ Uuid CredentialCreate CredentialUpdate CredentialError Credential) : Handler σ :=
  c.handler (readPayload CredentialCreate) (readPayload CredentialUpdate)

end Roster
