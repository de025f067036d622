import Roster.Registry
import Roster.Resource.Credential
import Roster.Resource.Custom
import Roster.Resource.Group

/-! The directory: the stores of all kinds of resources, their clients, and the registry over them. -/

namespace Roster

structure Directory where
  users : Store Uuid User := ∅
  groups : Store Uuid Group := ∅
  credentials : Store Uuid Credential := ∅
  customs : Store String (Store Uuid CustomResource) := ∅
  /-- How many identifiers have been handed out, to resources of any kind. -/
  issued : Nat := 0
  deriving DecidableEq, Repr

namespace Directory

def empty (customTypes : List String) : Directory where
  customs := ⟨customTypes.map (·, ∅)⟩

variable (generate : Nat → Uuid)

def draw : Action Nat Uuid := fun n => (generate n, n + 1)

abbrev People := Store Uuid User × Nat

def userActor : Client People Uuid UserCreate UserUpdate UserError User :=
  (Actor.client User.hooks (draw generate)).boxed.typed

def drawBeside : Action People Uuid :=
  (draw generate).within (·.2) fun n people => (people.1, n)

def groupActor : Client (Store Uuid Group × People) Uuid GroupCreate GroupUpdate GroupError Group :=
  (Actor.client (Group.hooks (userActor generate).get) (drawBeside generate)).boxed.typed

def credentialActor :
    Client (Store Uuid Credential × People) Uuid CredentialCreate CredentialUpdate CredentialError
      Credential :=
  (Actor.client (Credential.hooks (userActor generate).get) (drawBeside generate)).boxed.typed

def customActor :
    Client (Store Uuid CustomResource × Nat) Uuid CustomCreate CustomUpdate CustomError
      CustomResource :=
  (Actor.client CustomResource.hooks (draw generate)).boxed.typed

def userClient : Client Directory Uuid UserCreate UserUpdate UserError User :=
  (userActor generate).within (fun d => (d.users, d.issued))
    fun (users, n) d => { d with users := users, issued := n }

def groupClient : Client Directory Uuid GroupCreate GroupUpdate GroupError Group :=
  (groupActor generate).within (fun d => (d.groups, d.users, d.issued))
    fun (groups, users, n) d => { d with groups := groups, users := users, issued := n }

def credentialClient :
    Client Directory Uuid CredentialCreate CredentialUpdate CredentialError Credential :=
  (credentialActor generate).within (fun d => (d.credentials, d.users, d.issued))
    fun (credentials, users, n) d =>
      { d with credentials := credentials, users := users, issued := n }

def customClient (name : String) :
    Client Directory Uuid Attributes Attributes CustomError CustomResource :=
  (CustomResource.client name (customActor generate)).within
    (fun d => ((d.customs.get? name).getD ∅, d.issued))
    fun (store, n) d => { d with customs := d.customs.insert name store, issued := n }

def registry (customTypes : List String) : Except RegistryError (Registry Directory) := do
  let r ← Registry.register {} "Users" .user (userClient generate).userHandler
  let r ← r.register "Groups" .group (groupClient generate).groupHandler
  let r ← r.register "ServiceCredentials" .serviceCredential
    (credentialClient generate).credentialHandler
  customTypes.foldlM (fun r name =>
    r.register name (.custom name) (customClient generate name).customHandler) r

end Directory

end Roster
