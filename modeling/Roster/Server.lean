import Roster.Config
import Roster.Directory

namespace Roster

structure Server where
  config : Config
  generate : Nat → Uuid
  registry : Registry Directory
  directory : Directory
  handles : Nat := 0
  running : Bool := true

structure StillInUse where
  handles : Nat
  deriving DecidableEq, Repr

def StillInUse.message (e : StillInUse) : String :=
  .ofList (decimalDigits e.handles) ++
    " registry handle(s) still in use; drop every orchestrator before shutdown"

/-- Makes a mailbox with room for so many requests, or panics.  Mailboxes are not the directory's own. -/
abbrev Mailboxes := Nat → Except String Unit

namespace Mailboxes

def largest : Nat := 2305843009213693951

def bounded : Mailboxes := fun room =>
  if room = 0 then .error "mpsc bounded channel requires buffer > 0"
  else if largest < room then
    .error ("a semaphore may not have more than MAX_PERMITS permits (" ++ .ofList (decimalDigits largest) ++ ")")
  else .ok ()

end Mailboxes

inductive StartFailure
  | panicked (reason : String)
  | refused (cause : RegistryError)
  deriving DecidableEq, Repr

namespace Server

/-- The mailboxes have one size, and the first are made before anything is registered. -/
def start (mailboxes : Mailboxes) (generate : Nat → Uuid) (config : Config) : Except StartFailure Server := do
  (mailboxes config.bufferSize).mapError .panicked
  return {
    config := config
    generate := generate
    registry := ← (Directory.registry generate config.customTypes).mapError .refused
    directory := .empty config.customTypes }

def hold (s : Server) : Server := { s with handles := s.handles + 1 }

def release (s : Server) : Server := { s with handles := s.handles - 1 }

/-- Shuts down for good. While the registry is held on to, its actors go on. -/
def shutdown (s : Server) : Except StillInUse Unit × Server :=
  (if s.handles = 0 then .ok () else .error ⟨s.handles⟩, { s with running := false })

def registry? (s : Server) : Option (Registry Directory) :=
  if s.running ∨ 0 < s.handles then some s.registry else none

def endpoint? (s : Server) : Option (Batch.Endpoint Directory) :=
  s.registry?.map fun registry =>
    let endpoint : Batch.Endpoint Directory := { registry := registry, limits := s.config.limits }
    match s.running, s.config.baseUrl with
    | true, some url => endpoint.withBaseUrl url
    | _, _ => endpoint

def act (s : Server) (a : Action Directory α) : α × Server :=
  match a s.directory with
  | (answer, directory) => (answer, { s with directory := directory })

end Server

end Roster
