import Roster.Server
import Roster.Settings

namespace Roster.CommandLine

structure Options where
  request : Option String := none
  principal : Option String := none
  deriving DecidableEq, Repr

def inline? (name : String) (argument : String) : Option String :=
  (name.toList.isPrefixOf? argument.toList).map .ofList

def isValue (argument : String) : Bool := argument = "-" || !("-".toList.isPrefixOf argument.toList)

def Options.withRequest (o : Options) (file : String) : Except String Options :=
  if file = "" ∨ o.request.isSome then .error file else .ok { o with request := some file }

def Options.withPrincipal (o : Options) (name : String) : Except String Options :=
  if o.principal.isSome then .error name else .ok { o with principal := some name }

def options : List String → Options → Except String Options
  | [], o => .ok o
  | "--" :: rest, o =>
    match rest with
    | [] => .ok o
    | argument :: _ => .error argument
  | "--request" :: file :: rest, o | "-r" :: file :: rest, o =>
    if isValue file then do options rest (← o.withRequest file) else .error file
  | "--principal" :: name :: rest, o =>
    if isValue name then do options rest (← o.withPrincipal name) else .error name
  | argument :: rest, o =>
    match (inline? "--request=" argument).or ((inline? "-r=" argument).or (inline? "-r" argument)),
        inline? "--principal=" argument with
    | some file, _ => do options rest (← o.withRequest file)
    | none, some name => do options rest (← o.withPrincipal name)
    | none, none => .error argument

inductive Unreadable
  | missing
  | forbidden
  | notDirectory
  | directory
  | nameTooLong
  | other (reason : String)
  deriving DecidableEq, Repr

def Unreadable.message : Unreadable → String
  | .missing => "No such file or directory (os error 2)"
  | .forbidden => "Permission denied (os error 13)"
  | .notDirectory => "Not a directory (os error 20)"
  | .directory => "Is a directory (os error 21)"
  | .nameTooLong => "File name too long (os error 36)"
  | .other reason => reason

structure Surroundings where
  arguments : List String
  environment : String → Option String
  settings : String := ""
  file : String → Except Unreadable (List UInt8)

def Surroundings.lookup (s : Surroundings) : String → Option String :=
  Settings.lookup s.environment (Settings.values s.environment [] (Settings.ofText s.settings))

structure Outcome where
  exit : UInt32
  stdout : String := ""
  stderr : String := ""
  deriving DecidableEq, Repr

def indent (blanks : Nat) (text : String) : String :=
  .ofList (text.toList.flatMap fun c => if c = '\n' then c :: List.replicate blanks ' ' else [c])

def causeLine (numbered : Bool) (n : Nat) (cause : String) : String :=
  if numbered then
    let number := decimalDigits n
    "\n" ++ .ofList (List.replicate (5 - number.length) ' ' ++ number) ++ ": " ++ indent 7 cause
  else "\n    " ++ indent 4 cause

def causeLines (numbered : Bool) (n : Nat) : List String → String
  | [] => ""
  | cause :: causes => causeLine numbered n cause ++ causeLines numbered (n + 1) causes

def failed (context : String) (causes : List String) : Outcome where
  exit := 1
  stderr := "Error: " ++ context ++
    (if causes = [] then "" else "\n\nCaused by:" ++ causeLines (1 < causes.length) 0 causes) ++ "\n"

def panicked (reason : String) : Outcome where
  exit := 101
  stderr := "thread 'main' panicked:\n" ++ reason ++ "\n"

def demonstration : Batch.Request where
  errorBudget := some 2
  operations := [
    .create "alice" "Users" (.object [
      ("displayName", .string "Alice Example"),
      ("emails", .array [
        .object [("primary", .bool true), ("value", .string "alice@example.com")]]),
      ("userName", .string "alice")]),
    .create "admins" "Groups" (.object [
      ("displayName", .string "Administrators"),
      ("members", .array [
        .object [("display", .string "alice"), ("value", .string "placeholder-ref:alice")]])]),
    .create "sync" "ServiceCredentials" (.object [
      ("name", .string "billing-sync"),
      ("ownerId", .string "placeholder-ref:alice"),
      ("scopes", .array [.string "invoices:read"])]),
    .create "laptop" "Devices" (.object [
      ("assignedTo", .string "placeholder-ref:alice"),
      ("serial", .string "LT-0042")]),
    .update "Users/placeholder-ref:alice" (.object [("displayName", .string "Alice E.")]),
    .delete "Groups/00000000-0000-0000-0000-000000000000"]

def loadRequest (s : Surroundings) (config : Config) :
    Option String → Except Outcome Batch.Request
  | none => .ok demonstration
  | some file => do
    let body ← (s.file file).mapError fun reason => failed ("failed to read " ++ file) [reason.message]
    (Batch.Request.ofBytes body config.limits.maxPayloadBytes).mapError fun e =>
      failed ("invalid bulk request in " ++ file) [e.message]

def serve (server : Server) (principal : Option String) (request : Batch.Request) :
    Except Outcome Batch.Response :=
  match server.endpoint? with
  | none => .error (failed "bulk request failed" [])
  | some endpoint =>
    (server.act (endpoint.execute { principal := principal } request)).1.mapError fun e =>
      failed "bulk request failed" [e.message]

def notStarted : StartFailure → Outcome
  | .panicked reason => panicked reason
  | .refused cause => failed "failed to start directory system" [cause.message]

def program (mailboxes : Mailboxes) (generate : Nat → Uuid) (s : Surroundings) :
    Except Outcome Batch.Response := do
  let o ← (options s.arguments {}).mapError fun argument =>
    ({ exit := 2, stderr := "error: unexpected argument '" ++ argument ++ "' found\n" } : Outcome)
  let config ← (Config.ofLookup s.lookup).mapError fun e =>
    failed "failed to load configuration" e.chain
  let request ← loadRequest s config o.request
  let server ← (Server.start mailboxes generate config).mapError notStarted
  serve server o.principal request

def run (mailboxes : Mailboxes) (generate : Nat → Uuid) (s : Surroundings) : Outcome :=
  match program mailboxes generate s with
  | .ok response => { exit := 0, stdout := response.toJson.pretty ++ "\n" }
  | .error outcome => outcome

end Roster.CommandLine
