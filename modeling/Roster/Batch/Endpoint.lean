import Roster.Batch.Attempt

/-! The endpoint that runs batches: operations in order, until one too many of them has failed.  Nothing is undone. -/

namespace Roster.Batch

inductive Abort
  | rejected (cause : ProtocolError)
  | cancelled
  deriving DecidableEq, Repr

def Abort.message : Abort → String
  | .rejected cause => "bulk request rejected: " ++ cause.message
  | .cancelled => "bulk request was cancelled"

structure Limits where
  maxOperations : Nat := 1000
  maxPayloadBytes : Nat := 1048576
  deriving DecidableEq, Repr

/-- Who calls, and whether the call has been cancelled when the `n`-th operation is about to start. -/
structure Caller (σ : Type) where
  principal : Option String := none
  cancelled : Nat → σ → Bool := fun _ _ => false

structure Endpoint (σ : Type) where
  registry : Registry σ
  limits : Limits := {}
  baseUrl : Option String := none

def trimSlashes (url : String) : String :=
  .ofList (url.toList.reverse.dropWhile (· = '/')).reverse

def Endpoint.withBaseUrl (e : Endpoint σ) (url : String) : Endpoint σ :=
  { e with baseUrl := some (trimSlashes url) }

namespace Request

def budget (r : Request) : UInt32 := r.errorBudget.getD 0

def names (r : Request) : List String := r.operations.filterMap Operation.name?

def repeated? (seen : List String) : List String → Option String
  | [] => none
  | name :: rest => if name ∈ seen then some name else repeated? (name :: seen) rest

def check (limits : Limits) (r : Request) : Except ProtocolError Unit :=
  if limits.maxOperations < r.operations.length then
    .error (.badRequest .tooMany ("bulk request has " ++
      .ofList (decimalDigits r.operations.length) ++ " operations, the maximum is " ++
      .ofList (decimalDigits limits.maxOperations)))
  else match repeated? [] r.names with
    | some name =>
      .error (.badRequest .uniqueness ("bulkId '" ++ name ++ "' is used by more than one create"))
    | none => .ok ()

end Request

namespace Endpoint

variable {σ : Type} (e : Endpoint σ)

def location (segment : String) (id : Uuid) : String :=
  match e.baseUrl with
  | some base => base ++ "/" ++ segment ++ "/" ++ id.text
  | none => segment ++ "/" ++ id.text

def locate (segment : String) : Effect → Option String
  | .created id | .modified id => some (e.location segment id)
  | .removed _ => none

def perform (op : Operation) (refs : References) : Action σ Outcome := fun s =>
  match op.plan e.registry refs with
  | .error cause => (.error cause, s)
  | .ok plan =>
    match plan.dispatch.invoke plan.entry.handler s with
    | (.error cause, s) => (.error cause, s)
    | (.ok effect, s) => (.ok (effect, e.locate plan.segment effect), s)

def attempt (op : Operation) (p : Progress) (s : σ) : Attempt σ :=
  match e.perform op p.refs s with
  | (outcome, after) => ⟨op, p, s, outcome, after⟩

def run (caller : Caller σ) (budget : UInt32) : (n : Nat) → List Operation → Progress → σ → Run σ
  | _, [], _, s => ⟨[], false, s⟩
  | n, op :: ops, p, s =>
    if caller.cancelled n s then ⟨[], true, s⟩
    else
      let a := e.attempt op p s
      if a.exhausts budget then ⟨[a], false, a.after⟩
      else (run caller budget (n + 1) ops a.progress a.after).cons a

def start (caller : Caller σ) (r : Request) (s : σ) : Run σ :=
  e.run caller r.budget 0 r.operations {} s

/-- A batch that is cancelled has no results, whatever it has done. -/
def execute (caller : Caller σ) (r : Request) : Action σ (Except Abort Response) := fun s =>
  match r.check e.limits with
  | .error cause => (.error (.rejected cause), s)
  | .ok () =>
    let run := e.start caller r s
    (if run.cancelled then .error .cancelled else .ok ⟨run.attempts.map Attempt.result⟩, run.state)

end Endpoint

end Roster.Batch
