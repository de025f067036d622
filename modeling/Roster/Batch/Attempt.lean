import Roster.Batch.Dispatch
import Roster.Batch.Result

namespace Roster.Batch

abbrev Outcome := Except ProtocolError (Effect × Option String)

/-- What a batch carries from one operation to the next. Failures are counted in 32 bits. -/
structure Progress where
  refs : References := ∅
  failures : UInt32 := 0
  deriving DecidableEq, Repr

structure Attempt (σ : Type) where
  op : Operation
  before : Progress
  state : σ
  outcome : Outcome
  after : σ

namespace Attempt

variable {σ : Type} (a : Attempt σ)

def failed : Bool :=
  match a.outcome with
  | .ok _ => false
  | .error _ => true

def progress : Progress :=
  match a.outcome with
  | .ok (effect, _) => { a.before with refs := a.op.remember a.before.refs effect }
  | .error _ => { a.before with failures := a.before.failures + 1 }

def result : Result :=
  match a.outcome with
  | .ok (effect, location) => .success a.op effect.status location
  | .error cause => .failure a.op cause

def exhausts (budget : UInt32) : Bool := a.failed && budget < a.progress.failures

end Attempt

structure Run (σ : Type) where
  attempts : List (Attempt σ)
  cancelled : Bool
  state : σ

def Run.cons (a : Attempt σ) (r : Run σ) : Run σ := { r with attempts := a :: r.attempts }

end Roster.Batch
