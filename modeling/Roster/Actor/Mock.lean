import Roster.Actor.Client
import Roster.Text.Literal
import Roster.Json.Printer

/-! A stand-in for an actor.  It answers requests from a list of expectations, and afterwards tells whether they were
met. -/

namespace Roster

inductive Expectation (ι ε α : Type)
  | create (answer : Except (Failure ε) ι)
  | get (id : ι) (answer : Except (Failure ε) (Option α))
  | update (id : ι) (answer : Except (Failure ε) α)
  | delete (id : ι) (answer : Except (Failure ε) Unit)

def Expectation.verb : Expectation ι ε α → String
  | .create _ => "create"
  | .get .. => "get"
  | .update .. => "update"
  | .delete .. => "delete"

inductive Deviation (ι : Type)
  | otherId (verb : String) (expected actual : ι)
  | otherVerb (expected actual : String)
  | noneExpected (actual : String)
  deriving DecidableEq, Repr

def Deviation.message [ToString ι] : Deviation ι → String
  | .otherId verb expected actual =>
    verb ++ ": expected id " ++ toString expected ++ ", got " ++ toString actual
  | .otherVerb expected actual => "expected " ++ expected ++ " request, got " ++ actual
  | .noneExpected actual => "unexpected " ++ actual ++ " request: no expectations left"

structure Mock (ι ε α : Type) where
  expected : List (Expectation ι ε α)
  deviations : List (Deviation ι) := []

namespace Mock

variable {ι κ υ ε α : Type} [DecidableEq ι]

def refuse (m : Mock ι ε α) (deviation : Deviation ι) : Except (Failure ε) β × Mock ι ε α :=
  (.error .dropped, ⟨m.expected.drop 1, m.deviations ++ [deviation]⟩)

def refuseVerb (m : Mock ι ε α) (verb : String) : Except (Failure ε) β × Mock ι ε α :=
  m.refuse <| match m.expected with
    | [] => .noneExpected verb
    | e :: _ => .otherVerb e.verb verb

def answer (m : Mock ι ε α) (verb : String) (expected actual : ι) (a : Except (Failure ε) β) :
    Except (Failure ε) β × Mock ι ε α :=
  if expected = actual then (a, { m with expected := m.expected.drop 1 })
  else m.refuse (.otherId verb expected actual)

def client : Client (Mock ι ε α) ι κ υ (Failure ε) α where
  create _ m :=
    match m.expected with
    | .create a :: rest => (a, { m with expected := rest })
    | _ => m.refuseVerb "create"
  get id m :=
    match m.expected with
    | .get expected a :: _ => m.answer "get" expected id a
    | _ => m.refuseVerb "get"
  update id _ m :=
    match m.expected with
    | .update expected a :: _ => m.answer "update" expected id a
    | _ => m.refuseVerb "update"
  delete id m :=
    match m.expected with
    | .delete expected a :: _ => m.answer "delete" expected id a
    | _ => m.refuseVerb "delete"

inductive Unmet (ι : Type)
  | deviated (deviations : List (Deviation ι))
  | unused (count : Nat)
  deriving DecidableEq, Repr

def Unmet.message [ToString ι] : Unmet ι → String
  | .deviated ds =>
    "Mock received unexpected requests: [" ++
      ", ".intercalate (ds.map fun d => Text.literal d.message) ++ "]"
  | .unused n => "Not all expectations were met. " ++ .ofList (decimalDigits n) ++ " remaining"

def verify (m : Mock ι ε α) : Except (Unmet ι) Unit :=
  if m.deviations ≠ [] then .error (.deviated m.deviations)
  else if m.expected ≠ [] then .error (.unused m.expected.length)
  else .ok ()

end Mock

end Roster
