import Roster.Actor.Client
import Roster.ProtocolError
import Roster.Uuid

namespace Roster

inductive Refusal
  | protocol (error : ProtocolError)
  | unclassified (text : String)
  deriving DecidableEq, Repr

def Refusal.message : Refusal → String
  | .protocol e => e.message
  | .unclassified text => text

def Refusal.toProtocolError : Refusal → ProtocolError
  | .protocol e => e
  | .unclassified text => .internal text

/-- Updates and deletions say whether there was anything to change. -/
structure Handler (σ : Type) where
  create : Json → Action σ (Except Refusal Uuid)
  update : Uuid → Json → Action σ (Except Refusal Bool)
  delete : Uuid → Action σ (Except Refusal Bool)

inductive Call
  | create (segment : String) (payload : Json)
  | update (segment : String) (id : Uuid) (payload : Json)
  | delete (segment : String) (id : Uuid)
  deriving DecidableEq, Repr

def Handler.recorded (segment : String) (h : Handler σ) : Handler (σ × List Call) where
  create payload := fun (s, calls) =>
    match h.create payload s with
    | (answer, s) => (answer, s, calls ++ [.create segment payload])
  update id payload := fun (s, calls) =>
    match h.update id payload s with
    | (answer, s) => (answer, s, calls ++ [.update segment id payload])
  delete id := fun (s, calls) =>
    match h.delete id s with
    | (answer, s) => (answer, s, calls ++ [.delete segment id])

end Roster
