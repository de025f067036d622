namespace Roster

abbrev Action (σ α : Type) := σ → α × σ

def Action.within (part : δ → σ) (replace : σ → δ → δ) (a : Action σ α) : Action δ α := fun d =>
  match a (part d) with
  | (answer, s) => (answer, replace s d)

inductive Failure (ε : Type)
  | closed
  | dropped
  | notFound (id : String)
  | entity (error : ε)
  deriving DecidableEq, Repr

def Failure.map (f : ε → ε') : Failure ε → Failure ε'
  | .closed => .closed
  | .dropped => .dropped
  | .notFound id => .notFound id
  | .entity e => .entity (f e)

def Failure.message (text : ε → String) : Failure ε → String
  | .closed => "Actor closed"
  | .dropped => "Actor dropped response channel"
  | .notFound id => "Item not found: " ++ id
  | .entity e => "Entity error: " ++ text e

structure Client (σ ι κ υ ε α : Type) where
  create : κ → Action σ (Except ε ι)
  get : ι → Action σ (Except ε (Option α))
  update : ι → υ → Action σ (Except ε α)
  delete : ι → Action σ (Except ε Unit)

inductive Request (ι κ υ : Type)
  | create (params : κ)
  | get (id : ι)
  | update (id : ι) (change : υ)
  | delete (id : ι)
  deriving DecidableEq, Repr

inductive Reply (ι α : Type)
  | created (id : ι)
  | found (entity : Option α)
  | updated (entity : α)
  | deleted
  deriving DecidableEq, Repr

namespace Client

variable {σ δ ι κ υ ε ε' α : Type}

def mapError (f : ε → ε') (c : Client σ ι κ υ ε α) : Client σ ι κ υ ε' α where
  create params s := ((c.create params s).1.mapError f, (c.create params s).2)
  get id s := ((c.get id s).1.mapError f, (c.get id s).2)
  update id change s := ((c.update id change s).1.mapError f, (c.update id change s).2)
  delete id s := ((c.delete id s).1.mapError f, (c.delete id s).2)

def within (part : δ → σ) (replace : σ → δ → δ) (c : Client σ ι κ υ ε α) :
    Client δ ι κ υ ε α where
  create params := (c.create params).within part replace
  get id := (c.get id).within part replace
  update id change := (c.update id change).within part replace
  delete id := (c.delete id).within part replace

def failing (e : ε) : Client σ ι κ υ ε α where
  create _ s := (.error e, s)
  get _ s := (.error e, s)
  update _ _ s := (.error e, s)
  delete _ s := (.error e, s)

def send (c : Client σ ι κ υ ε α) : Request ι κ υ → Action σ (Except ε (Reply ι α))
  | .create params, s => ((c.create params s).1.map .created, (c.create params s).2)
  | .get id, s => ((c.get id s).1.map .found, (c.get id s).2)
  | .update id change, s => ((c.update id change s).1.map .updated, (c.update id change s).2)
  | .delete id, s => ((c.delete id s).1.map fun _ => .deleted, (c.delete id s).2)

def sendAll (c : Client σ ι κ υ ε α) : List (Request ι κ υ) → Action σ (List (Except ε (Reply ι α)))
  | [], s => ([], s)
  | r :: rs, s =>
    match c.send r s with
    | (reply, s) =>
      match c.sendAll rs s with
      | (replies, s) => (reply :: replies, s)

end Client

namespace Request

def create? : Request ι κ υ → Option κ
  | .create params => some params
  | _ => none

def update? : Request ι κ υ → Option (ι × υ)
  | .update id change => some (id, change)
  | _ => none

def verb : Request ι κ υ → String
  | .create _ => "create"
  | .get _ => "get"
  | .update .. => "update"
  | .delete _ => "delete"

end Request

end Roster
