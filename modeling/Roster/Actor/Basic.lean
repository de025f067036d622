import Roster.Actor.Client
import Roster.Actor.Store

/-! The actor that keeps the entities of one kind.  It answers one request at a time; a request that is answered with an
error leaves the store as it was. -/

namespace Roster

/-- How entities are built, checked and changed, with `σ` around them. `onCreate` and `onUpdate` say how they left the
entity even when they fail. -/
structure Hooks (σ ι κ υ ε α : Type) where
  build : ι → κ → Except ε α
  onCreate : α → Action σ (Except ε Unit × α) := fun a s => ((.ok (), a), s)
  onUpdate : υ → α → Action σ (Except ε Unit × α)
  onDelete : α → Action σ (Except ε Unit) := fun _ s => (.ok (), s)

namespace Actor

variable {σ ι κ υ ε α : Type} [DecidableEq ι] [ToString ι] (h : Hooks σ ι κ υ ε α)

def create (id : ι) (params : κ) : Action (Store ι α × σ) (Except (Failure ε) ι) :=
  fun (store, s) =>
    match h.build id params with
    | .error e => (.error (.entity e), store, s)
    | .ok entity =>
      match h.onCreate entity s with
      | ((.error e, _), s) => (.error (.entity e), store, s)
      | ((.ok (), entity), s) => (.ok id, store.insert id entity, s)

def get (id : ι) : Action (Store ι α × σ) (Except (Failure ε) (Option α)) :=
  fun (store, s) => (.ok (store.get? id), store, s)

def update (id : ι) (change : υ) : Action (Store ι α × σ) (Except (Failure ε) α) :=
  fun (store, s) =>
    match store.get? id with
    | none => (.error (.notFound (toString id)), store, s)
    | some entity =>
      match h.onUpdate change entity s with
      | ((.error e, _), s) => (.error (.entity e), store, s)
      | ((.ok (), entity), s) => (.ok entity, store.insert id entity, s)

def delete (id : ι) : Action (Store ι α × σ) (Except (Failure ε) Unit) :=
  fun (store, s) =>
    match store.get? id with
    | none => (.error (.notFound (toString id)), store, s)
    | some entity =>
      match h.onDelete entity s with
      | (.error e, s) => (.error (.entity e), store, s)
      | (.ok (), s) => (.ok (), store.erase id, s)

/-- The client of a running actor. Every create request takes a fresh identifier, whatever becomes of it. -/
def client (fresh : Action σ ι) : Client (Store ι α × σ) ι κ υ (Failure ε) α where
  create params := fun (store, s) =>
    match fresh s with
    | (id, s) => create h id params (store, s)
  get := get
  update := update h
  delete := delete h

end Actor

end Roster
