import Roster.Actor.Basic
import Roster.Resource.Error

namespace Roster

variable {σ δ ι κ υ ε α : Type}

/-- The hooks leave their surroundings alone. `accept` judges what is new, and `revise` gives what an update makes. -/
structure Hooks.Reads (h : Hooks σ ι κ υ ε α) (accept : σ → α → Except ε Unit)
    (revise : σ → υ → α → Except ε α) : Prop where
  onCreate : ∀ a s, h.onCreate a s = ((accept s a, a), s)
  onUpdate : ∀ change a s, ((h.onUpdate change a s).1.1.map fun _ => (h.onUpdate change a s).1.2,
    (h.onUpdate change a s).2) = (revise s change a, s)
  onDelete : ∀ a s, h.onDelete a s = (.ok (), s)

namespace Actor

variable [DecidableEq ι] {h : Hooks σ ι κ υ ε α} {accept : σ → α → Except ε Unit}
  {revise : σ → υ → α → Except ε α}

theorem create_of_reads (hr : h.Reads accept revise) (id : ι) (params : κ) (store : Store ι α) (s : σ) :
    create h id params (store, s) =
      match (do let a ← h.build id params; accept s a; return a) with
      | .error e => (.error (.entity e), store, s)
      | .ok a => (.ok id, store.insert id a, s) := by
  rw [create]
  cases h.build id params with
  | error e => rfl
  | ok a =>
    simp only [hr.onCreate]
    cases ha : accept s a with
    | error e => simp [bind, Except.bind, ha]
    | ok u => simp [bind, Except.bind, ha, pure, Except.pure]

variable [ToString ι]

theorem update_of_reads (hr : h.Reads accept revise) (id : ι) (change : υ) (store : Store ι α) (s : σ) :
    update h id change (store, s) =
      match store.get? id with
      | none => (.error (.notFound (toString id)), store, s)
      | some a =>
        match revise s change a with
        | .error e => (.error (.entity e), store, s)
        | .ok a => (.ok a, store.insert id a, s) := by
  simp only [update]
  cases store.get? id with
  | none => rfl
  | some a =>
    have ha := hr.onUpdate change a s
    rcases hu : h.onUpdate change a s with ⟨⟨e | u, b⟩, s'⟩ <;> simp only [hu, Prod.mk.injEq] at ha <;>
      obtain ⟨hrevise, rfl⟩ := ha <;> simp only [hu, ← hrevise] <;> rfl

theorem delete_of_reads (hr : h.Reads accept revise) (id : ι) (store : Store ι α) (s : σ) :
    delete h id (store, s) =
      match store.get? id with
      | none => (.error (.notFound (toString id)), store, s)
      | some _ => (.ok (), store.erase id, s) := by
  cases hg : store.get? id <;> simp only [delete, hr.onDelete, hg]

end Actor

class LawfulResourceError (ε : Type) [ResourceError ε] : Prop where
  unbox?_box : ∀ e : ε, ResourceError.unbox? (ResourceError.box e) = some e

instance : LawfulResourceError UserError := ⟨fun _ => rfl⟩

instance : LawfulResourceError GroupError := ⟨fun _ => rfl⟩

instance : LawfulResourceError CredentialError := ⟨fun _ => rfl⟩

instance : LawfulResourceError CustomError := ⟨fun _ => rfl⟩

variable [ResourceError ε]

theorem typed_error [LawfulResourceError ε] (e : ε) :
    ((Except.error (.entity e) : Except (Failure ε) β).mapError (·.map ResourceError.box)).mapError
      Failure.typed = .error e := by
  have h : ((Failure.entity e).map ResourceError.box).typed = e := by
    simp only [Failure.map, Failure.typed, LawfulResourceError.unbox?_box, Option.getD_some]
  exact congrArg Except.error h

namespace Actor

variable [DecidableEq ι] [ToString ι] {h : Hooks σ ι κ υ ε α} {accept : σ → α → Except ε Unit}
  {revise : σ → υ → α → Except ε α} {fresh : Action σ ι} {part : δ → Store ι α × σ}
  {replace : Store ι α × σ → δ → δ}

def lodged (h : Hooks σ ι κ υ ε α) (fresh : Action σ ι) (part : δ → Store ι α × σ)
    (replace : Store ι α × σ → δ → δ) : Client δ ι κ υ ε α :=
  (client h fresh).boxed.typed.within part replace

theorem lodged_get (id : ι) (d : δ) :
    (lodged h fresh part replace).get id d = (.ok ((part d).1.get? id), replace (part d) d) := rfl

theorem lodged_delete (hr : h.Reads accept revise) (id : ι) (d : δ) :
    (lodged h fresh part replace).delete id d =
      match (part d).1.get? id with
      | none => (.error (ResourceError.notFound (toString id)), replace (part d) d)
      | some _ => (.ok (), replace ((part d).1.erase id, (part d).2) d) := by
  rcases hp : part d with ⟨store, s⟩
  simp only [lodged, Client.within, Action.within, Client.typed, Client.boxed, Client.mapError, client,
    hp, delete_of_reads hr]
  cases store.get? id <;> rfl

variable [LawfulResourceError ε]

theorem lodged_create (hr : h.Reads accept revise) (params : κ) {d : δ} {id : ι} {s : σ}
    (hfresh : fresh (part d).2 = (id, s)) :
    (lodged h fresh part replace).create params d =
      match (do let a ← h.build id params; accept s a; return a) with
      | .error e => (.error e, replace ((part d).1, s) d)
      | .ok a => (.ok id, replace ((part d).1.insert id a, s) d) := by
  rcases hp : part d with ⟨store, s'⟩
  rw [hp] at hfresh
  simp only [lodged, Client.within, Action.within, Client.typed, Client.boxed, Client.mapError, client,
    hp, hfresh, create_of_reads hr]
  cases (do let a ← h.build id params; accept s a; return a) with
  | error e => exact Prod.ext (typed_error e) rfl
  | ok a => rfl

theorem lodged_update (hr : h.Reads accept revise) (id : ι) (change : υ) (d : δ) :
    (lodged h fresh part replace).update id change d =
      match (part d).1.get? id with
      | none => (.error (ResourceError.notFound (toString id)), replace (part d) d)
      | some a =>
        match revise (part d).2 change a with
        | .error e => (.error e, replace (part d) d)
        | .ok a => (.ok a, replace ((part d).1.insert id a, (part d).2) d) := by
  rcases hp : part d with ⟨store, s⟩
  simp only [lodged, Client.within, Action.within, Client.typed, Client.boxed, Client.mapError, client,
    hp, update_of_reads hr]
  cases store.get? id with
  | none => rfl
  | some a =>
    cases ha : revise s change a with
    | error e =>
      simp only [ha]
      exact Prod.ext (typed_error e) rfl
    | ok b => simp only [ha]; rfl

end Actor

end Roster
