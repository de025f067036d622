import Roster.Actor.Basic

namespace Roster

variable {σ ι κ υ ε α : Type}

structure Turn (σ ι κ υ ε α : Type) where
  request : Request ι κ υ
  before : σ
  answer : Except ε (Reply ι α)
  after : σ

namespace Client

def turn (c : Client σ ι κ υ ε α) (q : Request ι κ υ) (s : σ) : Turn σ ι κ υ ε α :=
  ⟨q, s, (c.send q s).1, (c.send q s).2⟩

def turns (c : Client σ ι κ υ ε α) : List (Request ι κ υ) → σ → List (Turn σ ι κ υ ε α)
  | [], _ => []
  | q :: qs, s => c.turn q s :: c.turns qs (c.send q s).2

variable (c : Client σ ι κ υ ε α)

theorem sendAll_cons (q : Request ι κ υ) (qs : List (Request ι κ υ)) (s : σ) :
    c.sendAll (q :: qs) s =
      ((c.send q s).1 :: (c.sendAll qs (c.send q s).2).1, (c.sendAll qs (c.send q s).2).2) := rfl

end Client

namespace Actor

variable [DecidableEq ι] [ToString ι] (h : Hooks σ ι κ υ ε α) (fresh : Action σ ι)

inductive Handled : Turn (Store ι α × σ) ι κ υ (Failure ε) α → Prop
  | unbuilt {params : κ} {store : Store ι α} {s : σ} {e : ε} : h.build (fresh s).1 params = .error e →
      Handled ⟨.create params, (store, s), .error (.entity e), (store, (fresh s).2)⟩
  | refused {params : κ} {store : Store ι α} {s s' : σ} {a b : α} {e : ε} :
      h.build (fresh s).1 params = .ok a → h.onCreate a (fresh s).2 = ((.error e, b), s') →
      Handled ⟨.create params, (store, s), .error (.entity e), (store, s')⟩
  | created {params : κ} {store : Store ι α} {s s' : σ} {a b : α} :
      h.build (fresh s).1 params = .ok a → h.onCreate a (fresh s).2 = ((.ok (), b), s') →
      Handled ⟨.create params, (store, s), .ok (.created (fresh s).1), (store.insert (fresh s).1 b, s')⟩
  | found {id : ι} {store : Store ι α} {s : σ} :
      Handled ⟨.get id, (store, s), .ok (.found (store.get? id)), (store, s)⟩
  | updateMissed {id : ι} {change : υ} {store : Store ι α} {s : σ} : store.get? id = none →
      Handled ⟨.update id change, (store, s), .error (.notFound (toString id)), (store, s)⟩
  | updateFailed {id : ι} {change : υ} {store : Store ι α} {s s' : σ} {a b : α} {e : ε} :
      store.get? id = some a → h.onUpdate change a s = ((.error e, b), s') →
      Handled ⟨.update id change, (store, s), .error (.entity e), (store, s')⟩
  | updated {id : ι} {change : υ} {store : Store ι α} {s s' : σ} {a b : α} :
      store.get? id = some a → h.onUpdate change a s = ((.ok (), b), s') →
      Handled ⟨.update id change, (store, s), .ok (.updated b), (store.insert id b, s')⟩
  | deleteMissed {id : ι} {store : Store ι α} {s : σ} : store.get? id = none →
      Handled ⟨.delete id, (store, s), .error (.notFound (toString id)), (store, s)⟩
  | deleteFailed {id : ι} {store : Store ι α} {s s' : σ} {a : α} {e : ε} :
      store.get? id = some a → h.onDelete a s = (.error e, s') →
      Handled ⟨.delete id, (store, s), .error (.entity e), (store, s')⟩
  | deleted {id : ι} {store : Store ι α} {s s' : σ} {a : α} :
      store.get? id = some a → h.onDelete a s = (.ok (), s') →
      Handled ⟨.delete id, (store, s), .ok .deleted, (store.erase id, s')⟩

theorem handled_create (params : κ) (store : Store ι α) (s : σ) :
    Handled h fresh ((client h fresh).turn (.create params) (store, s)) := by
  simp only [Client.turn, Client.send, client, create]
  cases hbuild : h.build (fresh s).1 params with
  | error e => exact .unbuilt hbuild
  | ok a =>
    rcases hcreate : h.onCreate a (fresh s).2 with ⟨⟨e | _, b⟩, s'⟩
    · simp only [hcreate]; exact .refused hbuild hcreate
    · simp only [hcreate]; exact .created hbuild hcreate

theorem handled_update (id : ι) (change : υ) (store : Store ι α) (s : σ) :
    Handled h fresh ((client h fresh).turn (.update id change) (store, s)) := by
  simp only [Client.turn, Client.send, client, update]
  cases hget : store.get? id with
  | none => exact .updateMissed hget
  | some a =>
    rcases hupdate : h.onUpdate change a s with ⟨⟨e | _, b⟩, s'⟩
    · simp only [hupdate]; exact .updateFailed hget hupdate
    · simp only [hupdate]; exact .updated hget hupdate

theorem handled_delete (id : ι) (store : Store ι α) (s : σ) :
    Handled h fresh ((client h fresh).turn (.delete id) (store, s)) := by
  simp only [Client.turn, Client.send, client, delete]
  cases hget : store.get? id with
  | none => exact .deleteMissed hget
  | some a =>
    rcases hdelete : h.onDelete a s with ⟨e | _, s'⟩
    · simp only [hdelete]; exact .deleteFailed hget hdelete
    · simp only [hdelete]; exact .deleted hget hdelete

theorem handled_turn (q : Request ι κ υ) (st : Store ι α × σ) :
    Handled h fresh ((client h fresh).turn q st) := by
  obtain ⟨store, s⟩ := st
  cases q with
  | create params => exact handled_create h fresh params store s
  | get id => exact .found
  | update id change => exact handled_update h fresh id change store s
  | delete id => exact handled_delete h fresh id store s

/-- An actor, from its start, with the requests that it has answered, the latest last. Between them others may do
something to the context of its entities. -/
inductive History (others : σ → σ → Prop) (s₀ : σ) :
    List (Turn (Store ι α × σ) ι κ υ (Failure ε) α) → Store ι α × σ → Prop
  | start : History others s₀ [] (∅, s₀)
  | others {ts : List (Turn (Store ι α × σ) ι κ υ (Failure ε) α)} {store : Store ι α} {s s' : σ} :
      others s s' → History others s₀ ts (store, s) → History others s₀ ts (store, s')
  | turn {ts : List (Turn (Store ι α × σ) ι κ υ (Failure ε) α)} {st : Store ι α × σ} (q : Request ι κ υ) :
      History others s₀ ts st →
      History others s₀ (ts ++ [(client h fresh).turn q st]) ((client h fresh).send q st).2

namespace History

variable {h fresh} {others : σ → σ → Prop} {s₀ : σ} {st : Store ι α × σ}
  {ts : List (Turn (Store ι α × σ) ι κ υ (Failure ε) α)} {t : Turn (Store ι α × σ) ι κ υ (Failure ε) α}

theorem sendAll (hist : History h fresh others s₀ ts st) (qs : List (Request ι κ υ)) :
    History h fresh others s₀ (ts ++ (client h fresh).turns qs st) ((client h fresh).sendAll qs st).2 := by
  induction qs generalizing ts st with
  | nil => simpa [Client.turns, Client.sendAll] using hist
  | cons q qs ih =>
    rw [Client.turns, List.append_cons]
    exact ih (hist.turn q)

theorem take (hist : History h fresh others s₀ ts st) {i : Nat} (ht : ts[i]? = some t) :
    History h fresh others s₀ (ts.take i) t.before ∧ Handled h fresh t := by
  induction hist with
  | start => simp at ht
  | others _ _ ih => exact ih ht
  | @turn ts st q hist ih =>
    obtain hlt | rfl | hgt := Nat.lt_trichotomy i ts.length
    · rw [List.getElem?_append_left hlt] at ht
      rw [List.take_append_of_le_length (Nat.le_of_lt hlt)]
      exact ih ht
    · rw [List.getElem?_concat_length, Option.some.injEq] at ht
      subst ht
      rw [List.take_left]
      exact ⟨hist, handled_turn h fresh q st⟩
    · rw [List.getElem?_eq_none (by simpa [Nat.succ_le_iff] using hgt)] at ht
      cases ht

end History

end Actor

end Roster
