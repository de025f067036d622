import Mathlib.Logic.Relation
import Roster.Proofs.Directory.Step
import Roster.Server

namespace Roster.Server

inductive Event
  | request (kind : ResourceType) (q : Request Uuid kind.Params kind.Revision)
      (answer : Except kind.Error (Reply Uuid kind.Entity))
  | operation (op : Batch.Operation) (outcome : Batch.Outcome)

/-- A server with all that happened since its start, the latest last.  Operations of batches are performed one at a time,
and in between others may do something. -/
inductive History (generate : Nat → Uuid) (config : Config) : List Event → Server → Prop
  | start {mailboxes : Mailboxes} {s : Server} :
      Server.start mailboxes generate config = .ok s → History generate config [] s
  | hold {log : List Event} {s : Server} :
      History generate config log s → History generate config log s.hold
  | release {log : List Event} {s : Server} :
      History generate config log s → History generate config log s.release
  | shutdown {log : List Event} {s : Server} :
      History generate config log s → History generate config log s.shutdown.2
  | request {log : List Event} {s : Server} {kind : ResourceType}
      (q : Request Uuid kind.Params kind.Revision) :
      kind ∈ Directory.kinds config.customTypes → History generate config log s →
      History generate config
        (log ++ [.request kind q (s.act ((Directory.client generate kind).send q)).1])
        (s.act ((Directory.client generate kind).send q)).2
  | operation {log : List Event} {s : Server} {e : Batch.Endpoint Directory} (op : Batch.Operation)
      (refs : Batch.References) : e.registry = s.registry → History generate config log s →
      History generate config (log ++ [.operation op (s.act (e.perform op refs)).1])
        (s.act (e.perform op refs)).2

def Reachable (generate : Nat → Uuid) (config : Config) (s : Server) : Prop := ∃ log, History generate config log s

variable {mailboxes : Mailboxes} {generate : Nat → Uuid} {config : Config} {log : List Event} {s : Server}

theorem start_eq_ok (h : start mailboxes generate config = .ok s) :
    Directory.registry generate config.customTypes = .ok s.registry ∧ s.directory = .empty config.customTypes := by
  rw [start] at h
  obtain ⟨-, -, h⟩ := Except.bind_eq_ok.1 h
  obtain ⟨r, hr, hs⟩ := Except.bind_eq_ok.1 h
  obtain rfl := Except.ok.inj hs
  exact ⟨Except.mapError_eq_ok.1 hr, rfl⟩

namespace History

theorem registry_eq (h : History generate config log s) :
    Directory.registry generate config.customTypes = .ok s.registry := by
  induction h with
  | start h => exact (start_eq_ok h).1
  | hold _ ih => exact ih
  | release _ ih => exact ih
  | shutdown _ ih => exact ih
  | request _ _ _ ih => exact ih
  | operation _ _ _ _ ih => exact ih

theorem has_and_steps (h : History generate config log s) :
    (∀ kind ∈ Directory.kinds config.customTypes, s.directory.Has kind) ∧
      Relation.ReflTransGen (Directory.Step generate) (.empty config.customTypes) s.directory := by
  induction h with
  | start h =>
    rw [(start_eq_ok h).2]
    refine ⟨fun kind hkind => Directory.has_empty fun name hname => ?_, .refl⟩
    simpa [hname, Directory.kinds] using hkind
  | hold _ ih => exact ih
  | release _ ih => exact ih
  | shutdown _ ih => exact ih
  | request q hkind _ ih =>
    have hstep : Directory.Step generate _ _ := Directory.send_step (ih.1 _ hkind) q
    exact ⟨fun kind hk => hstep.has (ih.1 kind hk), ih.2.tail hstep⟩
  | operation op refs he hs ih =>
    have hregistry := he ▸ hs.registry_eq
    have hperformed : Batch.Performed generate _ op refs _ _ _ := Batch.perform_performed hregistry ih.1
    have hstep := hperformed.step hregistry
    exact ⟨fun kind hk => hstep.has (ih.1 kind hk), ih.2.tail hstep⟩

end History

namespace Reachable

theorem start (h : Server.start mailboxes generate config = .ok s) : Reachable generate config s := ⟨[], .start h⟩

theorem operation {e : Batch.Endpoint Directory} (h : Reachable generate config s) (he : e.registry = s.registry)
    (op : Batch.Operation) (refs : Batch.References) : Reachable generate config (s.act (e.perform op refs)).2 := by
  obtain ⟨log, h⟩ := h
  exact ⟨_, h.operation op refs he⟩

theorem registry_eq (h : Reachable generate config s) :
    Directory.registry generate config.customTypes = .ok s.registry := by
  obtain ⟨log, h⟩ := h
  exact h.registry_eq

theorem has (h : Reachable generate config s) :
    ∀ kind ∈ Directory.kinds config.customTypes, s.directory.Has kind := by
  obtain ⟨log, h⟩ := h
  exact h.has_and_steps.1

theorem invariant {P : Directory → Prop} (h : Reachable generate config s)
    (hempty : P (.empty config.customTypes)) (hstep : ∀ d d', Directory.Step generate d d' → P d → P d') :
    P s.directory := by
  obtain ⟨log, h⟩ := h
  have hsteps := h.has_and_steps.2
  generalize s.directory = d at hsteps
  induction hsteps with
  | refl => exact hempty
  | tail _ hlast ih => exact hstep _ _ hlast ih

theorem issued (h : Reachable generate config s) : s.directory.Issued generate :=
  h.invariant (Directory.issued_empty config.customTypes) fun _ _ hstep hd => hstep.issued hd

theorem attempt (h : Reachable generate config s) {e : Batch.Endpoint Directory}
    (he : e.registry = s.registry) {caller : Batch.Caller Directory} {r : Batch.Request}
    {a : Batch.Attempt Directory} (ha : a ∈ (e.start caller r s.directory).attempts) :
    Reachable generate config { s with directory := a.state } ∧
      Reachable generate config { s with directory := a.after } :=
  e.start_invariant (P := fun d => Reachable generate config { s with directory := d })
    (fun op refs _ hd => hd.operation he op refs) h ha

theorem execute (h : Reachable generate config s) {e : Batch.Endpoint Directory}
    (he : e.registry = s.registry) (caller : Batch.Caller Directory) (r : Batch.Request) :
    Reachable generate config (s.act (e.execute caller r)).2 :=
  e.execute_invariant (P := fun d => Reachable generate config { s with directory := d })
    (fun op refs _ hd => hd.operation he op refs) h

end Reachable

def counted (n : Nat) : Uuid := ⟨.ofNat 128 n⟩

def plain : Config := { customTypes := [] }

def staff : Batch.Request where
  errorBudget := none
  operations := [.create "ada" "Users" (.object [("userName", .string "Ada")]),
    .create "staff" "Groups" (.object [("displayName", .string "Staff"),
      ("members", .array [.object [("value", .string "placeholder-ref:ada")]])])]

end Roster.Server
