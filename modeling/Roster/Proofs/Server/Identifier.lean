import Roster.Proofs.Actor.Identifier
import Roster.Proofs.Server.Effect
import Roster.Proofs.Server.History

/-! The identifiers of a server.  All its actors take them from one sequence, and none is given to two resources. -/

namespace Roster

open Batch (Endpoint)

variable {generate : Nat → Uuid}

theorem Directory.Step.issued_le {d d' : Directory} (h : Step generate d d') : d.issued ≤ d'.issued := by
  obtain ⟨n, h⟩ := h
  cases h with
  | stay => exact Nat.le_refl _
  | draw => simp
  | create => simp
  | update => simp
  | delete => simp

theorem NeverRepeats.nodup {n : Nat} (h : NeverRepeats generate n) : ((List.range n).map generate).Nodup := by
  rw [List.Nodup, List.pairwise_map]
  refine List.pairwise_lt_range.imp_of_mem fun _ hj hij => ?_
  exact h _ _ hij (List.mem_range.1 hj)

namespace Server

def Event.created? : Event → Option Uuid
  | .request _ (.create _) (.ok (.created id)) => some id
  | .operation _ (.ok (.created id, _)) => some id
  | _ => none

inductive Gives (generate : Nat → Uuid) (d : Directory) : Option Uuid → Directory → Prop
  | nothing {d' : Directory} : d.issued ≤ d'.issued → Gives generate d none d'
  | next {d' : Directory} : d'.issued = d.issued + 1 → Gives generate d (some (generate d.issued)) d'

theorem gives_send {d : Directory} {kind : ResourceType} (hd : d.Has kind)
    (q : Request Uuid kind.Params kind.Revision) :
    Gives generate d (Event.request kind q ((Directory.client generate kind).send q d).1).created?
      ((Directory.client generate kind).send q d).2 := by
  have hstep : Directory.Step generate d _ := Directory.send_step hd q
  have hle := hstep.issued_le
  cases q with
  | create params =>
    rw [Client.send, Directory.client_create generate hd]
    cases kind.make d.users (generate d.issued) params with
    | error e => exact .nothing (Nat.le_succ _)
    | ok a => exact .next (by simp)
  | get | update | delete => exact .nothing hle

theorem gives_perform {customTypes : List String} {d : Directory} {e : Endpoint Directory} {op : Batch.Operation}
    {refs : Batch.References} (he : Directory.registry generate customTypes = .ok e.registry)
    (hd : ∀ kind ∈ Directory.kinds customTypes, d.Has kind) :
    Gives generate d (Event.operation op (e.perform op refs d).1).created? (e.perform op refs d).2 := by
  have hperformed : Batch.Performed generate e op refs d _ _ := Batch.perform_performed he hd
  have hle := (hperformed.step he).issued_le
  generalize e.perform op refs d = result at hperformed hle ⊢
  obtain ⟨outcome, d'⟩ := result
  cases hperformed with
  | created => exact .next (by simp)
  | refused | rejected | modified | removed => exact .nothing hle

theorem Gives.sublist {d d' : Directory} {id : Option Uuid} (h : Gives generate d id d') {ids : List Uuid}
    (hids : ids.Sublist ((List.range d.issued).map generate)) :
    (ids ++ id.toList).Sublist ((List.range d'.issued).map generate) := by
  cases h with
  | nothing hle =>
    rw [Option.toList_none, List.append_nil]
    exact hids.trans ((List.range_sublist.2 hle).map generate)
  | next hissued =>
    rw [hissued, List.range_succ, List.map_append]
    exact hids.append (.refl _)

theorem History.created_sublist {config : Config} {log : List Event} {s : Server}
    (h : History generate config log s) :
    (log.filterMap Event.created?).Sublist ((List.range s.directory.issued).map generate) := by
  induction h with
  | start => exact List.nil_sublist _
  | hold _ ih => exact ih
  | release _ ih => exact ih
  | shutdown _ ih => exact ih
  | request q hkind hs ih =>
    rw [filterMap_append_singleton]
    exact (gives_send (hs.has_and_steps.1 _ hkind) q).sublist ih
  | operation op refs he hs ih =>
    rw [filterMap_append_singleton]
    exact (gives_perform (he ▸ hs.registry_eq) hs.has_and_steps.1).sublist ih

/-- The results 201 are those of creations, and no two are of one identifier. -/
structure CreatedApart (log : List Event) : Prop where
  distinct : (log.filterMap Event.created?).Nodup
  status : ∀ a : Batch.Attempt Directory, a.result.status = 201 ↔ (Event.ofAttempt a).created?.isSome
  location : ∀ (e : Endpoint Directory) (a : Batch.Attempt Directory), e.attempt a.op a.before a.state = a →
    ∀ id ∈ (Event.ofAttempt a).created?, ∃ segment, a.result.location = some (e.location segment id)

theorem status_eq_created_iff (a : Batch.Attempt Directory) :
    a.result.status = 201 ↔ (Event.ofAttempt a).created?.isSome := by
  obtain ⟨op, before, d, outcome, d'⟩ := a
  cases outcome with
  | error cause =>
    have hstatus : cause.status ≠ 201 := (Batch.status_ne_of_error cause).1
    exact ⟨fun h => absurd h hstatus, nofun⟩
  | ok done =>
    obtain ⟨effect, location⟩ := done
    cases effect with
    | created id => exact ⟨fun _ => rfl, fun _ => rfl⟩
    | modified id | removed id => exact ⟨nofun, nofun⟩

theorem location_of_created {e : Endpoint Directory} {a : Batch.Attempt Directory}
    (ha : e.attempt a.op a.before a.state = a) {id : Uuid} (hid : (Event.ofAttempt a).created? = some id) :
    ∃ segment, a.result.location = some (e.location segment id) := by
  have hperform := e.perform_of_made ha
  obtain ⟨op, before, d, outcome, d'⟩ := a
  obtain cause | ⟨effect, location⟩ := outcome
  · cases hid
  obtain ⟨plan, -, rfl, -⟩ := e.perform_eq_ok hperform
  cases effect with
  | created id' =>
    obtain rfl := Option.some.inj hid
    exact ⟨plan.segment, rfl⟩
  | modified id' | removed id' => cases hid

theorem History.createdApart {config : Config} {log : List Event} {s : Server}
    (h : History generate config log s) (hgen : NeverRepeats generate s.directory.issued) : CreatedApart log where
  distinct := h.created_sublist.nodup hgen.nodup
  status := status_eq_created_iff
  location _ _ ha _ hid := location_of_created ha hid

theorem neverRepeats_counted {n : Nat} (h : n ≤ 2 ^ 128) : NeverRepeats counted n := by
  intro i j hij hj heq
  have hbits := congrArg (fun id => id.bits.toNat) heq
  simp only [counted, BitVec.toNat_ofNat] at hbits
  rw [Nat.mod_eq_of_lt (by omega), Nat.mod_eq_of_lt (by omega)] at hbits
  omega

end Server

theorem identifiersUsedOnce :
    (∀ {σ ι κ υ ε α : Type} [DecidableEq ι] [ToString ι] (h : Hooks σ ι κ υ ε α) (fresh : Action σ ι)
      (others : σ → σ → Prop) (generate : Nat → ι) (drawn : σ → Nat) (s₀ : σ)
      (ts : List (Turn (Store ι α × σ) ι κ υ (Failure ε) α)) (st : Store ι α × σ),
      Actor.Draws h fresh others generate drawn → drawn s₀ = 0 → Actor.History h fresh others s₀ ts st →
      (Set.Iio (ts.countP Turn.creates)).InjOn generate → Actor.UsedOnce h fresh generate drawn ts st) ∧
    ∀ (generate : Nat → Uuid) (config : Config) (log : List Server.Event) (s : Server),
      Server.History generate config log s → NeverRepeats generate s.directory.issued →
      Server.CreatedApart log :=
  ⟨fun _ _ _ _ _ _ _ _ hd hstart hist hgen => hist.usedOnce hd hstart hgen,
    fun _ _ _ _ hist hgen => hist.createdApart hgen⟩

theorem identifiersUsedOnce_purse_office :
    (∃ ts st, Actor.History Actor.purse.beside (Actor.drawBeside (10 * ·)) (fun s s' => s'.2 = s.2) (0, 0) ts st ∧
      ts.map Turn.answer = [.error (.entity "empty"), .ok (.created 10), .error (.entity "heavy"),
        .ok (.created 30), .ok .deleted, .ok (.found none), .error (.notFound "30"), .ok (.updated 6)] ∧
      ts.countP Turn.creates = 4 ∧ st.1.size = 1 ∧
      Actor.UsedOnce Actor.purse.beside (Actor.drawBeside (10 * ·)) (10 * ·) Prod.snd ts st) ∧
    ∃ log s, Server.History Server.counted {} log s ∧
      log.filterMap Server.Event.created? = (List.range 4).map Server.counted ∧
      NeverRepeats Server.counted s.directory.issued ∧ Server.CreatedApart log := by
  constructor
  · have hstart : Actor.History Actor.purse.beside (Actor.drawBeside (10 * ·)) (fun s s' => s'.2 = s.2) (0, 0)
        [] (∅, 0, 0) := .start
    have hend := hstart.sendAll [.create 0, .create 4, .create 20, .create 2, .delete 30, .get 30, .update 30 1,
      .update 10 1]
    have hd : Actor.Draws Actor.purse.beside _ (fun s s' => s'.2 = s.2) (10 * ·) Prod.snd :=
      Actor.draws_beside _ _ fun _ _ h => h
    refine ⟨_, _, hend, rfl, rfl, rfl,
      identifiersUsedOnce.1 _ _ _ _ _ _ _ _ hd rfl hend fun i _ j _ heq => ?_⟩
    exact Nat.eq_of_mul_eq_mul_left (by decide) heq
  · obtain ⟨s, hs⟩ : ∃ s, Server.start .bounded Server.counted {} = .ok s := ⟨_, rfl⟩
    have hend := (Server.History.start hs).batch (e := ⟨s.registry, {}, none⟩) {} (r := Server.office) rfl rfl
    cases hs
    have hgen := Server.neverRepeats_counted (n := 4) (by decide)
    exact ⟨_, _, hend, rfl, hgen, identifiersUsedOnce.2 _ _ _ _ hend hgen⟩

end Roster
