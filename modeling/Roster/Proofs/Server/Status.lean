import Roster.Proofs.Batch.Refusal
import Roster.Proofs.Server.Reachable

namespace Roster

namespace Batch

variable (generate : Nat → Uuid) (config : Config) (e : Endpoint Directory) (a : Attempt Directory)

inductive Misses : Prop
  | update {kind : ResourceType} {data payload : Json} {raw : String} {id : Uuid} {change : kind.Revision} :
      a.op.verb = .update → a.op.data = some data → a.before.refs.resolved data = .ok payload →
      Path.parse a.op.path = .ok ⟨kind.segment, some raw⟩ → kind ∈ Directory.kinds config.customTypes →
      a.before.refs.target raw = .ok id → kind.readRevision payload = .ok change →
      a.state.find? kind id = none → Misses
  | delete {kind : ResourceType} {raw : String} {id : Uuid} :
      a.op.verb = .delete → Path.parse a.op.path = .ok ⟨kind.segment, some raw⟩ →
      kind ∈ Directory.kinds config.customTypes → a.before.refs.target raw = .ok id →
      a.state.find? kind id = none → Misses

def Dispatch.Absent (kind : ResourceType) (d : Directory) : Dispatch → Prop
  | .create _ => False
  | .update id payload => (∃ change, kind.readRevision payload = .ok change) ∧ d.find? kind id = none
  | .delete id => d.find? kind id = none

structure StatusExplained : Prop where
  status : a.result.status = 201 ∨ a.result.status = 204 ∨ a.result.status = 400 ∨ a.result.status = 417
  created : a.result.status = 201 → a.op.verb = .create
  changed : a.result.status = 204 → a.op.verb = .update ∨ a.op.verb = .delete
  missed : a.result.status = 417 ↔ Misses config a

variable {generate config e a}

theorem misses_iff (he : Directory.registry generate config.customTypes = .ok e.registry) :
    Misses config a ↔ ∃ (kind : ResourceType) (dispatch : Dispatch),
      a.op.plan e.registry a.before.refs = .ok ⟨kind.segment, Directory.entry generate kind, dispatch⟩ ∧
        dispatch.Absent kind a.state := by
  constructor
  · rintro (⟨hverb, hdata, hpayload, hpath, hkind, hid, hread, hfind⟩ | ⟨hverb, hpath, hkind, hid, hfind⟩)
    · have hresolve := Directory.resolve_segment generate he hkind
      exact ⟨_, _, Operation.plan_eq_ok_iff.2 (.update hverb hdata hpayload hpath hresolve hid),
        ⟨_, hread⟩, hfind⟩
    · have hresolve := Directory.resolve_segment generate he hkind
      exact ⟨_, _, Operation.plan_eq_ok_iff.2 (.delete hverb hpath hresolve hid), hfind⟩
  · rintro ⟨kind, dispatch, hplan, habsent⟩
    have hkind := served_of_plan he hplan
    cases Operation.plan_eq_ok_iff.1 hplan with
    | create => exact habsent.elim
    | update hverb hdata hpayload hpath _ hid =>
      obtain ⟨⟨change, hread⟩, hfind⟩ := habsent
      exact .update hverb hdata hpayload hpath hkind hid hread hfind
    | delete hverb hpath _ hid => exact .delete hverb hpath hkind hid habsent

theorem misses_iff_absent (he : Directory.registry generate config.customTypes = .ok e.registry)
    {kind : ResourceType} {dispatch : Dispatch}
    (hplan : a.op.plan e.registry a.before.refs =
      .ok ⟨kind.segment, Directory.entry generate kind, dispatch⟩) :
    Misses config a ↔ dispatch.Absent kind a.state := by
  rw [misses_iff he]
  refine ⟨fun ⟨kind', dispatch', hplan', habsent⟩ => ?_, fun habsent => ⟨kind, dispatch, hplan, habsent⟩⟩
  have hsame := Except.ok.inj (hplan.symm.trans hplan')
  obtain rfl : kind = kind' := congrArg (fun plan => plan.entry.kind) hsame
  obtain rfl : dispatch = dispatch' := congrArg Plan.dispatch hsame
  exact habsent

namespace StatusExplained

variable {cause : ProtocolError} {effect : Effect} {location : Option String}

theorem of_refused (h : a.outcome = .error cause) (hstatus : cause.status = 400)
    (hmissed : ¬ Misses config a) : StatusExplained config a := by
  have hresult : a.result.status = 400 := by rw [Attempt.result, h, ← hstatus]; rfl
  constructor <;> simp [hresult, hmissed]

theorem of_missed {detail : String} (h : a.outcome = .error (.expectationFailed detail))
    (hmissed : Misses config a) : StatusExplained config a := by
  have hresult : a.result.status = 417 := by rw [Attempt.result, h]; rfl
  constructor <;> simp [hresult, hmissed]

theorem of_created (h : a.outcome = .ok (effect, location)) (hstatus : effect.status = 201)
    (hverb : a.op.verb = .create) (hmissed : ¬ Misses config a) : StatusExplained config a := by
  have hresult : a.result.status = 201 := by rw [Attempt.result, h, ← hstatus]; rfl
  constructor <;> simp [hresult, hverb, hmissed]

theorem of_changed (h : a.outcome = .ok (effect, location)) (hstatus : effect.status = 204)
    (hverb : a.op.verb = .update ∨ a.op.verb = .delete) (hmissed : ¬ Misses config a) :
    StatusExplained config a := by
  have hresult : a.result.status = 204 := by rw [Attempt.result, h, ← hstatus]; rfl
  constructor <;> simp [hresult, hverb, hmissed]

variable (he : Directory.registry generate config.customTypes = .ok e.registry)
  (hd : ∀ kind ∈ Directory.kinds config.customTypes, a.state.Has kind)
  (houtcome : (e.perform a.op a.before.refs a.state).1 = a.outcome)
  {kind : ResourceType} {id : Uuid} {payload : Json}

include he hd houtcome

theorem of_create (hplan : a.op.plan e.registry a.before.refs =
    .ok ⟨kind.segment, Directory.entry generate kind, .create payload⟩) : StatusExplained config a := by
  have hmissed : ¬ Misses config a := fun h => (misses_iff_absent he hplan).1 h
  rw [perform_create (hd kind (served_of_plan he hplan)) hplan] at houtcome
  cases hread : kind.readParams payload with
  | error cause =>
    simp only [hread] at houtcome
    exact .of_refused houtcome.symm (ResourceType.status_of_readParams_error hread) hmissed
  | ok params =>
    simp only [hread] at houtcome
    cases hmake : kind.make a.state.users (generate a.state.issued) params with
    | error error =>
      simp only [hmake] at houtcome
      exact .of_refused houtcome.symm (ResourceType.refuses_of_make hmake).status hmissed
    | ok entity =>
      simp only [hmake] at houtcome
      cases Operation.plan_eq_ok_iff.1 hplan with
      | create hverb => exact .of_created houtcome.symm rfl hverb hmissed

theorem of_update (hplan : a.op.plan e.registry a.before.refs =
    .ok ⟨kind.segment, Directory.entry generate kind, .update id payload⟩) : StatusExplained config a := by
  have hmissed := misses_iff_absent he hplan
  rw [perform_update (hd kind (served_of_plan he hplan)) hplan] at houtcome
  cases hread : kind.readRevision payload with
  | error cause =>
    simp only [hread] at houtcome
    refine .of_refused houtcome.symm (ResourceType.status_of_readRevision_error hread) fun h => ?_
    obtain ⟨⟨change, hchange⟩, -⟩ := hmissed.1 h
    exact nomatch hread.symm.trans hchange
  | ok change =>
    simp only [hread] at houtcome
    cases hfind : a.state.find? kind id with
    | none =>
      simp only [hfind] at houtcome
      exact .of_missed houtcome.symm (hmissed.2 ⟨⟨change, hread⟩, hfind⟩)
    | some entity =>
      have hthere : ¬ Misses config a := fun h => nomatch hfind.symm.trans (hmissed.1 h).2
      simp only [hfind] at houtcome
      cases hrevise : kind.revise a.state.users change entity with
      | error error =>
        simp only [hrevise] at houtcome
        exact .of_refused houtcome.symm (ResourceType.refuses_of_revise hrevise).status hthere
      | ok entity' =>
        simp only [hrevise] at houtcome
        cases Operation.plan_eq_ok_iff.1 hplan with
        | update hverb => exact .of_changed houtcome.symm rfl (.inl hverb) hthere

theorem of_delete (hplan : a.op.plan e.registry a.before.refs =
    .ok ⟨kind.segment, Directory.entry generate kind, .delete id⟩) : StatusExplained config a := by
  have hmissed := misses_iff_absent he hplan
  rw [perform_delete (hd kind (served_of_plan he hplan)) hplan] at houtcome
  cases hfind : a.state.find? kind id with
  | none =>
    simp only [hfind] at houtcome
    exact .of_missed houtcome.symm (hmissed.2 hfind)
  | some entity =>
    simp only [hfind] at houtcome
    cases Operation.plan_eq_ok_iff.1 hplan with
    | delete hverb =>
      exact .of_changed houtcome.symm rfl (.inr hverb) fun h => nomatch hfind.symm.trans (hmissed.1 h)

theorem of_perform : StatusExplained config a := by
  -- An operation that fails a check misses nothing, as whatever misses something has a plan.
  cases hplan : a.op.plan e.registry a.before.refs with
  | error cause =>
    rw [e.perform_of_error hplan] at houtcome
    refine .of_refused houtcome.symm (Operation.status_of_plan_error hplan) fun h => ?_
    obtain ⟨kind, dispatch, hplan', -⟩ := (misses_iff he).1 h
    exact nomatch hplan.symm.trans hplan'
  | ok plan =>
    obtain ⟨kind, -, heq⟩ := Operation.entry_of_plan he hplan
    obtain ⟨segment, entry, dispatch⟩ := plan
    obtain ⟨rfl, rfl, -⟩ := Plan.mk.inj heq
    cases dispatch with
    | create payload => exact .of_create he hd houtcome hplan
    | update id payload => exact .of_update he hd houtcome hplan
    | delete id => exact .of_delete he hd houtcome hplan

end StatusExplained

end Batch

namespace Server

open Batch

variable {generate : Nat → Uuid} {config : Config} {s : Server} {e : Endpoint Directory}

theorem Reachable.attempt_statusExplained (hs : Reachable generate config s) (he : e.registry = s.registry)
    (op : Operation) (p : Progress) : StatusExplained config (e.attempt op p s.directory) :=
  .of_perform (he ▸ hs.registry_eq) hs.has rfl

theorem Reachable.statusExplained (hs : Reachable generate config s) (he : e.registry = s.registry) :
    (∀ op p, StatusExplained config (e.attempt op p s.directory)) ∧
      ∀ (caller : Caller Directory) (r : Batch.Request),
        ∀ a ∈ (e.start caller r s.directory).attempts, StatusExplained config a := by
  refine ⟨hs.attempt_statusExplained he, fun caller r a ha => ?_⟩
  obtain ⟨i, hi⟩ := List.getElem?_of_mem ha
  rw [← e.made_of_start hi]
  exact (hs.attempt he ha).1.attempt_statusExplained he a.op a.before

def repeated : Batch.Request where
  errorBudget := some 3
  operations := [.create "door" "Devices" (.object [("floor", .string "1")]),
    .update "Devices/placeholder-ref:door" (.object [("floor", .string "1")]),
    .delete "Devices/placeholder-ref:door",
    .update "Devices/placeholder-ref:door" (.object [("floor", .string "1")]),
    .update "Devices/placeholder-ref:door" (.string "1"),
    .delete "Devices/placeholder-ref:door"]

theorem Reachable.statusExplained_repeated : ∃ (s : Server) (e : Endpoint Directory), Reachable counted {} s ∧
    e.registry = s.registry ∧
    (e.start {} repeated s.directory).attempts.map (fun a => a.result.status) =
      [201, 204, 204, 417, 400, 417] ∧
    ∀ a ∈ (e.start {} repeated s.directory).attempts, StatusExplained {} a := by
  obtain ⟨s, hs⟩ : ∃ s, Server.start .bounded counted {} = .ok s := ⟨_, rfl⟩
  have hreachable : Reachable counted {} s := .start hs
  have hexplained := (Reachable.statusExplained hreachable (e := ⟨s.registry, {}, none⟩) rfl).2 {} repeated
  cases hs
  exact ⟨_, _, hreachable, rfl, by decide, hexplained⟩

end Server

end Roster
