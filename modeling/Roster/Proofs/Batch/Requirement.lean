import Roster.Proofs.Batch.Calls
import Roster.Proofs.Batch.Path
import Roster.Proofs.Batch.Reference

/-! The requirements of an operation.  They are looked at one after the other.  The first that is not met decides the error,
and when all are met one handler is called once. -/

namespace Roster.Batch

variable {σ : Type}

/-- What is looked at before a handler is called, in this order. -/
inductive Requirement
  | data
  | name
  | references
  | path
  | segment
  | shape
  | identifier
  deriving DecidableEq, Repr

inductive References.Identifies (refs : References) : String → Prop
  | reference {token : String} : (refs.get? token).isSome → Identifies refs (refer token)
  | text {raw : String} {id : Uuid} : (∀ token, raw ≠ refer token) → Uuid.parse raw = .ok id → Identifies refs raw

def References.FirstUnresolved (refs : References) (texts : List String) (token : String) : Prop :=
  ∃ before after, texts = before ++ refer token :: after ∧ refs.get? token = none ∧
    ∀ known, refer known ∈ before → (refs.get? known).isSome

namespace Requirement

def place : Requirement → Nat
  | .data => 0
  | .name => 1
  | .references => 2
  | .path => 3
  | .segment => 4
  | .shape => 5
  | .identifier => 6

def keyword (verb : Verb) : Requirement → Keyword
  | .data | .name => .invalidSyntax
  | .references | .identifier => .invalidValue
  | .path | .segment => .invalidPath
  | .shape => if verb = .create then .invalidPath else .invalidValue

def Met (registry : Registry σ) (refs : References) (op : Operation) : Requirement → Prop
  | .data => op.verb = .delete ∨ op.data ≠ none
  | .name => op.verb = .create → ∃ name, op.bulkId = some name ∧ name ≠ ""
  | .references => op.verb ≠ .delete → ∀ data ∈ op.data, ∀ token, refer token ∈ data.texts →
      (refs.get? token).isSome
  | .path => ∃ p : Path, p.Spells op.path
  | .segment => ∀ p : Path, p.Spells op.path → (registry.get? p.segment).isSome
  | .shape => ∀ p : Path, p.Spells op.path → (op.verb = .create ↔ p.identifier = none)
  | .identifier => op.verb ≠ .create → ∀ p : Path, p.Spells op.path → ∀ raw ∈ p.identifier, refs.Identifies raw

inductive Cause (refs : References) (op : Operation) : Requirement → ProtocolError → Prop
  | data : Cause refs op .data (.invalidSyntax (op.method.name ++ " operation requires data"))
  | name : Cause refs op .name (.invalidSyntax "create operation requires a non-empty bulkId")
  | references {data : Json} {token : String} : op.data = some data → refs.FirstUnresolved data.texts token →
    Cause refs op .references (References.unknown token)
  | path : Cause refs op .path (Path.malformed op.path)
  | segment {p : Path} : p.Spells op.path →
    Cause refs op .segment (.invalidPath ("no resource is registered at '" ++ p.segment ++ "'"))
  | surplus : op.verb = .create →
    Cause refs op .shape (.invalidPath ("create path '" ++ op.path ++ "' must not name a resource"))
  | missing : op.verb ≠ .create →
    Cause refs op .shape (.invalidValue ("path '" ++ op.path ++ "' must name a resource"))
  | unknown {segment token : String} : (⟨segment, some (refer token)⟩ : Path).Spells op.path →
    Cause refs op .identifier (References.unknown token)
  | unreadable {segment raw : String} : (⟨segment, some raw⟩ : Path).Spells op.path → (∀ token, raw ≠ refer token) →
    Cause refs op .identifier (.invalidValue ("'" ++ raw ++ "' is not a valid resource id"))

structure FirstUnmet (registry : Registry σ) (refs : References) (op : Operation) (c : Requirement) : Prop where
  unmet : ¬ c.Met registry refs op
  earlier : ∀ c' : Requirement, c'.place < c.place → c'.Met registry refs op

variable {registry : Registry σ} {refs : References} {op : Operation} {cause : ProtocolError}

theorem Cause.keyword {c : Requirement} (h : c.Cause refs op cause) :
    cause.keyword = some (c.keyword op.verb) := by
  cases h with
  | surplus hverb => simp [ProtocolError.keyword, ProtocolError.invalidPath, Requirement.keyword, hverb]
  | missing hverb => simp [ProtocolError.keyword, ProtocolError.invalidValue, Requirement.keyword, hverb]
  | data | name | references | path | segment | unknown | unreadable => rfl

theorem place_injective : Function.Injective place := by
  intro c c' h
  cases c <;> cases c' <;> first | rfl | cases h

theorem FirstUnmet.unique {c c' : Requirement} (h : c.FirstUnmet registry refs op)
    (h' : c'.FirstUnmet registry refs op) : c = c' := by
  rcases Nat.lt_trichotomy c.place c'.place with hlt | heq | hlt
  · exact absurd (h'.earlier c hlt) h.unmet
  · exact place_injective heq
  · exact absurd (h.earlier c' hlt) h'.unmet

inductive Checked (registry : Registry σ) (refs : References) (op : Operation) (c : Requirement) {α : Type} :
    Except ProtocolError α → Prop
  | met (a : α) : c.Met registry refs op → Checked registry refs op c (.ok a)
  | unmet {cause : ProtocolError} : ¬ c.Met registry refs op → c.Cause refs op cause →
    Checked registry refs op c (.error cause)

theorem Checked.map {c : Requirement} {α β : Type} {x : Except ProtocolError α} (h : Checked registry refs op c x)
    (f : α → β) : Checked registry refs op c (x >>= fun a => .ok (f a)) := by
  cases h with
  | met a hmet => exact .met (f a) hmet
  | unmet hnot hcause => exact .unmet hnot hcause

theorem met_of_lt_succ {c : Requirement}
    (hbefore : ∀ c' : Requirement, c'.place < c.place → c'.Met registry refs op) (hmet : c.Met registry refs op) :
    ∀ c' : Requirement, c'.place < c.place + 1 → c'.Met registry refs op := by
  intro c' h
  rcases Nat.lt_succ_iff_lt_or_eq.1 h with hlt | heq
  · exact hbefore c' hlt
  · exact place_injective heq ▸ hmet

inductive Decided (registry : Registry σ) (refs : References) (op : Operation) :
    Except ProtocolError (Plan σ) → Prop
  | planned (plan : Plan σ) : (∀ c : Requirement, c.Met registry refs op) → Decided registry refs op (.ok plan)
  | refused {c : Requirement} {cause : ProtocolError} : c.FirstUnmet registry refs op → c.Cause refs op cause →
    Decided registry refs op (.error cause)

theorem Decided.bind {c : Requirement} {α : Type} {x : Except ProtocolError α}
    {f : α → Except ProtocolError (Plan σ)}
    (hbefore : ∀ c' : Requirement, c'.place < c.place → c'.Met registry refs op)
    (hx : Checked registry refs op c x)
    (hf : ∀ a, x = .ok a → (∀ c' : Requirement, c'.place < c.place + 1 → c'.Met registry refs op) →
      Decided registry refs op (f a)) : Decided registry refs op (x >>= f) := by
  cases hx with
  | met a hmet => exact hf a rfl (met_of_lt_succ hbefore hmet)
  | unmet hnot hcause => exact .refused ⟨hnot, hbefore⟩ hcause

end Requirement

namespace References

variable {refs : References}

theorem target_eq_ok_iff {raw : String} : (∃ id, refs.target raw = .ok id) ↔ refs.Identifies raw := by
  constructor
  · rintro ⟨id, h⟩
    cases ht : token? raw with
    | none =>
      rw [target, resolve_of_token?_eq_none refs ht] at h
      cases hparse : Uuid.parse raw with
      | ok id' => exact .text (token?_eq_none_iff.1 ht) hparse
      | error e => simp [hparse] at h
    | some token =>
      obtain rfl := token?_eq_some_iff.1 ht
      exact .reference (Option.isSome_of_eq_some (refs.target_refer_eq_ok_iff.1 h))
  · rintro (h | ⟨hraw, hparse⟩)
    · obtain ⟨id, hid⟩ := Option.isSome_iff_exists.1 h
      exact ⟨id, refs.target_refer_eq_ok_iff.2 hid⟩
    · exact ⟨_, by rw [target, resolve_of_token?_eq_none refs (token?_eq_none_iff.2 hraw), hparse]⟩

theorem resolved_eq_error {v : Json} {cause : ProtocolError} (h : refs.resolved v = .error cause) :
    ∃ token, refs.FirstUnresolved v.texts token ∧ cause = unknown token := by
  rw [resolved_eq] at h
  split at h
  · rename_i hrefusal
    cases h
    obtain ⟨before, s, after, htexts, hs, hbefore⟩ := List.findSome?_eq_some_iff.1 hrefusal
    obtain ⟨token, rfl, hnone, rfl⟩ := refs.refusal?_eq_some_iff.1 hs
    refine ⟨token, ⟨before, after, htexts, hnone, fun known hmem => ?_⟩, rfl⟩
    exact refs.refusal?_eq_none_iff.1 (hbefore _ hmem) known rfl
  · cases h

theorem FirstUnresolved.not_forall {texts : List String} {token : String} (h : refs.FirstUnresolved texts token) :
    ¬ ∀ t, refer t ∈ texts → (refs.get? t).isSome := by
  obtain ⟨before, after, rfl, hnone, -⟩ := h
  intro hall
  have := hall token (List.mem_append_right _ List.mem_cons_self)
  simp [hnone] at this

end References

namespace Requirement

variable {registry : Registry σ} {refs : References} {op : Operation}

theorem checked_data : Checked registry refs op .data op.requireData := by
  rw [Operation.requireData]
  cases hverb : op.verb with
  | delete => exact .met _ (.inl hverb)
  | create | update =>
    cases hdata : op.data with
    | none => exact .unmet (by simp [Met, hverb, hdata]) .data
    | some data => exact .met _ (.inr (by simp [hdata]))

theorem checked_name : Checked registry refs op .name op.requireName := by
  have hname : (∃ name, op.name? = some name) ↔ op.verb = .create ∧ ∃ name, op.bulkId = some name ∧ name ≠ "" := by
    simp only [Operation.name?_eq_some_iff, exists_and_left]
  rw [Operation.requireName]
  split
  · rename_i h
    refine .unmet (fun hmet => ?_) .name
    obtain ⟨name, hsome⟩ := hname.2 ⟨h.1, hmet h.1⟩
    rw [h.2] at hsome
    cases hsome
  · rename_i h
    refine .met _ fun hverb => ?_
    obtain ⟨name, hsome⟩ := Option.ne_none_iff_exists'.1 fun hnone => h ⟨hverb, hnone⟩
    exact (hname.1 ⟨name, hsome⟩).2

theorem checked_references {data : Option Json} (h : op.requireData = .ok data) :
    Checked registry refs op .references (data.mapM refs.resolved) := by
  obtain ⟨hverb, rfl⟩ | ⟨hverb, hdata, hsome⟩ := Operation.requireData_eq_ok_iff.1 h
  · exact .met none fun hne => absurd hverb hne
  · obtain ⟨v, rfl⟩ := Option.ne_none_iff_exists'.1 hsome
    rw [Option.mapM_some]
    cases hresolved : refs.resolved v with
    | error cause =>
      obtain ⟨token, hfirst, rfl⟩ := References.resolved_eq_error hresolved
      exact .unmet (fun hmet => hfirst.not_forall (hmet hverb v hdata)) (.references hdata hfirst)
    | ok payload =>
      refine .met _ fun _ v' hv' => ?_
      obtain rfl := Option.some.inj (hdata.symm.trans hv')
      exact (refs.resolved_eq_ok_iff.1 hresolved).1

theorem checked_path : Checked registry refs op .path (Path.parse op.path) := by
  cases hparse : Path.parse op.path with
  | ok p => exact .met p ⟨p, Path.parse_eq_ok_iff.1 hparse⟩
  | error cause =>
    obtain rfl := Path.parse_eq_error hparse
    refine .unmet (fun ⟨p, hp⟩ => ?_) .path
    rw [Path.parse_eq_ok_iff.2 hp] at hparse
    cases hparse

theorem checked_segment {p : Path} (h : Path.parse op.path = .ok p) :
    Checked registry refs op .segment (registry.resolve p.segment) := by
  rw [Registry.resolve]
  cases hget : registry.get? p.segment with
  | none =>
    refine .unmet (fun hmet => ?_) (.segment (Path.parse_eq_ok_iff.1 h))
    have := hmet p (Path.parse_eq_ok_iff.1 h)
    simp [hget] at this
  | some entry =>
    refine .met entry fun p' hp' => ?_
    rw [hp'.unique (Path.parse_eq_ok_iff.1 h), hget]
    rfl

theorem met_shape_iff {p : Path} (h : Path.parse op.path = .ok p) :
    Met registry refs op .shape ↔ (op.verb = .create ↔ p.identifier = none) :=
  ⟨fun hmet => hmet p (Path.parse_eq_ok_iff.1 h), fun hp _ hp' => hp'.unique (Path.parse_eq_ok_iff.1 h) ▸ hp⟩

theorem checked_identifier {segment raw : String} (h : Path.parse op.path = .ok ⟨segment, some raw⟩)
    (hverb : op.verb ≠ .create) : Checked registry refs op .identifier (refs.target raw) := by
  have hspells := Path.parse_eq_ok_iff.1 h
  cases htarget : refs.target raw with
  | ok id =>
    refine .met id fun _ p' hp' raw' hraw' => ?_
    obtain rfl := hp'.unique hspells
    obtain rfl := Option.some.inj hraw'
    exact References.target_eq_ok_iff.1 ⟨id, htarget⟩
  | error cause =>
    have hunmet : ¬ Met registry refs op .identifier := by
      intro hmet
      obtain ⟨id, hid⟩ := References.target_eq_ok_iff.2 (hmet hverb _ hspells raw rfl)
      rw [hid] at htarget
      cases htarget
    cases ht : token? raw with
    | some token =>
      obtain rfl := token?_eq_some_iff.1 ht
      rw [References.target, References.resolve_refer] at htarget
      cases hid : refs.get? token <;> rw [hid] at htarget <;> cases htarget
      exact .unmet hunmet (.unknown hspells)
    | none =>
      rw [References.target, References.resolve_of_token?_eq_none refs ht] at htarget
      cases hparse : Uuid.parse raw <;> simp only [hparse] at htarget <;> cases htarget
      exact .unmet hunmet (.unreadable hspells (token?_eq_none_iff.1 ht))

theorem checked_address {p : Path} {data payload : Option Json} (hdata : op.requireData = .ok data)
    (hpayload : data.mapM refs.resolved = .ok payload) (h : Path.parse op.path = .ok p) :
    (¬ Met registry refs op .shape ∧
      ∃ cause, Cause refs op .shape cause ∧ op.address refs p.identifier payload = .error cause) ∨
    (Met registry refs op .shape ∧
      Checked registry refs op .identifier (op.address refs p.identifier payload)) := by
  rw [met_shape_iff h]
  have hsome : op.verb ≠ .delete → ∃ v, payload = some v := by
    intro hverb
    obtain ⟨hdelete, -⟩ | ⟨-, -, hne⟩ := Operation.requireData_eq_ok_iff.1 hdata
    · exact absurd hdelete hverb
    · obtain ⟨v, rfl⟩ := Option.ne_none_iff_exists'.1 hne
      obtain ⟨w, -, rfl⟩ := (Operation.mapM_resolved_some v).1 hpayload
      exact ⟨w, rfl⟩
  obtain ⟨segment, _ | raw⟩ := p
  · cases hverb : op.verb with
    | create =>
      obtain ⟨v, rfl⟩ := hsome (by simp [hverb])
      simp only [Operation.address, hverb]
      exact .inr ⟨by simp, .met _ fun hne => absurd hverb hne⟩
    | update | delete =>
      refine .inl ⟨by simp, _, .missing (by simp [hverb]), ?_⟩
      simp only [Operation.address, hverb]
  · cases hverb : op.verb with
    | create =>
      refine .inl ⟨by simp, _, .surplus hverb, ?_⟩
      simp only [Operation.address, hverb]
    | update =>
      obtain ⟨v, rfl⟩ := hsome (by simp [hverb])
      simp only [Operation.address, hverb]
      exact .inr ⟨by simp, (checked_identifier h (by simp [hverb])).map fun id => Dispatch.update id v⟩
    | delete =>
      simp only [Operation.address, hverb]
      exact .inr ⟨by simp, (checked_identifier h (by simp [hverb])).map Dispatch.delete⟩

theorem plan_decided (registry : Registry σ) (refs : References) (op : Operation) :
    Decided registry refs op (op.plan registry refs) := by
  rw [Operation.plan_eq_bind]
  refine .bind (c := .data) nofun checked_data fun data hdata h => ?_
  refine .bind (c := .name) h checked_name fun _ _ h => ?_
  refine .bind (c := .references) h (checked_references hdata) fun payload hpayload h => ?_
  refine .bind (c := .path) h checked_path fun p hp h => ?_
  refine .bind (c := .segment) h (checked_segment hp) fun entry _ h => ?_
  rcases checked_address hdata hpayload hp with ⟨hnot, cause, hcause, haddress⟩ | ⟨hshape, hidentifier⟩
  · rw [haddress]
    exact .refused ⟨hnot, h⟩ hcause
  · exact .bind (c := .identifier) (met_of_lt_succ (c := .shape) h hshape) hidentifier fun dispatch _ h =>
      .planned _ fun c => h c (by cases c <;> decide)

theorem exists_firstUnmet (h : ¬ ∀ c : Requirement, c.Met registry refs op) :
    ∃ c : Requirement, c.FirstUnmet registry refs op := by
  have hdecided := plan_decided registry refs op
  generalize op.plan registry refs = x at hdecided
  cases hdecided with
  | planned plan hmet => exact absurd hmet h
  | refused hfirst => exact ⟨_, hfirst⟩

theorem plan_of_met (h : ∀ c : Requirement, c.Met registry refs op) :
    ∃ plan, op.plan registry refs = .ok plan := by
  have hdecided := plan_decided registry refs op
  generalize op.plan registry refs = x at hdecided
  cases hdecided with
  | planned plan => exact ⟨plan, rfl⟩
  | refused hfirst => exact absurd (h _) hfirst.unmet

theorem plan_of_firstUnmet {c : Requirement} (h : c.FirstUnmet registry refs op) :
    ∃ cause, c.Cause refs op cause ∧ op.plan registry refs = .error cause := by
  have hdecided := plan_decided registry refs op
  generalize op.plan registry refs = x at hdecided
  cases hdecided with
  | planned plan hmet => exact absurd (hmet c) h.unmet
  | refused hfirst hcause => exact ⟨_, h.unique hfirst ▸ hcause, rfl⟩

end Requirement

inductive Reported (e : Endpoint σ) (a : Attempt σ) : Plan σ → Prop
  | created {segment : String} {entry : Registry.Entry σ} {payload : Json} {id : Uuid} {name : String} :
    entry.handler.create payload a.state = (.ok id, a.after) → a.op.bulkId = some name →
    a.result = .success a.op 201 (some (e.location segment id)) →
    a.progress.refs = a.before.refs.insert name id → Reported e a ⟨segment, entry, .create payload⟩
  | modified {segment : String} {entry : Registry.Entry σ} {payload : Json} {id : Uuid} :
    entry.handler.update id payload a.state = (.ok true, a.after) →
    a.result = .success a.op 204 (some (e.location segment id)) →
    a.progress.refs = a.before.refs → Reported e a ⟨segment, entry, .update id payload⟩
  | removed {segment : String} {entry : Registry.Entry σ} {id : Uuid} :
    entry.handler.delete id a.state = (.ok true, a.after) → a.result = .success a.op 204 none →
    a.progress.refs = a.before.refs → Reported e a ⟨segment, entry, .delete id⟩
  | failed {plan : Plan σ} {cause : ProtocolError} :
    plan.dispatch.invoke plan.entry.handler a.state = (.error cause, a.after) →
    a.result = .failure a.op cause → a.progress.refs = a.before.refs → Reported e a plan

namespace Endpoint

variable (e : Endpoint σ)

theorem attempt_reported {op : Operation} {p : Progress} {plan : Plan σ}
    (h : op.plan e.registry p.refs = .ok plan) (s : σ) : Reported e (e.attempt op p s) plan := by
  have hperform := e.perform_of_plan h s
  rcases hinvoke : plan.dispatch.invoke plan.entry.handler s with ⟨cause | effect, s'⟩
  · rw [hinvoke] at hperform
    rw [attempt, hperform]
    exact .failed hinvoke rfl rfl
  · rw [hinvoke] at hperform
    rw [attempt, hperform]
    obtain ⟨segment, entry, dispatch⟩ := plan
    cases Dispatch.done_of_invoke hinvoke with
    | created hcreate =>
      cases Operation.plan_eq_ok_iff.1 h with
      | create _ hname =>
        refine .created hcreate (Operation.name?_eq_some_iff.1 hname).2.1 rfl ?_
        simp only [Attempt.progress, Operation.remember, Except.map, hname]
    | modified hupdate => exact .modified hupdate rfl rfl
    | removed hdelete => exact .removed hdelete rfl rfl

theorem perform_recorded (op : Operation) (refs : References) (s : σ) (calls : List Call) :
    e.recorded.perform op refs (s, calls) =
      ((e.perform op refs s).1, (e.perform op refs s).2,
        calls ++ ((op.plan e.registry refs).toOption.map Plan.call).toList) := by
  have hnoted (call : Option Call) : call.elim calls (fun call => calls ++ [call]) = calls ++ call.toList := by
    cases call <;> simp
  rw [← hnoted]
  exact congrArg (fun a : Attempt (σ × List Call) => (a.outcome, a.after))
    (e.attempt_watched (fun call _ calls => calls ++ [call]) op ⟨refs, 0⟩ s calls)

theorem perform_recorded_of_plan {op : Operation} {refs : References} {plan : Plan σ}
    (h : op.plan e.registry refs = .ok plan) (s : σ) (calls : List Call) :
    (e.recorded.perform op refs (s, calls)).2.2 = calls ++ [plan.call] := by
  rw [e.perform_recorded, h]
  rfl

theorem perform_recorded_of_error {op : Operation} {refs : References} {cause : ProtocolError}
    (h : op.plan e.registry refs = .error cause) (s : σ) (calls : List Call) :
    e.recorded.perform op refs (s, calls) = (.error cause, s, calls) := by
  rw [e.perform_recorded, e.perform_of_error h, h]
  exact congrArg (fun calls => (_, _, calls)) (List.append_nil calls)

/-- How an operation is attempted: with one call of a handler when it meets all requirements, and with none otherwise. -/
structure Orderly (op : Operation) (p : Progress) (s : σ) : Prop where
  once : ∃ call : Option Call, ∀ calls, e.recorded.perform op p.refs (s, calls) =
    ((e.perform op p.refs s).1, (e.perform op p.refs s).2, calls ++ call.toList)
  called_iff : (∃ call, ∀ calls, (e.recorded.perform op p.refs (s, calls)).2.2 = calls ++ [call]) ↔
    ∀ c : Requirement, c.Met e.registry p.refs op
  called : (∀ c : Requirement, c.Met e.registry p.refs op) →
    ∃ plan, op.Planned e.registry p.refs plan ∧
      (∀ calls, (e.recorded.perform op p.refs (s, calls)).2.2 = calls ++ [plan.call]) ∧
      Reported e (e.attempt op p s) plan
  first : (¬ ∀ c : Requirement, c.Met e.registry p.refs op) →
    ∃ c : Requirement, c.FirstUnmet e.registry p.refs op
  refused : ∀ c : Requirement, c.FirstUnmet e.registry p.refs op →
    ∃ cause, c.Cause p.refs op cause ∧ cause.keyword = some (c.keyword op.verb) ∧
      (∀ calls, e.recorded.perform op p.refs (s, calls) = (.error cause, s, calls)) ∧
      (e.attempt op p s).result = .failure op cause ∧ (e.attempt op p s).progress.refs = p.refs

theorem attempt_orderly (op : Operation) (p : Progress) (s : σ) : e.Orderly op p s := by
  have hcalled (h : ∀ c : Requirement, c.Met e.registry p.refs op) :
      ∃ plan, op.Planned e.registry p.refs plan ∧
        (∀ calls, (e.recorded.perform op p.refs (s, calls)).2.2 = calls ++ [plan.call]) ∧
        Reported e (e.attempt op p s) plan := by
    obtain ⟨plan, hplan⟩ := Requirement.plan_of_met h
    exact ⟨plan, Operation.plan_eq_ok_iff.1 hplan, e.perform_recorded_of_plan hplan s, e.attempt_reported hplan s⟩
  have hrefused (c : Requirement) (h : c.FirstUnmet e.registry p.refs op) :
      ∃ cause, c.Cause p.refs op cause ∧ e.perform op p.refs s = (.error cause, s) ∧
        ∀ calls, e.recorded.perform op p.refs (s, calls) = (.error cause, s, calls) := by
    obtain ⟨cause, hcause, hplan⟩ := Requirement.plan_of_firstUnmet h
    exact ⟨cause, hcause, e.perform_of_error hplan s, e.perform_recorded_of_error hplan s⟩
  constructor
  case once =>
    exact ⟨_, e.perform_recorded op p.refs s⟩
  case called_iff =>
    refine ⟨fun ⟨call, hcall⟩ => ?_, fun h => ?_⟩
    · by_contra hnot
      obtain ⟨c, hc⟩ := Requirement.exists_firstUnmet hnot
      obtain ⟨cause, -, -, hnone⟩ := hrefused c hc
      have := hcall []
      rw [hnone] at this
      cases this
    · obtain ⟨plan, -, hcall, -⟩ := hcalled h
      exact ⟨plan.call, hcall⟩
  case called =>
    exact hcalled
  case first =>
    exact Requirement.exists_firstUnmet
  case refused =>
    intro c h
    obtain ⟨cause, hcause, hperform, hnone⟩ := hrefused c h
    refine ⟨cause, hcause, hcause.keyword, hnone, ?_, ?_⟩ <;> rw [attempt, hperform] <;> rfl

end Endpoint

end Roster.Batch
