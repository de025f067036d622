import Roster.Batch.Endpoint
import Roster.Proofs.Except

namespace Roster.Batch

namespace Operation

variable {σ : Type} {registry : Registry σ} {refs : References} {op : Operation} {plan : Plan σ}

inductive Planned (registry : Registry σ) (refs : References) (op : Operation) : Plan σ → Prop
  | create {name data payload segment entry} : op.verb = .create → op.name? = some name →
      op.data = some data → refs.resolved data = .ok payload →
      Path.parse op.path = .ok ⟨segment, none⟩ → registry.resolve segment = .ok entry →
      Planned registry refs op ⟨segment, entry, .create payload⟩
  | update {data payload segment raw entry id} : op.verb = .update →
      op.data = some data → refs.resolved data = .ok payload →
      Path.parse op.path = .ok ⟨segment, some raw⟩ → registry.resolve segment = .ok entry →
      refs.target raw = .ok id → Planned registry refs op ⟨segment, entry, .update id payload⟩
  | delete {segment raw entry id} : op.verb = .delete →
      Path.parse op.path = .ok ⟨segment, some raw⟩ → registry.resolve segment = .ok entry →
      refs.target raw = .ok id → Planned registry refs op ⟨segment, entry, .delete id⟩

theorem plan_eq_bind (registry : Registry σ) (refs : References) (op : Operation) :
    op.plan registry refs =
      (op.requireData >>= fun data => op.requireName >>= fun _ =>
        data.mapM refs.resolved >>= fun payload => Path.parse op.path >>= fun path =>
          registry.resolve path.segment >>= fun entry =>
            op.address refs path.identifier payload >>= fun dispatch =>
              .ok ⟨path.segment, entry, dispatch⟩) := rfl

theorem requireData_eq_ok_iff {data : Option Json} :
    op.requireData = .ok data ↔
      op.verb = .delete ∧ data = none ∨ op.verb ≠ .delete ∧ op.data = data ∧ data ≠ none := by
  rw [requireData]
  cases op.verb <;> cases op.data <;> cases data <;> simp

theorem requireName_eq_ok_iff {u : Unit} :
    op.requireName = .ok u ↔ (op.verb = .create → ∃ name, op.name? = some name) := by
  rw [requireName]
  cases op.verb <;> cases op.name? <;> simp

theorem mapM_resolved_some (data : Json) {payload : Option Json} :
    (some data).mapM refs.resolved = .ok payload ↔
      ∃ v, refs.resolved data = .ok v ∧ payload = some v := by
  rw [Option.mapM_some]
  cases refs.resolved data with
  | error e => exact ⟨nofun, fun ⟨_, h, _⟩ => nomatch h⟩
  | ok v => exact ⟨fun h => ⟨v, rfl, (Except.ok.inj h).symm⟩, fun ⟨_, h, h'⟩ => by cases h; rw [h']; rfl⟩

theorem address_create {identifier : Option String} {payload : Option Json} {dispatch : Dispatch}
    (h : op.verb = .create) :
    op.address refs identifier payload = .ok dispatch ↔
      identifier = none ∧ ∃ v, payload = some v ∧ .create v = dispatch := by
  cases identifier <;> cases payload <;> simp [address, h]

theorem address_update {identifier : Option String} {payload : Option Json} {dispatch : Dispatch}
    (h : op.verb = .update) :
    op.address refs identifier payload = .ok dispatch ↔
      ∃ raw, identifier = some raw ∧ ∃ v, payload = some v ∧
        ∃ id, refs.target raw = .ok id ∧ .update id v = dispatch := by
  cases identifier <;> cases payload <;> simp [address, h, Except.map_eq_ok]

theorem address_delete {identifier : Option String} {payload : Option Json} {dispatch : Dispatch}
    (h : op.verb = .delete) :
    op.address refs identifier payload = .ok dispatch ↔
      ∃ raw, identifier = some raw ∧ ∃ id, refs.target raw = .ok id ∧ .delete id = dispatch := by
  cases identifier <;> cases payload <;> simp [address, h, Except.map_eq_ok]

theorem plan_eq_ok_iff : op.plan registry refs = .ok plan ↔ op.Planned registry refs plan := by
  simp only [plan_eq_bind, Except.bind_eq_ok]
  constructor
  · rintro ⟨data, hdata, _, hname, payload, hpayload, ⟨segment, identifier⟩, hpath, entry, hentry,
      dispatch, haddress, ⟨⟩⟩
    rw [requireData_eq_ok_iff] at hdata
    rw [requireName_eq_ok_iff] at hname
    cases hverb : op.verb with
    | create =>
      rw [address_create hverb] at haddress
      obtain ⟨rfl, v, rfl, rfl⟩ := haddress
      obtain ⟨name, hname⟩ := hname hverb
      obtain ⟨hd, -⟩ | ⟨-, hd, hne⟩ := hdata
      · simp [hverb] at hd
      · obtain ⟨d, rfl⟩ := Option.ne_none_iff_exists'.1 hne
        obtain ⟨_, hv, ⟨⟩⟩ := (mapM_resolved_some d).1 hpayload
        exact .create hverb hname hd hv hpath hentry
    | update =>
      rw [address_update hverb] at haddress
      obtain ⟨raw, rfl, v, rfl, id, hid, rfl⟩ := haddress
      obtain ⟨hd, -⟩ | ⟨-, hd, hne⟩ := hdata
      · simp [hverb] at hd
      · obtain ⟨d, rfl⟩ := Option.ne_none_iff_exists'.1 hne
        obtain ⟨_, hv, ⟨⟩⟩ := (mapM_resolved_some d).1 hpayload
        exact .update hverb hd hv hpath hentry hid
    | delete =>
      rw [address_delete hverb] at haddress
      obtain ⟨raw, rfl, id, hid, rfl⟩ := haddress
      exact .delete hverb hpath hentry hid
  · rintro (⟨hverb, hname, hdata, hpayload, hpath, hentry⟩ |
      ⟨hverb, hdata, hpayload, hpath, hentry, hid⟩ | ⟨hverb, hpath, hentry, hid⟩)
    · exact ⟨_, requireData_eq_ok_iff.2 (.inr ⟨by simp [hverb], hdata, by simp⟩), (),
        requireName_eq_ok_iff.2 fun _ => ⟨_, hname⟩, _, (mapM_resolved_some _).2 ⟨_, hpayload, rfl⟩, _,
        hpath, _, hentry, _, (address_create hverb).2 ⟨rfl, _, rfl, rfl⟩, rfl⟩
    · exact ⟨_, requireData_eq_ok_iff.2 (.inr ⟨by simp [hverb], hdata, by simp⟩), (),
        requireName_eq_ok_iff.2 (by simp [hverb]), _, (mapM_resolved_some _).2 ⟨_, hpayload, rfl⟩, _,
        hpath, _, hentry, _, (address_update hverb).2 ⟨_, rfl, _, rfl, _, hid, rfl⟩, rfl⟩
    · exact ⟨none, requireData_eq_ok_iff.2 (.inl ⟨hverb, rfl⟩), (),
        requireName_eq_ok_iff.2 (by simp [hverb]), none, rfl, _,
        hpath, _, hentry, _, (address_delete hverb).2 ⟨_, rfl, _, hid, rfl⟩, rfl⟩

end Operation

namespace Operation

theorem name?_eq_some_iff {op : Operation} {name : String} :
    op.name? = some name ↔ op.verb = .create ∧ op.bulkId = some name ∧ name ≠ "" := by
  rw [name?]
  split
  · rename_i h
    simp [h, Option.filter_eq_some_iff]
  · rename_i h
    simp [h]

end Operation

inductive Dispatch.Done (handler : Handler σ) (s : σ) : Dispatch → Effect → σ → Prop
  | created {payload : Json} {id : Uuid} {s' : σ} :
    handler.create payload s = (.ok id, s') → Done handler s (.create payload) (.created id) s'
  | modified {id : Uuid} {payload : Json} {s' : σ} :
    handler.update id payload s = (.ok true, s') → Done handler s (.update id payload) (.modified id) s'
  | removed {id : Uuid} {s' : σ} :
    handler.delete id s = (.ok true, s') → Done handler s (.delete id) (.removed id) s'

theorem Dispatch.done_of_invoke {handler : Handler σ} {dispatch : Dispatch} {s s' : σ} {effect : Effect}
    (h : dispatch.invoke handler s = (.ok effect, s')) : Done handler s dispatch effect s' := by
  cases dispatch with
  | create payload =>
    rw [invoke] at h
    rcases hc : handler.create payload s with ⟨_ | id, s''⟩ <;> rw [hc] at h <;> cases h
    exact .created hc
  | update id payload =>
    rw [invoke] at h
    rcases hc : handler.update id payload s with ⟨_ | _ | _, s''⟩ <;> rw [hc] at h <;> cases h
    exact .modified hc
  | delete id =>
    rw [invoke] at h
    rcases hc : handler.delete id s with ⟨_ | _ | _, s''⟩ <;> rw [hc] at h <;> cases h
    exact .removed hc

theorem Dispatch.Done.invoke {handler : Handler σ} {dispatch : Dispatch} {s s' : σ} {effect : Effect}
    (h : Done handler s dispatch effect s') : dispatch.invoke handler s = (.ok effect, s') := by
  cases h with
  | created h | modified h | removed h => rw [Dispatch.invoke, h]

theorem Dispatch.invoke_eq_created {handler : Handler σ} {dispatch : Dispatch} {s s' : σ} {id : Uuid}
    (h : dispatch.invoke handler s = (.ok (.created id), s')) :
    ∃ payload, dispatch = .create payload ∧ handler.create payload s = (.ok id, s') := by
  cases done_of_invoke h with
  | created hc => exact ⟨_, rfl, hc⟩

namespace Endpoint

variable {σ : Type} (e : Endpoint σ) {op : Operation} {refs : References}

theorem perform_of_error {cause : ProtocolError} (h : op.plan e.registry refs = .error cause) (s : σ) :
    e.perform op refs s = (.error cause, s) := by
  rw [perform, h]

theorem perform_of_plan {plan : Plan σ} (h : op.plan e.registry refs = .ok plan) (s : σ) :
    e.perform op refs s =
      ((plan.dispatch.invoke plan.entry.handler s).1.map fun effect =>
          (effect, e.locate plan.segment effect),
        (plan.dispatch.invoke plan.entry.handler s).2) := by
  rw [perform, h]
  rcases hi : plan.dispatch.invoke plan.entry.handler s with ⟨_ | _, s'⟩ <;> simp only [hi] <;> rfl

theorem perform_eq_ok {s s' : σ} {effect : Effect} {location : Option String}
    (h : e.perform op refs s = (.ok (effect, location), s')) :
    ∃ plan, op.plan e.registry refs = .ok plan ∧ location = e.locate plan.segment effect ∧
      plan.dispatch.invoke plan.entry.handler s = (.ok effect, s') := by
  cases hp : op.plan e.registry refs with
  | error cause =>
    rw [e.perform_of_error hp] at h
    simp at h
  | ok plan =>
    rw [e.perform_of_plan hp] at h
    rcases hi : plan.dispatch.invoke plan.entry.handler s with ⟨_ | effect', s''⟩ <;> rw [hi] at h <;>
      cases h
    exact ⟨plan, rfl, rfl, hi⟩

end Endpoint

end Roster.Batch
