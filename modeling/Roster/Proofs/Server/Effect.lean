import Roster.Proofs.Server.Reachable

namespace Roster

/-- The first identifiers differ from each other. There are only so many of them, so that this cannot hold for all. -/
def NeverRepeats (generate : Nat → Uuid) (n : Nat) : Prop :=
  ∀ i j, i < j → j < n → generate i ≠ generate j

def Directory.SameBut (kind : ResourceType) (id : Uuid) (d d' : Directory) : Prop :=
  ∀ kind' id', ¬ (kind' = kind ∧ id' = id) → d'.find? kind' id' = d.find? kind' id'

namespace Batch

variable (generate : Nat → Uuid) (config : Config) (e : Endpoint Directory) (a : Attempt Directory)

def CreateReached : Prop :=
  ∃ (kind : ResourceType) (payload : Json) (params : kind.Params),
    a.op.plan e.registry a.before.refs =
      .ok ⟨kind.segment, Directory.entry generate kind, .create payload⟩ ∧
    kind.readParams payload = .ok params

structure NoEffect : Prop where
  stores : ∀ kind, a.after.store kind = a.state.store kind
  directory : a.after = { a.state with issued := a.after.issued }
  issued : a.after.issued = a.state.issued ∨
    a.after.issued = a.state.issued + 1 ∧ CreateReached generate e a

structure Creation (kind : ResourceType) (id : Uuid) (entity : kind.Entity) : Prop where
  verb : a.op.verb = .create
  served : kind ∈ Directory.kinds config.customTypes
  path : Path.parse a.op.path = .ok ⟨kind.segment, none⟩
  built : ∃ data payload params, a.op.data = some data ∧ a.before.refs.resolved data = .ok payload ∧
    kind.readParams payload = .ok params ∧ kind.build id params = .ok entity
  generated : id = generate a.state.issued
  issued : a.after.issued = a.state.issued + 1
  location : a.result.location = some (e.location kind.segment id)
  unknown : ∀ kind', a.state.find? kind' id = none
  unseen : ∀ s, Server.Reachable generate config s → s.directory.issued ≤ a.state.issued →
    ∀ kind', s.directory.find? kind' id = none
  added : a.after.find? kind id = some entity
  frame : a.state.SameBut kind id a.after

structure Modification (kind : ResourceType) (id : Uuid) : Prop where
  served : kind ∈ Directory.kinds config.customTypes
  path : ∃ raw, Path.parse a.op.path = .ok ⟨kind.segment, some raw⟩ ∧ a.before.refs.target raw = .ok id
  issued : a.after.issued = a.state.issued
  location : a.result.location = some (e.location kind.segment id)
  stored : (a.state.find? kind id).isSome ∧ (a.after.find? kind id).isSome
  frame : a.state.SameBut kind id a.after

structure Removal (kind : ResourceType) (id : Uuid) : Prop where
  served : kind ∈ Directory.kinds config.customTypes
  path : ∃ raw, Path.parse a.op.path = .ok ⟨kind.segment, some raw⟩ ∧ a.before.refs.target raw = .ok id
  issued : a.after.issued = a.state.issued
  stored : (a.state.find? kind id).isSome
  removed : a.after.find? kind id = none
  frame : a.state.SameBut kind id a.after

/-- What an attempt has done, by its result. -/
structure ExactEffect : Prop where
  results : a.result.isSuccess = false ∨ a.result.status = 201 ∧ a.op.verb = .create ∨
    a.result.status = 204 ∧ (a.op.verb = .update ∨ a.op.verb = .delete)
  failure : a.result.isSuccess = false → NoEffect generate e a
  created : a.result.status = 201 → ∃ kind id entity, Creation generate config e a kind id entity
  updated : a.result.status = 204 → a.op.verb = .update → ∃ kind id, Modification config e a kind id
  deleted : a.result.status = 204 → a.op.verb = .delete → ∃ kind id, Removal config a kind id

variable {generate config e a}

theorem status_ne_of_error (cause : ProtocolError) : cause.status ≠ 201 ∧ cause.status ≠ 204 := by
  cases cause <;> exact ⟨by simp [ProtocolError.status], by simp [ProtocolError.status]⟩

theorem find?_next {d d' : Directory} (hd : d.Issued generate) (hle : d.issued ≤ d'.issued)
    (hgen : NeverRepeats generate (d'.issued + 1)) (kind : ResourceType) :
    d.find? kind (generate d'.issued) = none := by
  cases h : d.find? kind (generate d'.issued) with
  | none => rfl
  | some a =>
    obtain ⟨k, hk, heq⟩ := hd kind _ (Option.isSome_of_eq_some h)
    exact absurd heq.symm (hgen k d'.issued (Nat.lt_of_lt_of_le hk hle) (Nat.lt_succ_self _))

theorem ExactEffect.of_error {cause : ProtocolError} (h : a.outcome = .error cause)
    (hnone : NoEffect generate e a) : ExactEffect generate config e a := by
  have hresult : a.result = .failure a.op cause := by rw [Attempt.result, h]
  obtain ⟨h201, h204⟩ := status_ne_of_error cause
  rw [← show a.result.status = cause.status by rw [hresult]; rfl] at h201 h204
  refine ⟨.inl ?_, fun _ => hnone, fun h => absurd h h201, fun h => absurd h h204, fun h => absurd h h204⟩
  rw [hresult]
  rfl

theorem ExactEffect.of_created {kind : ResourceType} {id : Uuid} {entity : kind.Entity}
    {location : Option String} (h : a.outcome = .ok (.created id, location))
    (hc : Creation generate config e a kind id entity) : ExactEffect generate config e a := by
  have hresult : a.result = .success a.op 201 location := by rw [Attempt.result, h]; rfl
  have hverb := hc.verb
  refine ⟨.inr (.inl ⟨?_, hverb⟩), ?_, fun _ => ⟨kind, id, entity, hc⟩, ?_, ?_⟩ <;> rw [hresult]
  · rfl
  · nofun
  · nofun
  · nofun

theorem ExactEffect.of_modified {kind : ResourceType} {id : Uuid} {location : Option String}
    (h : a.outcome = .ok (.modified id, location)) (hverb : a.op.verb = .update)
    (hm : Modification config e a kind id) : ExactEffect generate config e a := by
  have hresult : a.result = .success a.op 204 location := by rw [Attempt.result, h]; rfl
  refine ⟨.inr (.inr ⟨?_, .inl hverb⟩), ?_, ?_, fun _ _ => ⟨kind, id, hm⟩, ?_⟩ <;> rw [hresult]
  · rfl
  · nofun
  · nofun
  · exact fun _ hdelete => nomatch hverb.symm.trans hdelete

theorem ExactEffect.of_removed {kind : ResourceType} {id : Uuid} {location : Option String}
    (h : a.outcome = .ok (.removed id, location)) (hverb : a.op.verb = .delete)
    (hm : Removal config a kind id) : ExactEffect generate config e a := by
  have hresult : a.result = .success a.op 204 location := by rw [Attempt.result, h]; rfl
  refine ⟨.inr (.inr ⟨?_, .inr hverb⟩), ?_, ?_, ?_, fun _ _ => ⟨kind, id, hm⟩⟩ <;> rw [hresult]
  · rfl
  · nofun
  · nofun
  · exact fun _ hupdate => nomatch hverb.symm.trans hupdate

theorem Performed.effect (hregistry : Directory.registry generate config.customTypes = .ok e.registry)
    (hissued : a.state.Issued generate) (hgen : NeverRepeats generate a.after.issued)
    (h : Performed generate e a.op a.before.refs a.state a.outcome a.after) :
    ExactEffect generate config e a := by
  obtain ⟨op, before, d, outcome, d'⟩ := a
  change Performed generate e op before.refs d outcome d' at h
  cases h with
  | refused => exact .of_error rfl ⟨fun _ => rfl, rfl, .inl rfl⟩
  | rejected hplan hread =>
    exact .of_error rfl ⟨d.store_drawn, rfl, .inr ⟨rfl, _, _, _, hplan, hread⟩⟩
  | @created kind payload params entity hplan hread hmake =>
    have hnext : NeverRepeats generate (d.issued + 1) := by simpa using hgen
    refine .of_created rfl (?_ : Creation generate config e _ kind _ entity)
    cases Operation.plan_eq_ok_iff.1 hplan with
    | create hverb _ hdata hpayload hpath =>
      exact {
        verb := hverb
        served := served_of_plan hregistry hplan
        path := hpath
        built := ⟨_, _, _, hdata, hpayload, hread, (ResourceType.build_of_make hmake).1⟩
        generated := rfl
        issued := by simp
        location := rfl
        unknown := find?_next hissued (Nat.le_refl _) hnext
        unseen := fun s hs hle => find?_next hs.issued hle hnext
        added := by simp
        frame := fun kind' id' hne => by simp [d.find?_insert_of_ne hne] }
  | @modified kind id payload change _ _ hplan _ hfind =>
    cases Operation.plan_eq_ok_iff.1 hplan with
    | update hverb _ _ hpath _ hid =>
      refine .of_modified rfl hverb (?_ : Modification config e _ kind id)
      exact {
        served := served_of_plan hregistry hplan
        path := ⟨_, hpath, hid⟩
        issued := by simp
        location := rfl
        stored := ⟨Option.isSome_of_eq_some hfind, by simp⟩
        frame := fun kind' id' hne => d.find?_insert_of_ne hne _ }
  | @removed kind id _ hplan hfind =>
    cases Operation.plan_eq_ok_iff.1 hplan with
    | delete hverb hpath _ hid =>
      refine .of_removed rfl hverb (?_ : Removal config _ kind id)
      exact {
        served := served_of_plan hregistry hplan
        path := ⟨_, hpath, hid⟩
        issued := by simp
        stored := Option.isSome_of_eq_some hfind
        removed := by simp
        frame := fun kind' id' hne => d.find?_erase_of_ne hne }

end Batch

namespace Server.Reachable

open Batch

variable {generate : Nat → Uuid} {config : Config} {s : Server} {e : Endpoint Directory}
  {a : Attempt Directory}

theorem exactEffect (hs : Reachable generate config s) (he : e.registry = s.registry)
    (caller : Caller Directory) (r : Batch.Request)
    (ha : a ∈ (e.start caller r s.directory).attempts) (hgen : NeverRepeats generate a.after.issued) :
    ExactEffect generate config e a := by
  have hregistry : Directory.registry generate config.customTypes = .ok e.registry :=
    he ▸ hs.registry_eq
  have hbefore := (hs.attempt he ha).1
  obtain ⟨i, hi⟩ := List.getElem?_of_mem ha
  have hperformed : Performed generate e a.op a.before.refs a.state _ _ :=
    perform_performed hregistry hbefore.has
  rw [e.perform_of_made (e.made_of_start hi)] at hperformed
  exact hperformed.effect hregistry hbefore.issued hgen

theorem exactEffect_staff : ∃ s e a, Server.start .bounded counted plain = .ok s ∧ e.registry = s.registry ∧
    (e.start {} staff s.directory).attempts[1]? = some a ∧ a.result.status = 201 ∧
    NeverRepeats counted a.after.issued ∧ ExactEffect counted plain e a := by
  have hgen : NeverRepeats counted 2 := by
    intro i j hij hj
    obtain ⟨rfl, rfl⟩ : i = 0 ∧ j = 1 := by omega
    decide
  obtain ⟨s, hs⟩ : ∃ s, Server.start .bounded counted plain = .ok s := ⟨_, rfl⟩
  have hreachable : Reachable counted plain s := .start hs
  cases hs
  exact ⟨_, ⟨_, {}, none⟩, _, rfl, rfl, rfl, rfl, hgen,
    exactEffect hreachable rfl {} staff (List.mem_of_getElem? (i := 1) rfl) hgen⟩

end Server.Reachable

end Roster
