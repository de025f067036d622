import Roster.Proofs.Batch.Location
import Roster.Proofs.Batch.Requirement
import Roster.Proofs.Batch.Substitution
import Roster.Proofs.Batch.Table

namespace Roster.Batch

variable {σ : Type}

theorem Path.isPart_refer {name : String} (h : '/' ∉ name.toList) : IsPart (refer name) := by
  constructor
  · intro hempty
    have hmarker : 'p' ∈ (refer name).toList := by
      rw [refer, String.toList_append]
      exact List.mem_append_left _ (by decide)
    simp [hempty] at hmarker
  · rw [refer, String.toList_append, List.mem_append]
    exact fun hmem => hmem.elim (by decide) h

/-- Only its path can keep the operation from being dispatched to a resource. -/
def Operation.Ready (op : Operation) (refs : References) : Prop :=
  op.verb = .delete ∨ op.verb = .update ∧
    ∃ data, op.data = some data ∧ ∀ token, refer token ∈ data.texts → (refs.get? token).isSome

def Dispatch.target? : Dispatch → Option Uuid
  | .create _ => none
  | .update id _ | .delete id => some id

def MadeBefore (e : Endpoint σ) (as : List (Attempt σ)) (i : Nat) (made : Plan σ) (name : String)
    (id : Uuid) : Prop :=
  ∃ j b, j < i ∧ as[j]? = some b ∧ b.Acted e made (.created id) ∧ b.op.bulkId = some name

def Attempt.Reaches (e : Endpoint σ) (a : Attempt σ) (segment : String) (entry : Registry.Entry σ)
    (id : Uuid) : Prop :=
  ∃ dispatch : Dispatch, dispatch.target? = some id ∧
    a.op.Planned e.registry a.before.refs ⟨segment, entry, dispatch⟩ ∧
    ∀ calls, (e.recorded.perform a.op a.before.refs (a.state, calls)).2.2 =
      calls ++ [(⟨segment, entry, dispatch⟩ : Plan σ).call]

def Attempt.RefersTo (a : Attempt σ) (made : Plan σ) (name : String) : Prop :=
  a.op.path = made.segment ++ "/" ++ refer name ∧ a.op.Ready a.before.refs

structure ReferenceReaches (e : Endpoint σ) (a : Attempt σ) (made : Plan σ) (name : String)
    (id : Uuid) : Prop where
  string : a.before.refs.substitute (.string (refer name)) = (.string id.text, .ok ())
  payload : ∀ data payload, a.before.refs.resolved data = .ok payload →
    ∀ p, (p, refer name) ∈ data.leaves → (p, id.text) ∈ payload.leaves
  path : a.RefersTo made name → '/' ∉ name.toList → a.Reaches e made.segment made.entry id
  slashed : a.RefersTo made name → '/' ∈ name.toList → ∀ calls,
    e.recorded.perform a.op a.before.refs (a.state, calls) = (.error (Path.malformed a.op.path), a.state, calls)

namespace References

variable {refs : References} {name : String} {id : Uuid}

theorem Replaces.eq_of_get? {p : Json.Place} {l : Json.Leaf} (h : refs.Replaces (p, refer name) l)
    (hid : refs.get? name = some id) : l = (p, id.text) := by
  generalize htext : refer name = text at h
  cases h with
  | reference h =>
    obtain rfl := refer_injective htext
    rw [Option.some.inj (hid.symm.trans h)]
  | other h => exact absurd htext.symm (h name)

theorem mem_of_replaces (hid : refs.get? name = some id) {ls ls' : List Json.Leaf}
    (h : List.Forall₂ refs.Replaces ls ls') {p : Json.Place} (hp : (p, refer name) ∈ ls) :
    (p, id.text) ∈ ls' := by
  induction h with
  | nil => cases hp
  | cons hl _ ih =>
    rcases List.mem_cons.1 hp with rfl | hp
    · rw [hl.eq_of_get? hid]
      exact List.mem_cons_self
    · exact List.mem_cons_of_mem _ (ih hp)

theorem mem_leaves_of_resolved (hid : refs.get? name = some id) {data payload : Json}
    (h : refs.resolved data = .ok payload) {p : Json.Place} (hp : (p, refer name) ∈ data.leaves) :
    (p, id.text) ∈ payload.leaves := by
  have hknown := (refs.resolved_eq_ok_iff.1 h).1
  obtain ⟨hok, hall⟩ := (refs.substitute_passed data).walk.complete fun q token hq =>
    hknown token (Json.mem_texts_iff.2 ⟨q, hq⟩)
  rw [Except.ok.inj ((refs.resolved_of_substitute hok).symm.trans h)] at hall
  exact mem_of_replaces hid hall hp

end References

theorem Attempt.Acted.addition? {e : Endpoint σ} {b : Attempt σ} (hb : e.attempt b.op b.before b.state = b)
    {made : Plan σ} {name : String} {id : Uuid} (h : b.Acted e made (.created id))
    (hname : b.op.bulkId = some name) : b.addition? = some (name, id) := by
  refine addition?_eq_some_iff.2 ⟨?_, _, (e.outcome_eq_ok_iff hb).2 ⟨made, h, rfl⟩⟩
  obtain ⟨segment, entry, dispatch⟩ := made
  obtain ⟨hplanned, hdone⟩ := h
  cases hdone
  cases hplanned with
  | create _ hknown =>
    rw [hknown, ← (Operation.name?_eq_some_iff.1 hknown).2.1, hname]

theorem Operation.Ready.planned {op : Operation} {refs : References} (h : op.Ready refs)
    {registry : Registry σ} {segment raw : String} {entry : Registry.Entry σ} {id : Uuid}
    (hpath : Path.parse op.path = .ok ⟨segment, some raw⟩)
    (hentry : registry.resolve segment = .ok entry) (hid : refs.target raw = .ok id) :
    ∃ dispatch : Dispatch, dispatch.target? = some id ∧ op.Planned registry refs ⟨segment, entry, dispatch⟩ := by
  rcases h with hverb | ⟨hverb, data, hdata, hall⟩
  · exact ⟨.delete id, rfl, .delete hverb hpath hentry hid⟩
  · exact ⟨.update id _, rfl, .update hverb hdata (refs.resolved_eq_ok_iff.2 ⟨hall, rfl⟩) hpath hentry hid⟩

theorem Operation.Ready.firstUnmet {op : Operation} {refs : References} (h : op.Ready refs) (registry : Registry σ)
    {cause : ProtocolError} (hpath : Path.parse op.path = .error cause) :
    Requirement.FirstUnmet registry refs op .path where
  unmet := by
    rintro ⟨p, hp⟩
    rw [Path.parse_eq_ok_iff.2 hp] at hpath
    cases hpath
  earlier c hlt := by
    cases c with
    | data => exact h.imp_right fun ⟨_, data, hdata, _⟩ => by simp [hdata]
    | name => rcases h with hverb | ⟨hverb, -⟩ <;> exact fun hcreate => by simp [hverb] at hcreate
    | references =>
      rintro hne data hdata
      obtain ⟨-, known, hknown, hall⟩ := h.resolve_left hne
      exact Option.some.inj (hknown.symm.trans hdata) ▸ hall
    | path | segment | shape | identifier => exact absurd hlt (by decide)

theorem start_referenceReaches (e : Endpoint σ) (caller : Caller σ) (r : Request) (s : σ)
    (hr : r.check e.limits = .ok ()) {i : Nat} {a : Attempt σ}
    (ha : (e.start caller r s).attempts[i]? = some a) {made : Plan σ} {name : String} {id : Uuid}
    (h : MadeBefore e (e.start caller r s).attempts i made name id) : ReferenceReaches e a made name id := by
  obtain ⟨j, b, hlt, hb, hacted, hname⟩ := h
  have hknown : a.before.refs.get? name = some id :=
    (e.get?_refs_iff (Request.check_eq_ok_iff.1 hr).2 (fun _ _ => rfl) (e.getElem?_trace_of_start ha) name id).2
      (.inr ⟨j, b, hlt, e.getElem?_trace_of_start hb, hacted.addition? (e.made_of_start hb) hname⟩)
  constructor
  case string =>
    rw [References.substitute, (References.resolve_refer_eq_ok_iff _).2 hknown]
  case payload => exact fun data payload hresolved p => References.mem_leaves_of_resolved hknown hresolved
  case path =>
    rintro ⟨hpath, hready⟩ hslash
    have hparse : Path.parse a.op.path = .ok ⟨made.segment, some (refer name)⟩ := by
      rw [hpath]
      exact Path.parse_pair hacted.planned.isPart (Path.isPart_refer hslash)
    obtain ⟨dispatch, htarget, hplanned⟩ :=
      hready.planned hparse hacted.planned.resolve (a.before.refs.target_refer_eq_ok_iff.2 hknown)
    exact ⟨dispatch, htarget, hplanned, e.perform_recorded_of_plan (Operation.plan_eq_ok_iff.2 hplanned) a.state⟩
  case slashed =>
    rintro ⟨hpath, hready⟩ hslash calls
    have hmem : '/' ∈ (refer name).toList := by
      rw [refer, String.toList_append]
      exact List.mem_append_right _ hslash
    have hparse : Path.parse a.op.path = .error (Path.malformed a.op.path) := by
      rw [hpath]
      exact Path.parse_of_mem hacted.planned.isPart hmem
    obtain ⟨cause, ⟨⟩, hplan⟩ := Requirement.plan_of_firstUnmet (hready.firstUnmet e.registry hparse)
    exact e.perform_recorded_of_error hplan a.state calls

theorem start_referenceReaches_chain :
    ∃ a made id, chain.check numbering.limits = .ok () ∧ (numbering.start {} chain 7).attempts[3]? = some a ∧
      MadeBefore numbering (numbering.start {} chain 7).attempts 3 made "a" id ∧ a.RefersTo made "a" ∧
      ReferenceReaches numbering a made "a" id := by
  have hmade : MadeBefore numbering (numbering.start {} chain 7).attempts 3
      ⟨"Things", _, .create (.object [])⟩ "a" ⟨.ofNat 128 7⟩ :=
    ⟨0, _, by decide, rfl, ⟨Operation.plan_eq_ok_iff.1 rfl, .created rfl⟩, rfl⟩
  exact ⟨_, _, _, rfl, rfl, hmade, ⟨rfl, .inl rfl⟩, start_referenceReaches numbering {} chain 7 rfl rfl hmade⟩

def slashed : Request where
  errorBudget := none
  operations := [.create "a/b" "Things" (.object []), .delete "Things/placeholder-ref:a/b"]

theorem slashed_unreached :
    ∃ a made id, slashed.check numbering.limits = .ok () ∧ (numbering.start {} slashed 7).attempts[1]? = some a ∧
      MadeBefore numbering (numbering.start {} slashed 7).attempts 1 made "a/b" id ∧ a.RefersTo made "a/b" ∧
      ¬ a.Reaches numbering made.segment made.entry id := by
  have hmade : MadeBefore numbering (numbering.start {} slashed 7).attempts 1
      ⟨"Things", _, .create (.object [])⟩ "a/b" ⟨.ofNat 128 7⟩ :=
    ⟨0, _, by decide, rfl, ⟨Operation.plan_eq_ok_iff.1 rfl, .created rfl⟩, rfl⟩
  refine ⟨_, _, _, rfl, rfl, hmade, ⟨rfl, .inl rfl⟩, ?_⟩
  rintro ⟨dispatch, -, hplanned, -⟩
  cases Operation.plan_eq_ok_iff.2 hplanned

end Roster.Batch
