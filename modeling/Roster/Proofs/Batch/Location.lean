import Mathlib.Data.List.DropRight
import Roster.Proofs.Batch.Path
import Roster.Proofs.Batch.Reference
import Roster.Proofs.Batch.Run

namespace Roster.Batch

variable {σ : Type}

/-- What a location begins with: nothing, or a base URL without the slashes at its end, and then a slash. -/
inductive Root : Option String → (base slash : String) → Prop
  | none : Root none "" ""
  | trimmed {base : String} (n : Nat) : base.toList.getLast? ≠ some '/' →
    Root (some (base ++ .ofList (.replicate n '/'))) base "/"

theorem root_trimSlashes (url : String) : Root (some url) (trimSlashes url) "/" := by
  have hbase : (trimSlashes url).toList = url.toList.rdropWhile (· = '/') := String.toList_ofList
  have hslashes : url.toList.rtakeWhile (· = '/') =
      .replicate (url.toList.rtakeWhile (· = '/')).length '/' :=
    List.eq_replicate_of_mem fun c hc => by simpa using List.mem_rtakeWhile_imp hc
  have hurl : trimSlashes url ++ .ofList (.replicate (url.toList.rtakeWhile (· = '/')).length '/') = url := by
    apply String.toList_injective
    rw [String.toList_append, hbase, String.toList_ofList, ← hslashes, List.rdropWhile_append_rtakeWhile]
  have hlast : (trimSlashes url).toList.getLast? ≠ some '/' := by
    rw [hbase]
    intro h
    obtain ⟨hne, hlast⟩ := List.mem_getLast?_eq_getLast h
    exact List.rdropWhile_last_not _ _ hne (by simp [← hlast])
  have := Root.trimmed (url.toList.rtakeWhile (· = '/')).length hlast
  rwa [hurl] at this

theorem Root.slash_eq {url : Option String} {base slash : String} (h : Root url base slash) :
    slash = "" ∨ slash = "/" := by
  cases h with
  | none => exact .inl rfl
  | trimmed => exact .inr rfl

def Endpoint.rooted (registry : Registry σ) (limits : Limits) : Option String → Endpoint σ
  | none => { registry := registry, limits := limits }
  | some url => Endpoint.withBaseUrl { registry := registry, limits := limits } url

structure Addresses (registry : Registry σ) (path segment : String) (entry : Registry.Entry σ) (id : Uuid) :
    Prop where
  parsed : Path.parse path = .ok ⟨segment, some id.text⟩
  registered : registry.resolve segment = .ok entry
  identified : ∀ refs : References, refs.target id.text = .ok id
  updates : ∀ (op : Operation) (refs : References) (data payload : Json), op.verb = .update → op.path = path →
    op.data = some data → refs.resolved data = .ok payload →
    op.plan registry refs = .ok ⟨segment, entry, .update id payload⟩
  deletes : ∀ (op : Operation) (refs : References), op.verb = .delete → op.path = path →
    op.plan registry refs = .ok ⟨segment, entry, .delete id⟩

theorem addresses_of_parse {registry : Registry σ} {path segment : String} {entry : Registry.Entry σ} {id : Uuid}
    (hparse : Path.parse path = .ok ⟨segment, some id.text⟩) (hentry : registry.resolve segment = .ok entry) :
    Addresses registry path segment entry id where
  parsed := hparse
  registered := hentry
  identified refs := refs.target_text id
  updates _ refs _ _ hverb hpath hdata hresolved :=
    Operation.plan_eq_ok_iff.2 (.update hverb hdata hresolved (hpath ▸ hparse) hentry (refs.target_text id))
  deletes _ refs hverb hpath :=
    Operation.plan_eq_ok_iff.2 (.delete hverb (hpath ▸ hparse) hentry (refs.target_text id))

theorem Path.parse_slash_append {segment slash : String} (hslash : slash = "" ∨ slash = "/") (hsegment : IsPart segment)
    (id : Uuid) : parse (slash ++ (segment ++ "/" ++ id.text)) = .ok ⟨segment, some id.text⟩ := by
  refine parse_eq_ok_iff.2 ⟨wellFormed_pair hsegment (isPart_text id), ?_⟩
  rcases hslash with rfl | rfl
  · exact .inl String.empty_append
  · exact .inr rfl

theorem Operation.Planned.isPart {registry : Registry σ} {refs : References} {op : Operation} {plan : Plan σ}
    (h : op.Planned registry refs plan) : Path.IsPart plan.segment := by
  cases h with
  | create _ _ _ _ hpath | update _ _ _ hpath | delete _ hpath => exact (Path.eq_lead_append_text hpath).1.1

theorem Operation.Planned.resolve {registry : Registry σ} {refs : References} {op : Operation} {plan : Plan σ}
    (h : op.Planned registry refs plan) : registry.resolve plan.segment = .ok plan.entry := by
  cases h with
  | create _ _ _ _ _ hentry | update _ _ _ _ hentry | delete _ _ hentry => exact hentry

namespace Endpoint

theorem rooted_location (registry : Registry σ) (limits : Limits) (url : Option String) :
    ∃ base slash, Root url base slash ∧ ∀ segment id,
      (rooted registry limits url).location segment id = base ++ (slash ++ (segment ++ "/" ++ id.text)) := by
  cases url with
  | none => exact ⟨"", "", .none, fun segment id => by simp only [rooted, location, String.empty_append]⟩
  | some url =>
    refine ⟨trimSlashes url, "/", root_trimSlashes url, fun segment id => ?_⟩
    simp only [rooted, withBaseUrl, location, String.append_assoc]

/-- The locations of what is created or changed. They are made of the base, and of a path that leads to the resource; no two
resources have one location. -/
structure Locates (e : Endpoint σ) (base slash : String) : Prop where
  reported : ∀ (caller : Caller σ) (r : Request) (s : σ), ∀ a ∈ (e.start caller r s).attempts,
    a.result.isSuccess = true → a.op.verb ≠ .delete →
    ∃ plan effect, a.Acted e plan effect ∧
      a.result.location = some (base ++ (slash ++ (plan.segment ++ "/" ++ effect.id.text))) ∧
      Addresses e.registry (slash ++ (plan.segment ++ "/" ++ effect.id.text)) plan.segment plan.entry effect.id
  apart : ∀ (caller caller' : Caller σ) (r r' : Request) (s s' : σ), ∀ a ∈ (e.start caller r s).attempts,
    ∀ a' ∈ (e.start caller' r' s').attempts, ∀ location plan plan' effect effect',
    a.result.location = some location → a'.result.location = some location →
    a.Acted e plan effect → a'.Acted e plan' effect' → plan.segment = plan'.segment ∧ effect.id = effect'.id

variable {e : Endpoint σ}

theorem locate_eq_some {segment location : String} {effect : Effect} (h : e.locate segment effect = some location) :
    e.location segment effect.id = location := by
  cases effect with
  | created | modified => exact Option.some.inj h
  | removed => cases h

theorem locate_of_acted {a : Attempt σ} {plan : Plan σ} {effect : Effect} (h : a.Acted e plan effect)
    (hverb : a.op.verb ≠ .delete) : e.locate plan.segment effect = some (e.location plan.segment effect.id) := by
  obtain ⟨segment, entry, dispatch⟩ := plan
  obtain ⟨hplanned, hdone⟩ := h
  cases hdone with
  | created | modified => rfl
  | removed =>
    cases hplanned with
    | delete hdelete => exact absurd hdelete hverb

theorem exists_acted {a : Attempt σ} (ha : e.attempt a.op a.before a.state = a) (h : a.result.isSuccess = true) :
    ∃ plan effect, a.Acted e plan effect := by
  cases houtcome : a.outcome with
  | error cause =>
    rw [Attempt.result, houtcome] at h
    cases h
  | ok done =>
    obtain ⟨plan, hacted, -⟩ := (e.outcome_eq_ok_iff ha).1 houtcome
    exact ⟨plan, done.1, hacted⟩

theorem result_location {a : Attempt σ} (ha : e.attempt a.op a.before a.state = a) {plan : Plan σ} {effect : Effect}
    (h : a.Acted e plan effect) : a.result.location = e.locate plan.segment effect := by
  rw [Attempt.result, (e.outcome_eq_ok_iff ha).2 ⟨plan, h, rfl⟩]
  rfl

section

variable {base slash : String} (hslash : slash = "" ∨ slash = "/")
  (hlocation : ∀ segment id, e.location segment id = base ++ (slash ++ (segment ++ "/" ++ id.text)))

include hslash hlocation

theorem location_injective {segment segment' : String} (hs : Path.IsPart segment) (hs' : Path.IsPart segment')
    {id id' : Uuid} (h : e.location segment id = e.location segment' id') : segment = segment' ∧ id = id' := by
  rw [hlocation, hlocation, String.append_right_inj] at h
  -- What is left is read as one path, and that names one segment and one identifier.
  have hparse := Path.parse_slash_append hslash hs id
  rw [h, Path.parse_slash_append hslash hs' id'] at hparse
  obtain ⟨hsegment, htext⟩ := Path.mk.inj (Except.ok.inj hparse)
  exact ⟨hsegment.symm, Uuid.text_injective (Option.some.inj htext).symm⟩

theorem locates_of_location : e.Locates base slash := by
  constructor
  case reported =>
    intro caller r s a hmem hsuccess hverb
    have ha := e.made_of_mem_start hmem
    obtain ⟨plan, effect, hacted⟩ := exists_acted ha hsuccess
    refine ⟨plan, effect, hacted, ?_, addresses_of_parse ?_ hacted.planned.resolve⟩
    · rw [result_location ha hacted, locate_of_acted hacted hverb, hlocation]
    · exact Path.parse_slash_append hslash hacted.planned.isPart effect.id
  case apart =>
    intro caller caller' r r' s s' a hmem a' hmem' location plan plan' effect effect' hl hl' hacted hacted'
    rw [result_location (e.made_of_mem_start hmem) hacted] at hl
    rw [result_location (e.made_of_mem_start hmem') hacted'] at hl'
    exact location_injective hslash hlocation hacted.planned.isPart hacted'.planned.isPart
      ((locate_eq_some hl).trans (locate_eq_some hl').symm)

end

theorem locates_rooted (registry : Registry σ) (limits : Limits) (url : Option String) :
    ∃ base slash, Root url base slash ∧ (rooted registry limits url).Locates base slash := by
  obtain ⟨base, slash, hroot, hlocation⟩ := rooted_location registry limits url
  exact ⟨base, slash, hroot, locates_of_location hroot.slash_eq hlocation⟩

example : ((rooted numbering.registry {} "http://localhost//").start {} chain 7).attempts.map (·.result.location) =
    [some "http://localhost/Things/00000000-0000-0000-0000-000000000007",
      some "http://localhost/Things/00000000-0000-0000-0000-000000000007", none, none] := by
  rfl

end Endpoint

end Roster.Batch
