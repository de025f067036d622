import Roster.Directory
import Roster.Proofs.Actor.LastWrite
import Roster.Proofs.Resource.Attribute

/-! The attributes of custom resources over the whole life of their actor.  Nothing is created without any, but an update
may take all of them away. -/

namespace Roster

abbrev CustomTurn (σ : Type) : Type :=
  Turn (Store Uuid CustomResource × σ) Uuid CustomCreate CustomUpdate (Failure CustomError) CustomResource

namespace CustomResource

structure Empties (change stored : Attributes) : Prop where
  removes : ∀ name, (Json.get? name stored).isSome → mention? name change = some .null
  gives : ∀ name, ∀ v ∈ mention? name change, v = .null

theorem onUpdate_eq_ok {σ : Type} {change : CustomUpdate} {r r' : CustomResource} {s s' : σ}
    (h : hooks.onUpdate change r s = ((.ok (), r'), s')) :
    r' = { r with attributes := merge r.attributes change.attributes } := by
  simp only [hooks] at h
  cases hintruder : intruder? change.attributes with
  | some name => simp [hintruder] at h
  | none =>
    simp only [hintruder, Prod.mk.injEq] at h
    exact h.1.2.symm

theorem get?_merge_eq_none_iff {name : String} {stored change : Attributes} :
    Json.get? name (merge stored change) = none ↔
      mention? name change = some .null ∨ mention? name change = none ∧ Json.get? name stored = none := by
  rw [get?_merge]
  cases mention? name change with
  | none => simp
  | some v => simp [wanted_eq_none_iff]

theorem merge_eq_nil_iff {stored change : Attributes} : merge stored change = [] ↔ Empties change stored := by
  rw [Json.eq_nil_iff]
  constructor
  · intro h
    constructor
    case removes =>
      intro name hstored
      rcases get?_merge_eq_none_iff.1 (h name) with hnull | ⟨-, hnone⟩
      · exact hnull
      · simp [hnone] at hstored
    case gives =>
      intro name v hv
      rcases get?_merge_eq_none_iff.1 (h name) with hnull | ⟨hnone, -⟩
      · exact Option.some.inj (hv.symm.trans hnull)
      · cases hv.symm.trans hnone
  · intro h name
    rw [get?_merge_eq_none_iff]
    cases hmention : mention? name change with
    | none =>
      refine .inr ⟨rfl, Option.not_isSome_iff_eq_none.1 fun hstored => ?_⟩
      cases hmention.symm.trans (h.removes name hstored)
    | some v => exact .inl (congrArg some (h.gives name v hmention))

inductive EmptyingTurn {σ : Type} (id : Uuid) : CustomTurn σ → Prop
  | update {change : CustomUpdate} {store store' : Store Uuid CustomResource} {s s' : σ} {r r' : CustomResource} :
    store.get? id = some r → Empties change.attributes r.attributes →
    EmptyingTurn id ⟨.update id change, (store, s), .ok (.updated r'), (store', s')⟩

theorem EmptyingTurn.writes {σ : Type} {id : Uuid} {t : CustomTurn σ} (h : EmptyingTurn id t)
    (fresh : Action σ Uuid) : ∃ r, t.Writes hooks fresh id r := by
  cases h with
  | update => exact ⟨_, .update rfl rfl⟩

end CustomResource

namespace Actor

open CustomResource (hooks EmptyingTurn)

variable {σ : Type} {fresh : Action σ Uuid} {t : CustomTurn σ} {id : Uuid} {r : CustomResource}

theorem Handled.attributes_eq_nil_iff (ht : Handled hooks fresh t) (h : t.Writes hooks fresh id r) :
    r.attributes = [] ↔ EmptyingTurn id t := by
  cases ht with
  | created hbuild hcreate =>
    obtain ⟨⟨⟩, ⟨⟩, hbuilt, rfl⟩ | ⟨⟨⟩, -⟩ := h
    obtain ⟨-, hne, rfl⟩ := CustomResource.build_eq_ok_iff.1 hbuilt
    exact ⟨fun hnil => absurd hnil hne, nofun⟩
  | @updated id' change store s s' a b hget hupdate =>
    obtain ⟨⟨⟩, -⟩ | ⟨⟨⟩, ⟨⟩⟩ := h
    obtain rfl := CustomResource.onUpdate_eq_ok hupdate
    rw [CustomResource.merge_eq_nil_iff]
    constructor
    · exact fun hempties => .update hget hempties
    · rintro ⟨hget', hempties⟩
      obtain rfl := Option.some.inj (hget.symm.trans hget')
      exact hempties
  | unbuilt | refused | updateMissed | updateFailed | deleteMissed | deleteFailed =>
    exact absurd (.inl ⟨r, h⟩) (not_touches_of_error rfl id)
  | found | deleted => obtain ⟨⟨⟩, -⟩ | ⟨⟨⟩, -⟩ := h

variable {others : σ → σ → Prop} {s₀ : σ} {st : Store Uuid CustomResource × σ} {ts : List (CustomTurn σ)}

theorem History.attributeless_iff (hist : History hooks fresh others s₀ ts st) (h : st.1.get? id = some r) :
    r.attributes = [] ↔ ∃ before t after, ts = before ++ t :: after ∧ EmptyingTurn id t ∧
      ∀ t' ∈ after, ¬ t'.Touches hooks fresh id := by
  have hhandled : ∀ before t after, ts = before ++ t :: after → Handled hooks fresh t := by
    rintro before t after rfl
    exact (hist.take (i := before.length) (by simp)).2
  constructor
  · intro hnil
    obtain ⟨before, t, after, hsplit, hwrites, hafter⟩ := (hist.get?_iff id r).1 h
    have ht := hhandled before t after hsplit
    exact ⟨before, t, after, hsplit, (ht.attributes_eq_nil_iff hwrites).1 hnil, hafter⟩
  · rintro ⟨before, t, after, hsplit, hemptying, hafter⟩
    -- It wrote what is stored now.
    obtain ⟨r', hwrites⟩ := hemptying.writes fresh
    have hstored : st.1.get? id = some r' := (hist.get?_iff id r').2 ⟨before, t, after, hsplit, hwrites, hafter⟩
    obtain rfl := Option.some.inj (h.symm.trans hstored)
    exact ((hhandled before t after hsplit).attributes_eq_nil_iff hwrites).2 hemptying

def numbered : Action Nat Uuid := Directory.draw fun n => ⟨.ofNat 128 n⟩

def stripping : List (Request Uuid CustomCreate CustomUpdate) := [
  .create ⟨"Devices", [("serial", .string "A-1")]⟩,
  .update ⟨.ofNat 128 0⟩ ⟨[("serial", .null)]⟩]

theorem History.attributeless_iff_stripping : ∃ ts st r,
    History hooks numbered (fun _ _ => False) 0 ts st ∧
    ts.map Turn.answer = [.ok (.created ⟨.ofNat 128 0⟩), .ok (.updated r)] ∧
    st.1.get? ⟨.ofNat 128 0⟩ = some r ∧ r.attributes = [] ∧
    (r.attributes = [] ↔ ∃ before t after, ts = before ++ t :: after ∧ EmptyingTurn ⟨.ofNat 128 0⟩ t ∧
      ∀ t' ∈ after, ¬ t'.Touches hooks numbered ⟨.ofNat 128 0⟩) := by
  have hist : History hooks numbered (fun _ _ => False) 0 _ _ := History.start.sendAll stripping
  exact ⟨_, _, _, hist, rfl, rfl, rfl, hist.attributeless_iff rfl⟩

theorem not_forall_attributes_ne_nil :
    ¬ ∀ ts st, History hooks numbered (fun _ _ => False) 0 ts st →
      ∀ id r, st.1.get? id = some r → r.attributes ≠ [] := by
  intro h
  have hist : History hooks numbered (fun _ _ => False) 0 _ _ := History.start.sendAll stripping
  exact h _ _ hist ⟨.ofNat 128 0⟩ ⟨⟨.ofNat 128 0⟩, "Devices", []⟩ rfl rfl

end Actor

end Roster
