import Mathlib.Data.List.Pairwise
import Mathlib.Data.Set.Function
import Mathlib.Order.Interval.Set.Defs
import Roster.Proofs.Actor.Keys
import Roster.Proofs.Actor.LastWrite

namespace Roster

variable {σ ι κ υ ε α : Type}

namespace Turn

variable (fresh : Action σ ι) (t : Turn (Store ι α × σ) ι κ υ (Failure ε) α)

def taken? : Option ι := t.request.create?.map fun _ => (fresh t.before.2).1

def created? : Option ι :=
  match t.answer with
  | .ok (.created id) => some id
  | _ => none

def deleted? : Option ι :=
  match t.request, t.answer with
  | .delete id, .ok .deleted => some id
  | _, _ => none

def creates : Bool := t.request.create?.isSome

end Turn

open scoped List

theorem filterMap_append_singleton {β γ : Type} (f : β → Option γ) (l : List β) (b : β) :
    (l ++ [b]).filterMap f = l.filterMap f ++ (f b).toList := by
  rw [List.filterMap_append]
  cases hb : f b <;> simp [hb]

theorem injOn_of_sublist {β γ : Type} {p : β → Bool} {l l' : List β} {f : Nat → γ} (hsub : l'.Sublist l)
    (hf : (Set.Iio (l.countP p)).InjOn f) : (Set.Iio (l'.countP p)).InjOn f :=
  hf.mono fun _ hi => Nat.lt_of_lt_of_le hi hsub.countP_le

def Hooks.beside (h : Hooks σ ι κ υ ε α) : Hooks (σ × Nat) ι κ υ ε α where
  build := h.build
  onCreate a := (h.onCreate a).within Prod.fst fun s (_, n) => (s, n)
  onUpdate change a := (h.onUpdate change a).within Prod.fst fun s (_, n) => (s, n)
  onDelete a := (h.onDelete a).within Prod.fst fun s (_, n) => (s, n)

namespace Actor

/-- The identifiers come from a sequence that only the create requests of this actor draw from. -/
structure Draws (h : Hooks σ ι κ υ ε α) (fresh : Action σ ι) (others : σ → σ → Prop) (generate : Nat → ι)
    (drawn : σ → Nat) : Prop where
  fresh : ∀ s, (fresh s).1 = generate (drawn s) ∧ drawn (fresh s).2 = drawn s + 1
  onCreate : ∀ a s, drawn (h.onCreate a s).2 = drawn s
  onUpdate : ∀ change a s, drawn (h.onUpdate change a s).2 = drawn s
  onDelete : ∀ a s, drawn (h.onDelete a s).2 = drawn s
  others : ∀ s s', others s s' → drawn s' = drawn s

def drawBeside (generate : Nat → ι) : Action (σ × Nat) ι := fun (s, n) => (generate n, s, n + 1)

theorem draws_beside (h : Hooks σ ι κ υ ε α) (generate : Nat → ι) {others : σ × Nat → σ × Nat → Prop}
    (hothers : ∀ s s', others s s' → s'.2 = s.2) :
    Draws h.beside (drawBeside generate) others generate Prod.snd where
  fresh _ := ⟨rfl, rfl⟩
  onCreate _ _ := rfl
  onUpdate _ _ _ := rfl
  onDelete _ _ := rfl
  others := hothers

variable [DecidableEq ι] [ToString ι] {h : Hooks σ ι κ υ ε α} {fresh : Action σ ι} {others : σ → σ → Prop}
  {generate : Nat → ι} {drawn : σ → Nat} {s₀ : σ} {st : Store ι α × σ}
  {ts : List (Turn (Store ι α × σ) ι κ υ (Failure ε) α)} {t : Turn (Store ι α × σ) ι κ υ (Failure ε) α}

namespace Handled

theorem drawn_after (ht : Handled h fresh t) (hd : Draws h fresh others generate drawn) :
    drawn t.after.2 = drawn t.before.2 + if t.creates then 1 else 0 := by
  cases ht with
  | unbuilt => exact (hd.fresh _).2
  | @refused _ _ s s' a b _ _ hcreate | @created _ _ s s' a b _ hcreate =>
    have hkept := hd.onCreate a (fresh s).2
    rw [hcreate, (hd.fresh s).2] at hkept
    exact hkept
  | found | updateMissed | deleteMissed => rfl
  | @updateFailed _ change _ s _ a _ _ _ hupdate | @updated _ change _ s _ a _ _ hupdate =>
    have hkept := hd.onUpdate change a s
    rw [hupdate] at hkept
    exact hkept
  | @deleteFailed _ _ s _ a _ _ hdelete | @deleted _ _ s _ a _ hdelete =>
    have hkept := hd.onDelete a s
    rw [hdelete] at hkept
    exact hkept

theorem taken?_of_created (ht : Handled h fresh t) {id : ι} (hid : t.created? = some id) :
    t.taken? fresh = some id := by
  cases ht with
  | created => exact hid
  | unbuilt | refused | found | updateMissed | updateFailed | updated | deleteMissed | deleteFailed | deleted =>
    cases hid

theorem perm (ht : Handled h fresh t) (hkeys : t.before.1.keys.Nodup)
    (hnew : ∀ id, t.created? = some id → id ∉ t.before.1.keys) :
    t.after.1.keys ++ t.deleted?.toList ~ t.before.1.keys ++ t.created?.toList := by
  cases ht with
  | unbuilt | refused | found | updateMissed | updateFailed | deleteMissed | deleteFailed => exact .refl _
  | @created _ store s =>
    have hfree : (fresh s).1 ∉ store.keys := hnew _ rfl
    change (store.insert _ _).keys ++ [] ~ _
    rw [Store.keys_insert_of_not_mem hfree, List.append_nil]
    exact .refl _
  | updated hget =>
    have hmem := Store.mem_keys_iff.2 (Option.isSome_of_eq_some hget)
    change (Store.insert _ _ _).keys ++ [] ~ _
    rw [Store.keys_insert_of_mem hmem]
    exact .refl _
  | @deleted id store _ _ _ hget =>
    have hmem := Store.mem_keys_iff.2 (Option.isSome_of_eq_some hget)
    change (store.erase id).keys ++ [id] ~ store.keys ++ []
    rw [Store.keys_erase hkeys, List.append_nil]
    exact (List.perm_append_singleton id _).trans (List.perm_cons_erase hmem).symm

theorem perm_append (ht : Handled h fresh t) {created deleted : List ι}
    (hbefore : t.before.1.keys ++ deleted ~ created) (hcreated : (created ++ t.created?.toList).Nodup) :
    t.after.1.keys ++ (deleted ++ t.deleted?.toList) ~ created ++ t.created?.toList := by
  obtain ⟨hold, -, hnew⟩ := List.nodup_append.1 hcreated
  have hkeys : t.before.1.keys.Nodup := (List.nodup_append.1 (hbefore.nodup_iff.2 hold)).1
  have hfree : ∀ id, t.created? = some id → id ∉ t.before.1.keys := fun id hid hmem =>
    hnew id (hbefore.subset (List.mem_append_left _ hmem)) id (Option.mem_toList.2 hid) rfl
  calc t.after.1.keys ++ (deleted ++ t.deleted?.toList)
    _ ~ t.after.1.keys ++ t.deleted?.toList ++ deleted := by
      rw [List.append_assoc]
      exact List.perm_append_comm.append_left _
    _ ~ t.before.1.keys ++ t.created?.toList ++ deleted := (ht.perm hkeys hfree).append_right _
    _ ~ t.before.1.keys ++ deleted ++ t.created?.toList := by
      rw [List.append_assoc, List.append_assoc]
      exact List.perm_append_comm.append_left _
    _ ~ created ++ t.created?.toList := hbefore.append_right _

end Handled

namespace History

theorem drawn_eq (hist : History h fresh others s₀ ts st) (hd : Draws h fresh others generate drawn)
    (hstart : drawn s₀ = 0) : drawn st.2 = ts.countP Turn.creates := by
  induction hist with
  | start => exact hstart
  | others hother _ ih => exact (hd.others _ _ hother).trans ih
  | @turn ts st q _ ih =>
    rw [List.countP_append, List.countP_singleton, ← ih]
    exact (handled_turn h fresh q st).drawn_after hd

theorem taken_eq (hist : History h fresh others s₀ ts st) (hd : Draws h fresh others generate drawn)
    (hstart : drawn s₀ = 0) :
    ts.filterMap (Turn.taken? fresh) = (List.range (ts.countP Turn.creates)).map generate := by
  induction hist with
  | start => rfl
  | others _ _ ih => exact ih
  | @turn ts st q hist ih =>
    have hnext : generate (ts.countP Turn.creates) = (fresh st.2).1 := by
      rw [← hist.drawn_eq hd hstart, (hd.fresh st.2).1]
    rw [filterMap_append_singleton, List.countP_append, List.countP_singleton, ih]
    cases q with
    | create params =>
      rw [show ((client h fresh).turn (.create params) st).creates = true from rfl, if_pos rfl, List.range_succ,
        List.map_append, List.map_singleton, hnext]
      rfl
    | get | update | delete => exact List.append_nil _

theorem created_sublist (hist : History h fresh others s₀ ts st) :
    (ts.filterMap Turn.created?).Sublist (ts.filterMap (Turn.taken? fresh)) := by
  induction hist with
  | start => exact .refl _
  | others _ _ ih => exact ih
  | @turn ts st q _ ih =>
    rw [filterMap_append_singleton, filterMap_append_singleton]
    apply ih.append
    cases hid : ((client h fresh).turn q st).created? with
    | none => exact List.nil_sublist _
    | some id => rw [(handled_turn h fresh q st).taken?_of_created hid]

variable (hist : History h fresh others s₀ ts st) (hd : Draws h fresh others generate drawn)
  (hstart : drawn s₀ = 0) (hgen : (Set.Iio (ts.countP Turn.creates)).InjOn generate)

include hist hd hstart hgen

theorem nodup_taken : (ts.filterMap (Turn.taken? fresh)).Nodup := by
  rw [hist.taken_eq hd hstart]
  refine List.nodup_range.map_on fun i hi j hj heq => ?_
  exact hgen (List.mem_range.1 hi) (List.mem_range.1 hj) heq

theorem nodup_created : (ts.filterMap Turn.created?).Nodup :=
  hist.created_sublist.nodup (hist.nodup_taken hd hstart hgen)

theorem perm : st.1.keys ++ ts.filterMap Turn.deleted? ~ ts.filterMap Turn.created? := by
  induction hist with
  | start => exact .refl _
  | others _ _ ih => exact ih hgen
  | @turn ts st q hist ih =>
    -- That the next identifier is not a key follows from what was created so far, together with it.
    have hcreated := (hist.turn q).nodup_created hd hstart hgen
    have hbefore := ih (injOn_of_sublist (List.sublist_append_left _ _) hgen)
    rw [filterMap_append_singleton] at hcreated
    rw [filterMap_append_singleton, filterMap_append_singleton]
    exact (handled_turn h fresh q st).perm_append hbefore hcreated

theorem nodup_keys_deleted : (st.1.keys ++ ts.filterMap Turn.deleted?).Nodup :=
  (hist.perm hd hstart hgen).nodup_iff.2 (hist.nodup_created hd hstart hgen)

theorem get?_of_deleted {id : ι} (hid : id ∈ ts.filterMap Turn.deleted?) : st.1.get? id = none := by
  obtain ⟨-, -, hdisjoint⟩ := List.nodup_append.1 (hist.nodup_keys_deleted hd hstart hgen)
  exact Store.get?_eq_none_iff.2 fun hmem => hdisjoint id hmem id hid rfl

theorem eq_of_taken {t t' : Turn (Store ι α × σ) ι κ υ (Failure ε) α} (ht : t ∈ ts) (ht' : t' ∈ ts) {id : ι}
    (hid : t.taken? fresh = some id) (hid' : t'.taken? fresh = some id) : t = t' := by
  have hdiffer := List.pairwise_filterMap.1 (hist.nodup_taken hd hstart hgen)
  have : Std.Symm fun t t' : Turn (Store ι α × σ) ι κ υ (Failure ε) α =>
      ∀ id, t.taken? fresh = some id → ∀ id', t'.taken? fresh = some id' → id ≠ id' :=
    ⟨fun t t' h id hid id' hid' => (h id' hid' id hid).symm⟩
  by_contra hne
  exact hdiffer.forall ht ht' hne id hid id hid' rfl

theorem not_created_of_failed (ht : t ∈ ts) {id : ι} {failure : Failure ε} (hid : t.taken? fresh = some id)
    (hfailed : t.answer = .error failure) : id ∉ ts.filterMap Turn.created? := by
  intro hmem
  obtain ⟨t', ht', hcreated⟩ := List.mem_filterMap.1 hmem
  obtain ⟨i, hi⟩ := List.getElem?_of_mem ht'
  have htaken : t'.taken? fresh = some id := (hist.take hi).2.taken?_of_created hcreated
  cases hist.eq_of_taken hd hstart hgen ht ht' hid htaken
  rw [Turn.created?, hfailed] at hcreated
  cases hcreated

theorem get?_of_not_created {id : ι} (hid : id ∉ ts.filterMap Turn.created?) : st.1.get? id = none :=
  Store.get?_eq_none_iff.2 fun hmem =>
    hid ((hist.perm hd hstart hgen).subset (List.mem_append_left _ hmem))

end History

/-- What becomes of the identifiers. The first that the sequence gives are taken by the create requests in turn. -/
structure UsedOnce (h : Hooks σ ι κ υ ε α) (fresh : Action σ ι) (generate : Nat → ι) (drawn : σ → Nat)
    (ts : List (Turn (Store ι α × σ) ι κ υ (Failure ε) α)) (st : Store ι α × σ) : Prop where
  drawn : drawn st.2 = ts.countP Turn.creates
  taken : ts.filterMap (Turn.taken? fresh) = (List.range (ts.countP Turn.creates)).map generate
  created : ∀ (i : Nat) t id, ts[i]? = some t → t.created? = some id →
    t.creates ∧ id = generate ((ts.take i).countP Turn.creates)
  distinct : (ts.filterMap Turn.created?).Nodup
  keys : st.1.keys.Nodup ∧ ∀ id, id ∈ st.1.keys ↔ (st.1.get? id).isSome
  size : st.1.size + (ts.filterMap Turn.deleted?).length = (ts.filterMap Turn.created?).length
  failed : ∀ t ∈ ts, ∀ id failure, t.taken? fresh = some id → t.answer = .error failure →
    st.1.get? id = none ∧ ∀ t' ∈ ts, t'.before.1.get? id = none
  gone : ∀ (i j : Nat) t t' id, ts[i]? = some t → ts[j]? = some t' → i < j → t.deleted? = some id →
    (t'.request = .get id → t'.answer = .ok (.found none)) ∧
    (∀ change, t'.request = .update id change → t'.answer = .error (.notFound (toString id))) ∧
    (t'.request = .delete id → t'.answer = .error (.notFound (toString id)))

theorem History.usedOnce (hist : History h fresh others s₀ ts st) (hd : Draws h fresh others generate drawn)
    (hstart : drawn s₀ = 0) (hgen : (Set.Iio (ts.countP Turn.creates)).InjOn generate) :
    UsedOnce h fresh generate drawn ts st where
  drawn := hist.drawn_eq hd hstart
  taken := hist.taken_eq hd hstart
  created i t id ht hid := by
    obtain ⟨hbefore, hturn⟩ := hist.take ht
    obtain ⟨params, hparams, rfl⟩ := Option.map_eq_some_iff.1 (hturn.taken?_of_created hid)
    refine ⟨Option.isSome_of_eq_some hparams, ?_⟩
    rw [(hd.fresh _).1, hbefore.drawn_eq hd hstart]
  distinct := hist.nodup_created hd hstart hgen
  keys := ⟨(List.nodup_append.1 (hist.nodup_keys_deleted hd hstart hgen)).1, fun _ => Store.mem_keys_iff⟩
  size := by
    rw [← Store.length_keys, ← List.length_append]
    exact (hist.perm hd hstart hgen).length_eq
  failed t ht id failure hid hfailed := by
    have hnot := hist.not_created_of_failed hd hstart hgen ht hid hfailed
    refine ⟨hist.get?_of_not_created hd hstart hgen hnot, fun t' ht' => ?_⟩
    obtain ⟨j, hj⟩ := List.getElem?_of_mem ht'
    have hsub : (ts.take j).Sublist ts := List.take_sublist j ts
    exact (hist.take hj).1.get?_of_not_created hd hstart (injOn_of_sublist hsub hgen)
      fun hmem => hnot ((hsub.filterMap _).subset hmem)
  gone i j t t' id ht ht' hij hid := by
    obtain ⟨hbefore, hturn⟩ := hist.take ht'
    have hearlier : (ts.take j)[i]? = some t := (List.getElem?_take_of_lt hij).trans ht
    have hdeleted : id ∈ (ts.take j).filterMap Turn.deleted? :=
      List.mem_filterMap.2 ⟨t, List.mem_of_getElem? hearlier, hid⟩
    have hnone : t'.before.1.get? id = none :=
      hbefore.get?_of_deleted hd hstart (injOn_of_sublist (List.take_sublist j ts) hgen) hdeleted
    refine ⟨fun hq => ?_, fun _ hq => hturn.update_of_none hq hnone, fun hq => hturn.delete_of_none hq hnone⟩
    rw [hturn.get_eq hq, hnone]

end Actor

end Roster
