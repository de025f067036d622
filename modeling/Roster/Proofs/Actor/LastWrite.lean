import Roster.Proofs.Actor.History

namespace Roster

variable {σ ι κ υ ε α : Type}

namespace Turn

variable (h : Hooks σ ι κ υ ε α) (fresh : Action σ ι) (t : Turn (Store ι α × σ) ι κ υ (Failure ε) α)

inductive Writes (id : ι) (a : α) : Prop
  | create {params : κ} {built : α} : t.request = .create params → t.answer = .ok (.created id) →
      h.build id params = .ok built → (h.onCreate built (fresh t.before.2).2).1.2 = a → Writes id a
  | update {change : υ} : t.request = .update id change → t.answer = .ok (.updated a) → Writes id a

def Deletes (id : ι) : Prop := t.request = .delete id ∧ t.answer = .ok .deleted

def Touches (id : ι) : Prop := (∃ a, t.Writes h fresh id a) ∨ t.Deletes id

end Turn

namespace Actor

variable (h : Hooks σ ι κ υ ε α) (fresh : Action σ ι)

/-- The entity is the one that was last written under the identifier, and not deleted afterwards. -/
def LastWrite (ts : List (Turn (Store ι α × σ) ι κ υ (Failure ε) α)) (id : ι) (a : α) : Prop :=
  ∃ before t after, ts = before ++ t :: after ∧ t.Writes h fresh id a ∧ ∀ t' ∈ after, ¬ t'.Touches h fresh id

variable {h fresh} {ts : List (Turn (Store ι α × σ) ι κ υ (Failure ε) α)}
  {t : Turn (Store ι α × σ) ι κ υ (Failure ε) α}

theorem not_lastWrite_nil (id : ι) (a : α) : ¬ LastWrite h fresh [] id a := by
  rintro ⟨before, t, after, heq, -⟩
  simp at heq

theorem lastWrite_append {id : ι} {a : α} :
    LastWrite h fresh (ts ++ [t]) id a ↔
      t.Writes h fresh id a ∨ ¬ t.Touches h fresh id ∧ LastWrite h fresh ts id a := by
  constructor
  · rintro ⟨before, t', after, heq, hwrites, hafter⟩
    obtain rfl | ⟨after, last, rfl⟩ := after.eq_nil_or_concat
    · obtain ⟨-, rfl⟩ := List.append_singleton_inj.1 heq
      exact .inl hwrites
    · rw [List.concat_eq_append] at heq hafter
      rw [← List.cons_append, ← List.append_assoc] at heq
      obtain ⟨rfl, rfl⟩ := List.append_singleton_inj.1 heq
      exact .inr ⟨hafter t (by simp), before, t', after, rfl, hwrites,
        fun t'' ht'' => hafter t'' (List.mem_append_left _ ht'')⟩
  · rintro (hwrites | ⟨htouches, before, t', after, rfl, hwrites, hafter⟩)
    · exact ⟨ts, t, [], rfl, hwrites, nofun⟩
    · refine ⟨before, t', after ++ [t], by simp, hwrites, fun t'' ht'' => ?_⟩
      obtain ht'' | ht'' := List.mem_append.1 ht''
      · exact hafter t'' ht''
      · exact List.mem_singleton.1 ht'' ▸ htouches

theorem not_touches_of_error {failure : Failure ε} (ha : t.answer = .error failure) (id : ι) :
    ¬ t.Touches h fresh id := by
  rintro (⟨a, hwrites⟩ | ⟨-, hdeleted⟩)
  · cases hwrites with
    | create _ hok => cases ha.symm.trans hok
    | update _ hok => cases ha.symm.trans hok
  · cases ha.symm.trans hdeleted

variable [DecidableEq ι]

inductive Changes (h : Hooks σ ι κ υ ε α) (fresh : Action σ ι)
    (t : Turn (Store ι α × σ) ι κ υ (Failure ε) α) : Prop
  | nothing : (∀ id, ¬ t.Touches h fresh id) → t.after.1 = t.before.1 → Changes h fresh t
  | write {id : ι} {a : α} : (∀ id' a', t.Writes h fresh id' a' ↔ id' = id ∧ a' = a) →
      (∀ id', ¬ t.Deletes id') → t.after.1 = t.before.1.insert id a → Changes h fresh t
  | delete {id : ι} : (∀ id' a', ¬ t.Writes h fresh id' a') → (∀ id', t.Deletes id' ↔ id' = id) →
      t.after.1 = t.before.1.erase id → Changes h fresh t

theorem Changes.get?_after (ht : Changes h fresh t) (id : ι) (a : α) :
    t.after.1.get? id = some a ↔
      t.Writes h fresh id a ∨ ¬ t.Touches h fresh id ∧ t.before.1.get? id = some a := by
  cases ht with
  | nothing htouches hafter =>
    have hwrites : ¬ t.Writes h fresh id a := fun hw => htouches id (.inl ⟨a, hw⟩)
    simp [hafter, htouches id, hwrites]
  | @write id' a' hwrites hdeletes hafter =>
    have htouches : t.Touches h fresh id ↔ id = id' := by simp [Turn.Touches, hwrites, hdeletes]
    rw [hafter, Store.get?_insert, hwrites, htouches]
    by_cases heq : id = id'
    · simp [heq, eq_comm]
    · simp [heq]
  | @delete id' hwrites hdeletes hafter =>
    have htouches : t.Touches h fresh id ↔ id = id' := by simp [Turn.Touches, hwrites, hdeletes]
    rw [hafter, Store.get?_erase, htouches]
    by_cases heq : id = id'
    · simp [heq, hwrites]
    · simp [heq, hwrites]

variable [ToString ι]

theorem Handled.changes (ht : Handled h fresh t) : Changes h fresh t := by
  cases ht with
  | unbuilt | refused | updateMissed | updateFailed | deleteMissed | deleteFailed =>
    exact .nothing (not_touches_of_error rfl) rfl
  | found =>
    refine .nothing (fun id => ?_) rfl
    rintro (⟨a, ⟨⟨⟩⟩ | ⟨⟨⟩⟩⟩ | ⟨⟨⟩, -⟩)
  | created hbuild hcreate =>
    refine .write (fun id' a' => ⟨?_, ?_⟩) ?_ rfl
    · rintro (⟨⟨⟩, ⟨⟩, hbuilt, rfl⟩ | ⟨⟨⟩, -⟩)
      cases hbuild.symm.trans hbuilt
      rw [hcreate]
      exact ⟨rfl, rfl⟩
    · rintro ⟨rfl, rfl⟩
      exact .create rfl rfl hbuild (by rw [hcreate])
    · rintro id' ⟨⟨⟩, -⟩
  | updated hget hupdate =>
    refine .write (fun id' a' => ⟨?_, ?_⟩) ?_ rfl
    · rintro (⟨⟨⟩, -⟩ | ⟨⟨⟩, ⟨⟩⟩)
      exact ⟨rfl, rfl⟩
    · rintro ⟨rfl, rfl⟩
      exact .update rfl rfl
    · rintro id' ⟨⟨⟩, -⟩
  | deleted hget hdelete =>
    refine .delete (fun id' a' => ?_) (fun id' => ⟨?_, ?_⟩) rfl
    · rintro (⟨⟨⟩, -⟩ | ⟨⟨⟩, -⟩)
    · rintro ⟨⟨⟩, -⟩
      rfl
    · rintro rfl
      exact ⟨rfl, rfl⟩

theorem History.get?_iff {others : σ → σ → Prop} {s₀ : σ} {st : Store ι α × σ}
    (hist : History h fresh others s₀ ts st) (id : ι) (a : α) :
    st.1.get? id = some a ↔ LastWrite h fresh ts id a := by
  induction hist with
  | start => simp [not_lastWrite_nil]
  | others _ _ ih => exact ih
  | @turn ts st q _ ih =>
    rw [lastWrite_append, ← ih]
    exact (handled_turn h fresh q st).changes.get?_after id a

/-- How the next request is answered, by what the requests before it have written. -/
structure AtomicMap (h : Hooks σ ι κ υ ε α) (fresh : Action σ ι)
    (ts : List (Turn (Store ι α × σ) ι κ υ (Failure ε) α)) (st : Store ι α × σ) : Prop where
  get : ∀ id, ∃ found, (client h fresh).send (.get id) st = (.ok (.found found), st) ∧
    ∀ a, found = some a ↔ LastWrite h fresh ts id a
  createFailed : ∀ params failure, ((client h fresh).send (.create params) st).1 = .error failure ↔
    ∃ e, failure = .entity e ∧ (h.build (fresh st.2).1 params = .error e ∨
      ∃ a, h.build (fresh st.2).1 params = .ok a ∧ (h.onCreate a (fresh st.2).2).1.1 = .error e)
  updateMissed : ∀ id change text, ((client h fresh).send (.update id change) st).1 = .error (.notFound text) ↔
    ((client h fresh).send (.get id) st).1 = .ok (.found none) ∧ text = toString id
  updateFailed : ∀ id change a, ((client h fresh).send (.get id) st).1 = .ok (.found (some a)) →
    ∀ failure, ((client h fresh).send (.update id change) st).1 = .error failure ↔
      ∃ e, failure = .entity e ∧ (h.onUpdate change a st.2).1.1 = .error e
  deleteMissed : ∀ id text, ((client h fresh).send (.delete id) st).1 = .error (.notFound text) ↔
    ((client h fresh).send (.get id) st).1 = .ok (.found none) ∧ text = toString id
  deleteFailed : ∀ id a, ((client h fresh).send (.get id) st).1 = .ok (.found (some a)) →
    ∀ failure, ((client h fresh).send (.delete id) st).1 = .error failure ↔
      ∃ e, failure = .entity e ∧ (h.onDelete a st.2).1 = .error e
  kept : ∀ q failure, ((client h fresh).send q st).1 = .error failure →
    ((client h fresh).send q st).2.1 = st.1

variable {st : Store ι α × σ} {id : ι} {change : υ} {a : α} {failure : Failure ε}

namespace Handled

theorem store_of_error (ht : Handled h fresh t) (ha : t.answer = .error failure) :
    t.after.1 = t.before.1 := by
  cases ht with
  | unbuilt | refused | found | updateMissed | updateFailed | deleteMissed | deleteFailed => rfl
  | created | updated | deleted => cases ha

theorem create_error_iff (ht : Handled h fresh t) {params : κ} (hq : t.request = .create params) :
    t.answer = .error failure ↔ ∃ e, failure = .entity e ∧ (h.build (fresh t.before.2).1 params = .error e ∨
      ∃ a, h.build (fresh t.before.2).1 params = .ok a ∧ (h.onCreate a (fresh t.before.2).2).1.1 = .error e) := by
  cases ht with
  | unbuilt hbuild => cases hq; simp [hbuild, eq_comm]
  | refused hbuild hcreate => cases hq; simp [hbuild, hcreate, eq_comm]
  | created hbuild hcreate => cases hq; simp [hbuild, hcreate]
  | _ => cases hq

theorem get_eq (ht : Handled h fresh t) (hq : t.request = .get id) :
    t.answer = .ok (.found (t.before.1.get? id)) := by
  cases ht with
  | found => cases hq; rfl
  | _ => cases hq

theorem update_of_none (ht : Handled h fresh t) (hq : t.request = .update id change)
    (hget : t.before.1.get? id = none) : t.answer = .error (.notFound (toString id)) := by
  cases ht with
  | updateMissed => cases hq; rfl
  | updateFailed hstored | updated hstored => cases hq; cases hget.symm.trans hstored
  | _ => cases hq

theorem update_error_iff (ht : Handled h fresh t) (hq : t.request = .update id change)
    (hget : t.before.1.get? id = some a) :
    t.answer = .error failure ↔
      ∃ e, failure = .entity e ∧ (h.onUpdate change a t.before.2).1.1 = .error e := by
  cases ht with
  | updateMissed hnone => cases hq; cases hget.symm.trans hnone
  | updateFailed hstored hupdate | updated hstored hupdate =>
    cases hq
    cases hget.symm.trans hstored
    simp [hupdate, eq_comm]
  | _ => cases hq

theorem delete_of_none (ht : Handled h fresh t) (hq : t.request = .delete id)
    (hget : t.before.1.get? id = none) : t.answer = .error (.notFound (toString id)) := by
  cases ht with
  | deleteMissed => cases hq; rfl
  | deleteFailed hstored | deleted hstored => cases hq; cases hget.symm.trans hstored
  | _ => cases hq

theorem delete_error_iff (ht : Handled h fresh t) (hq : t.request = .delete id)
    (hget : t.before.1.get? id = some a) :
    t.answer = .error failure ↔ ∃ e, failure = .entity e ∧ (h.onDelete a t.before.2).1 = .error e := by
  cases ht with
  | deleteMissed hnone => cases hq; cases hget.symm.trans hnone
  | deleteFailed hstored hdelete | deleted hstored hdelete =>
    cases hq
    cases hget.symm.trans hstored
    simp [hdelete, eq_comm]
  | _ => cases hq

end Handled

theorem eq_notFound_iff {answer : Except (Failure ε) (Reply ι α)} {text : String}
    (hnone : st.1.get? id = none → answer = .error (.notFound (toString id)))
    (hsome : ∀ a, st.1.get? id = some a → ∀ failure, answer = .error failure → ∃ e, failure = .entity e) :
    answer = .error (.notFound text) ↔
      ((client h fresh).send (.get id) st).1 = .ok (.found none) ∧ text = toString id := by
  have hget : ((client h fresh).send (.get id) st).1 = .ok (.found (st.1.get? id)) :=
    (handled_turn h fresh (.get id) st).get_eq rfl
  rw [hget]
  cases hfound : st.1.get? id with
  | none => simp [hnone hfound, eq_comm]
  | some a =>
    refine ⟨fun hmissed => ?_, by simp⟩
    obtain ⟨e, he⟩ := hsome a hfound _ hmissed
    cases he

theorem History.atomicMap {others : σ → σ → Prop} {s₀ : σ} (hist : History h fresh others s₀ ts st) :
    AtomicMap h fresh ts st := by
  have hturn := fun q => handled_turn h fresh q st
  exact {
    get := fun id => ⟨st.1.get? id, rfl, hist.get?_iff id⟩
    createFailed := fun params failure => (hturn (.create params)).create_error_iff rfl
    updateMissed := fun id change text => eq_notFound_iff ((hturn (.update id change)).update_of_none rfl)
      fun a hget failure hfailed =>
        (((hturn (.update id change)).update_error_iff rfl hget).1 hfailed).imp fun _ => And.left
    updateFailed := fun id change a hget failure =>
      (hturn (.update id change)).update_error_iff rfl (Reply.found.inj (Except.ok.inj hget))
    deleteMissed := fun id text => eq_notFound_iff ((hturn (.delete id)).delete_of_none rfl)
      fun a hget failure hfailed =>
        (((hturn (.delete id)).delete_error_iff rfl hget).1 hfailed).imp fun _ => And.left
    deleteFailed := fun id a hget failure =>
      (hturn (.delete id)).delete_error_iff rfl (Reply.found.inj (Except.ok.inj hget))
    kept := fun q failure hfailed => (hturn q).store_of_error hfailed }

/-- Purses of coins. One coin is put into a new purse. With ten coins a purse is too heavy, which is noticed when they are
in it, and with five it is not given away. -/
def purse : Hooks Nat Nat Nat Nat String Nat where
  build _ coins := if coins = 0 then .error "empty" else .ok coins
  onCreate coins n := ((if coins + 1 < 10 then .ok () else .error "heavy", coins + 1), n)
  onUpdate more coins n := ((if coins + more < 10 then .ok () else .error "heavy", coins + more), n)
  onDelete coins n := (if coins < 5 then .ok () else .error "kept", n)

def alternating (n : Nat) : Nat × Nat := (n % 2, n + 1)

theorem History.atomicMap_purse : ∃ ts st, History purse alternating (fun _ _ => False) 0 ts st ∧
    ts.map Turn.answer = [.error (.entity "empty"), .ok (.created 1), .error (.entity "heavy"), .ok (.created 1),
      .error (.entity "heavy"), .ok (.updated 9), .error (.entity "kept"), .error (.notFound "0")] ∧
    LastWrite purse alternating ts 1 9 ∧ AtomicMap purse alternating ts st := by
  have hist : History purse alternating (fun _ _ => False) 0 _ _ := History.start.sendAll
    [.create 0, .create 4, .create 20, .create 7, .update 1 5, .update 1 1, .delete 1, .delete 0]
  obtain ⟨found, hget, hlast⟩ := hist.atomicMap.get 1
  cases hget
  exact ⟨_, _, hist, rfl, (hlast 9).1 rfl, hist.atomicMap⟩

end Actor

end Roster
