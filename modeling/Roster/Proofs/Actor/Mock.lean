import Mathlib.Data.List.Forall2
import Roster.Actor.Mock
import Roster.Proofs.Actor.History

/-! What a stand-in tells of the requests that it got. When they were those expected, and all of them, it is content.
Otherwise it names each that was not, or counts the expectations that are left. -/

namespace Roster

variable {σ ι κ υ ε α β : Type}

namespace Client

variable (c : Client σ ι κ υ ε α)

theorem length_sendAll (qs : List (Request ι κ υ)) (s : σ) : (c.sendAll qs s).1.length = qs.length := by
  induction qs generalizing s with
  | nil => rfl
  | cons q qs ih => rw [sendAll_cons, List.length_cons, ih, List.length_cons]

theorem getElem?_sendAll (qs : List (Request ι κ υ)) (s : σ) (i : Nat) :
    (c.sendAll qs s).1[i]? = qs[i]?.map fun q => (c.send q (c.sendAll (qs.take i) s).2).1 := by
  induction qs generalizing s i with
  | nil => rfl
  | cons q qs ih =>
    cases i with
    | zero => rfl
    | succ i =>
      simp only [sendAll_cons, List.getElem?_cons_succ, List.take_succ_cons]
      exact ih _ i

end Client

def Request.id? : Request ι κ υ → Option ι
  | .create _ => none
  | .get id | .update id _ | .delete id => some id

namespace Expectation

def id? : Expectation ι ε α → Option ι
  | .create _ => none
  | .get id _ | .update id _ | .delete id _ => some id

def reply : Expectation ι ε α → Except (Failure ε) (Reply ι α)
  | .create answer => answer.map .created
  | .get _ answer => answer.map .found
  | .update _ answer => answer.map .updated
  | .delete _ answer => answer.map fun _ => .deleted

structure Met (e : Expectation ι ε α) (q : Request ι κ υ) : Prop where
  verb : e.verb = q.verb
  id : e.id? = q.id?

instance [DecidableEq ι] (e : Expectation ι ε α) (q : Request ι κ υ) : Decidable (e.Met q) :=
  decidable_of_iff (e.verb = q.verb ∧ e.id? = q.id?) ⟨fun h => ⟨h.1, h.2⟩, fun h => ⟨h.verb, h.id⟩⟩

end Expectation

namespace Mock

def Awaited (e? : Option (Expectation ι ε α)) (q : Request ι κ υ) : Prop := ∃ e ∈ e?, e.Met q

@[simp] theorem awaited_some {e : Expectation ι ε α} {q : Request ι κ υ} : Awaited (some e) q ↔ e.Met q := by
  simp [Awaited]

@[simp] theorem not_awaited_none (q : Request ι κ υ) : ¬ Awaited (none : Option (Expectation ι ε α)) q := by
  simp [Awaited]

instance [DecidableEq ι] : (e? : Option (Expectation ι ε α)) → (q : Request ι κ υ) → Decidable (Awaited e? q)
  | none, q => .isFalse (not_awaited_none q)
  | some _, _ => decidable_of_iff _ awaited_some.symm

inductive Departs : Option (Expectation ι ε α) → Request ι κ υ → Deviation ι → Prop
  | noneExpected {q : Request ι κ υ} : Departs none q (.noneExpected q.verb)
  | otherVerb {e : Expectation ι ε α} {q : Request ι κ υ} : e.verb ≠ q.verb →
      Departs (some e) q (.otherVerb e.verb q.verb)
  | otherId {e : Expectation ι ε α} {q : Request ι κ υ} {expected actual : ι} : e.verb = q.verb →
      e.id? = some expected → q.id? = some actual → expected ≠ actual →
      Departs (some e) q (.otherId q.verb expected actual)

theorem Departs.not_awaited {e? : Option (Expectation ι ε α)} {q : Request ι κ υ} {d : Deviation ι}
    (h : Departs e? q d) : ¬ Awaited e? q := by
  cases h with
  | noneExpected => exact not_awaited_none _
  | otherVerb hverb => exact fun hmet => hverb (awaited_some.1 hmet).verb
  | otherId _ he hq hne =>
    intro hmet
    have hid := (awaited_some.1 hmet).id
    rw [he, hq, Option.some.injEq] at hid
    exact hne hid

/-- What a stand-in makes of a request. Either way the expectation is used up. -/
inductive Step (m : Mock ι ε α) (q : Request ι κ υ) : Except (Failure ε) (Reply ι α) × Mock ι ε α → Prop
  | met {e : Expectation ι ε α} : m.expected.head? = some e → e.Met q →
      Step m q (e.reply, ⟨m.expected.drop 1, m.deviations⟩)
  | departed {d : Deviation ι} : Departs m.expected.head? q d →
      Step m q (.error .dropped, ⟨m.expected.drop 1, m.deviations ++ [d]⟩)

namespace Step

variable {m : Mock ι ε α} {q : Request ι κ υ} {r : Except (Failure ε) (Reply ι α) × Mock ι ε α}

theorem expected (h : Step m q r) : r.2.expected = m.expected.drop 1 := by
  cases h <;> rfl

theorem reply_of_met {e : Expectation ι ε α} (h : Step m q r) (hm : m.expected.head? = some e) (hmet : e.Met q) :
    r.1 = e.reply := by
  cases h with
  | met hm' _ => rw [Option.some.inj (hm.symm.trans hm')]
  | departed hd => exact absurd (hm ▸ awaited_some.2 hmet) hd.not_awaited

theorem reply_of_not_awaited (h : Step m q r) (hm : ¬ Awaited m.expected.head? q) : r.1 = .error .dropped := by
  cases h with
  | met hm' hmet => exact absurd (hm' ▸ awaited_some.2 hmet) hm
  | departed _ => rfl

theorem deviations (h : Step m q r) : Awaited m.expected.head? q ∧ r.2.deviations = m.deviations ∨
    ∃ d, Departs m.expected.head? q d ∧ r.2.deviations = m.deviations ++ [d] := by
  cases h with
  | met hm hmet => exact .inl ⟨hm ▸ awaited_some.2 hmet, rfl⟩
  | departed hd => exact .inr ⟨_, hd, rfl⟩

end Step

def Follows (script : List (Expectation ι ε α)) (qs : List (Request ι κ υ)) : Prop :=
  ∀ (i : Nat) (q : Request ι κ υ), qs[i]? = some q → Awaited script[i]? q

theorem Follows.length_le {script : List (Expectation ι ε α)} {qs : List (Request ι κ υ)} (h : Follows script qs) :
    qs.length ≤ script.length := by
  by_contra hlt
  have hlast := h script.length qs[script.length] (List.getElem?_eq_getElem (by omega))
  rw [List.getElem?_eq_none (Nat.le_refl _)] at hlast
  exact not_awaited_none _ hlast

theorem verify_of_deviations {m : Mock ι ε α} (h : m.deviations ≠ []) :
    m.verify = .error (.deviated m.deviations) := if_pos h

theorem verify_of_unused {m : Mock ι ε α} (h : m.deviations = []) (hm : m.expected ≠ []) :
    m.verify = .error (.unused m.expected.length) := by
  rw [verify, if_neg (not_not_intro h), if_pos hm]

theorem verify_eq_ok_iff {m : Mock ι ε α} : m.verify = .ok () ↔ m.deviations = [] ∧ m.expected = [] := by
  rw [verify]
  split <;> [skip; split] <;> simp_all

variable [DecidableEq ι]

theorem step_answer {m : Mock ι ε α} {q : Request ι κ υ} {e : Expectation ι ε α} {expected actual : ι}
    {answer : Except (Failure ε) β} {f : β → Reply ι α} (hm : m.expected.head? = some e)
    (hverb : e.verb = q.verb) (he : e.id? = some expected) (hq : q.id? = some actual)
    (hreply : e.reply = answer.map f) :
    Step m q ((m.answer q.verb expected actual answer).1.map f, (m.answer q.verb expected actual answer).2) := by
  rw [Mock.answer]
  split
  case isTrue heq =>
    have hmet : e.Met q := ⟨hverb, by rw [he, hq, heq]⟩
    exact hreply ▸ .met hm hmet
  case isFalse hne => exact .departed (hm ▸ .otherId hverb he hq hne)

theorem step (m : Mock ι ε α) (q : Request ι κ υ) : Step m q (client.send q m) := by
  obtain ⟨expected, ds⟩ := m
  cases expected with
  | nil => cases q <;> exact .departed .noneExpected
  | cons e rest =>
    cases e <;> cases q
    case create.create answer params => exact .met (e := .create answer) rfl ⟨rfl, rfl⟩
    case get.get => exact step_answer rfl rfl rfl rfl rfl
    case update.update => exact step_answer rfl rfl rfl rfl rfl
    case delete.delete => exact step_answer rfl rfl rfl rfl rfl
    all_goals exact .departed (.otherVerb (by simp [Expectation.verb, Request.verb]))

def unmet (script : List (Expectation ι ε α)) (qs : List (Request ι κ υ × Nat)) : List (Request ι κ υ × Nat) :=
  qs.filter fun p => ¬ Awaited script[p.2]? p.1

section Unmet

variable {script : List (Expectation ι ε α)} {q : Request ι κ υ} {k : Nat} {qs : List (Request ι κ υ × Nat)}

theorem unmet_cons_of_awaited (h : Awaited script[k]? q) : unmet script ((q, k) :: qs) = unmet script qs := by
  simp [unmet, h]

theorem unmet_cons_of_not_awaited (h : ¬ Awaited script[k]? q) :
    unmet script ((q, k) :: qs) = (q, k) :: unmet script qs := by
  simp [unmet, h]

theorem unmet_eq_nil_iff {qs : List (Request ι κ υ)} :
    unmet script qs.zipIdx = [] ↔ Follows script qs := by
  simp only [unmet, Follows, List.filter_eq_nil_iff, decide_eq_true_eq, Decidable.not_not, Prod.forall,
    List.mem_zipIdx_iff_getElem?]
  exact forall_comm

end Unmet

theorem expected_sendAll (qs : List (Request ι κ υ)) (m : Mock ι ε α) :
    (client.sendAll qs m).2.expected = m.expected.drop qs.length := by
  induction qs generalizing m with
  | nil => rfl
  | cons q qs ih =>
    rw [Client.sendAll_cons, ih, (step m q).expected, List.drop_drop, List.length_cons, Nat.add_comm]

theorem deviations_sendAll {script : List (Expectation ι ε α)} (qs : List (Request ι κ υ)) {k : Nat}
    {m : Mock ι ε α} (hm : m.expected = script.drop k) :
    ∃ ds, (client.sendAll qs m).2.deviations = m.deviations ++ ds ∧
      List.Forall₂ (fun p d => Departs script[p.2]? p.1 d) (unmet script (qs.zipIdx k)) ds := by
  induction qs generalizing k m with
  | nil => exact ⟨[], (List.append_nil _).symm, .nil⟩
  | cons q qs ih =>
    have hhead : m.expected.head? = script[k]? := by rw [hm, List.head?_drop]
    have hnext : (client.send q m).2.expected = script.drop (k + 1) := by
      rw [(step m q).expected, hm, List.drop_drop]
    obtain ⟨ds, hds, hall⟩ := ih hnext
    rw [Client.sendAll_cons, List.zipIdx_cons]
    obtain ⟨hmet, hkept⟩ | ⟨d, hd, hgrown⟩ := (step m q).deviations
    · rw [hhead] at hmet
      exact ⟨ds, hds.trans (by rw [hkept]), (unmet_cons_of_awaited hmet).symm ▸ hall⟩
    · rw [hhead] at hd
      exact ⟨d :: ds, hds.trans (by rw [hgrown, List.append_assoc, List.singleton_append]),
        (unmet_cons_of_not_awaited hd.not_awaited).symm ▸ .cons hd hall⟩

section Replies

variable {script : List (Expectation ι ε α)} {qs : List (Request ι κ υ)} {i : Nat} {q : Request ι κ υ}

variable (script) in
theorem step_sendAll (hq : qs[i]? = some q) :
    ∃ m r, m.expected.head? = script[i]? ∧ Step m q r ∧ (client.sendAll qs ⟨script, []⟩).1[i]? = some r.1 := by
  obtain ⟨hi, -⟩ := List.getElem?_eq_some_iff.1 hq
  refine ⟨(client.sendAll (qs.take i) ⟨script, []⟩).2, _, ?_, step _ q, ?_⟩
  · rw [expected_sendAll, List.head?_drop, List.length_take_of_le (Nat.le_of_lt hi)]
  · rw [Client.getElem?_sendAll, hq, Option.map_some]

theorem reply_of_met {e : Expectation ι ε α} (he : script[i]? = some e) (hq : qs[i]? = some q) (hmet : e.Met q) :
    (client.sendAll qs ⟨script, []⟩).1[i]? = some e.reply := by
  obtain ⟨m, r, hm, hstep, hreply⟩ := step_sendAll script hq
  rw [hreply, hstep.reply_of_met (hm.trans he) hmet]

theorem reply_of_not_awaited (hq : qs[i]? = some q) (hnot : ¬ Awaited script[i]? q) :
    (client.sendAll qs ⟨script, []⟩).1[i]? = some (.error .dropped) := by
  obtain ⟨m, r, hm, hstep, hreply⟩ := step_sendAll script hq
  rw [hreply, hstep.reply_of_not_awaited (hm ▸ hnot)]

end Replies

/-- What came of requests that a stand-in got one after another: the replies, and the stand-in in the end. -/
structure Verified (script : List (Expectation ι ε α)) (qs : List (Request ι κ υ))
    (replies : List (Except (Failure ε) (Reply ι α))) (m : Mock ι ε α) : Prop where
  replied : replies.length = qs.length
  used : m.expected = script.drop qs.length
  met : ∀ {i : Nat} {e : Expectation ι ε α} {q : Request ι κ υ}, script[i]? = some e → qs[i]? = some q →
    e.Met q → replies[i]? = some e.reply
  departed : ∀ {i : Nat} {q : Request ι κ υ}, qs[i]? = some q → ¬ Awaited script[i]? q →
    replies[i]? = some (.error .dropped)
  /-- To be dropped may itself be the reply that was prepared. Any other tells whether the request was expected. -/
  telling : ∀ {i : Nat} {e : Expectation ι ε α} {q : Request ι κ υ}, script[i]? = some e → qs[i]? = some q →
    e.reply ≠ .error .dropped → (replies[i]? = some e.reply ↔ e.Met q)
  passes : m.verify = .ok () ↔ qs.length = script.length ∧ Follows script qs
  deviated : ¬ Follows script qs → ∃ ds, m.verify = .error (.deviated ds) ∧
    List.Forall₂ (fun p d => Departs script[p.2]? p.1 d) (unmet script qs.zipIdx) ds
  unused : Follows script qs → qs.length ≠ script.length →
    qs.length < script.length ∧ m.verify = .error (.unused (script.length - qs.length))

theorem verified_sendAll (script : List (Expectation ι ε α)) (qs : List (Request ι κ υ)) :
    Verified script qs (client.sendAll qs ⟨script, []⟩).1 (client.sendAll qs ⟨script, []⟩).2 := by
  have hused := expected_sendAll qs (⟨script, []⟩ : Mock ι ε α)
  obtain ⟨ds, hds, hall⟩ := deviations_sendAll qs (k := 0) (m := (⟨script, []⟩ : Mock ι ε α)) rfl
  rw [List.nil_append] at hds
  have hnil : ds = [] ↔ Follows script qs := by
    rw [← unmet_eq_nil_iff, ← List.length_eq_zero_iff, ← hall.length_eq, List.length_eq_zero_iff]
  constructor
  case replied => exact client.length_sendAll qs _
  case used => exact hused
  case met => exact reply_of_met
  case departed => exact reply_of_not_awaited
  case telling =>
    intro i e q he hq hne
    refine ⟨fun hreply => by_contra fun hnot => hne ?_, reply_of_met he hq⟩
    rw [reply_of_not_awaited hq (by rwa [he, awaited_some])] at hreply
    exact (Option.some.inj hreply).symm
  case passes =>
    rw [verify_eq_ok_iff, hds, hused, hnil, List.drop_eq_nil_iff]
    exact ⟨fun h => ⟨Nat.le_antisymm h.1.length_le h.2, h.1⟩, fun h => ⟨h.2, Nat.le_of_eq h.1.symm⟩⟩
  case deviated =>
    intro hnot
    rw [verify_of_deviations (hds ▸ mt hnil.1 hnot), hds]
    exact ⟨ds, rfl, hall⟩
  case unused =>
    intro hfollows hne
    have hlt : qs.length < script.length := Nat.lt_of_le_of_ne hfollows.length_le hne
    refine ⟨hlt, ?_⟩
    rw [verify_of_unused (hds.trans (hnil.2 hfollows)) (by rw [hused]; simpa using hlt), hused, List.length_drop]

-- A request that comes out of order uses up what it was not meant for.
example : (client.sendAll ([.delete 1, .get 1, .get 2] : List (Request Nat Unit Unit))
    ⟨[.get 1 (.ok (some 5)), .delete 1 (.ok ())], []⟩ :
    List (Except (Failure Unit) (Reply Nat Nat)) × Mock Nat Unit Nat) =
  ([.error .dropped, .error .dropped, .error .dropped],
    ⟨[], [.otherVerb "get" "delete", .otherVerb "delete" "get", .noneExpected "get"]⟩) := rfl

end Mock

end Roster
