import Roster.Proofs.Batch.Calls

/-! Cancelled batches.  The token that cancels a batch stands beside the state.  Handlers may set it while they are
called, but what they do does not depend on it, and nobody takes it back. -/

namespace Roster.Batch

variable {σ : Type}

/-- A token that the calls set for which `signals` holds, and that stays set. -/
def setBy (signals : Call → σ → Bool) (call : Call) (s : σ) (token : Bool) : Bool := token || signals call s

def Caller.token (outside : Nat → Bool) : Caller (σ × Bool) where
  cancelled n s := s.2 || (List.range (n + 1)).any outside

namespace Endpoint

variable (e : Endpoint σ) (signals : Call → σ → Bool) (outside : Nat → Bool) (r : Request) (s : σ)
  (token : Bool)

def signalling : Endpoint (σ × Bool) := e.watched (setBy signals)

/-- The token is set when the `i`-th operation is about to start: it has been from the beginning, or somebody else has
set it by then, or a handler that was called before has. -/
def TokenSet (i : Nat) : Prop :=
  token = true ∨ (∃ j ≤ i, outside j = true) ∨
    ∃ a ∈ (e.start {} r s).attempts.take i, (a.call? e.registry).any (signals · a.state) = true

instance (i : Nat) : Decidable (e.TokenSet signals outside r s token i) := inferInstanceAs (Decidable (_ ∨ _))

def signalled : Except Abort Response × (σ × Bool) × List Call :=
  (e.signalling signals).recorded.execute (Caller.token outside).recorded r ((s, token), [])

/-- A batch that is cancelled is the beginning of the batch that nobody cancels. -/
structure CleanlyCut : Prop where
  rejected : ∀ cause, r.check e.limits = .error cause →
    e.signalled signals outside r s token = (.error (.rejected cause), (s, token), [])
  empty : r.operations = [] → (e.signalled signals outside r s token).1 = .ok ⟨[]⟩
  cut : r.check e.limits = .ok () → ∀ i a, (e.start {} r s).attempts[i]? = some a →
    e.TokenSet signals outside r s token i → (∀ j < i, ¬ e.TokenSet signals outside r s token j) →
    ∃ token', e.signalled signals outside r s token = (.error .cancelled, (a.state, token'),
      ((e.start {} r s).attempts.take i).filterMap (Attempt.call? e.registry))
  whole : r.check e.limits = .ok () →
    (∀ i < (e.start {} r s).attempts.length, ¬ e.TokenSet signals outside r s token i) →
    ∃ token', e.signalled signals outside r s token =
      ((e.execute {} r s).1, ((e.execute {} r s).2, token'),
        (e.start {} r s).attempts.filterMap (Attempt.call? e.registry))

variable {e signals outside r s token}

theorem TokenSet.mono {i j : Nat} (h : e.TokenSet signals outside r s token i) (hij : i ≤ j) :
    e.TokenSet signals outside r s token j := by
  obtain htoken | ⟨k, hk, houtside⟩ | ⟨a, ha, hcall⟩ := h
  · exact .inl htoken
  · exact .inr (.inl ⟨k, Nat.le_trans hk hij, houtside⟩)
  · exact .inr (.inr ⟨a, (List.take_sublist_take_left hij).subset ha, hcall⟩)

end Endpoint

theorem Attempt.notes_token (signals : Call → σ → Bool) (registry : Registry σ) (token : Bool)
    (as : List (Attempt σ)) :
    notes (setBy signals) registry token as = true ↔
      token = true ∨ ∃ a ∈ as, (a.call? registry).any (signals · a.state) = true := by
  induction as generalizing token with
  | nil => simp [notes]
  | cons a as ih =>
    refine (ih _).trans ?_
    rw [noted]
    cases h : a.call? registry <;> simp [h, setBy, or_assoc]

namespace Endpoint

variable (e : Endpoint σ) (signals : Call → σ → Bool) (outside : Nat → Bool) {r : Request} {s : σ}
  {token : Bool}

theorem start_signalling (r : Request) (s : σ) (token : Bool) :
    (e.signalling signals).start {} r (s, token) =
      ⟨Attempt.watchedFrom (setBy signals) e.registry token (e.start {} r s).attempts,
        (e.start {} r s).cancelled, (e.start {} r s).state,
        Attempt.notes (setBy signals) e.registry token (e.start {} r s).attempts⟩ :=
  e.run_watched (setBy signals) {} r.budget 0 r.operations {} s token

theorem cancelled_iff {i : Nat} {b : Attempt (σ × Bool)}
    (h : ((e.signalling signals).start {} r (s, token)).attempts[i]? = some b) :
    (Caller.token outside).cancelled i b.state = true ↔ e.TokenSet signals outside r s token i := by
  rw [start_signalling, Attempt.getElem?_watchedFrom, Option.map_eq_some_iff] at h
  obtain ⟨a, -, rfl⟩ := h
  -- Beside the state stands what the calls of the first `i` attempts have made of the token.
  rw [Caller.token, Bool.or_eq_true, List.any_eq_true, TokenSet, Attempt.watched, Attempt.notes_token]
  simp only [List.mem_range, Nat.lt_succ_iff]
  exact or_assoc.trans (or_congr_right or_comm)

theorem start_of_tokenSet {i : Nat} {a : Attempt σ} (ha : (e.start {} r s).attempts[i]? = some a)
    (hset : e.TokenSet signals outside r s token i)
    (hbefore : ∀ j < i, ¬ e.TokenSet signals outside r s token j) :
    ∃ token', (e.signalling signals).start (.token outside) r (s, token) =
      ⟨Attempt.watchedFrom (setBy signals) e.registry token ((e.start {} r s).attempts.take i), true,
        a.state, token'⟩ := by
  have hb : ((e.signalling signals).start {} r (s, token)).attempts[i]? = some (a.watched (setBy signals)
      e.registry (Attempt.notes (setBy signals) e.registry token ((e.start {} r s).attempts.take i))) := by
    rw [start_signalling, Attempt.getElem?_watchedFrom, ha, Option.map_some]
  have htake : (e.signalling signals).start (.token outside) r (s, token) = _ :=
    (e.signalling signals).start_eq_take hb ((e.cancelled_iff signals outside hb).2 hset) fun j hj c hc =>
      Bool.eq_false_iff.2 fun h => hbefore j hj ((e.cancelled_iff signals outside hc).1 h)
  rw [start_signalling, Attempt.take_watchedFrom] at htake
  exact ⟨_, htake⟩

theorem start_of_not_tokenSet
    (hnone : ∀ i < (e.start {} r s).attempts.length, ¬ e.TokenSet signals outside r s token i) :
    ∃ token', (e.signalling signals).start (.token outside) r (s, token) =
      ⟨Attempt.watchedFrom (setBy signals) e.registry token (e.start {} r s).attempts,
        (e.start {} r s).cancelled, (e.start {} r s).state, token'⟩ := by
  refine ⟨_, Eq.trans ?_ (e.start_signalling signals r s token)⟩
  refine (e.signalling signals).start_eq_quiet fun i b hb => Bool.eq_false_iff.2 fun h => ?_
  refine hnone i ?_ ((e.cancelled_iff signals outside hb).1 h)
  rw [start_signalling, Attempt.getElem?_watchedFrom, Option.map_eq_some_iff] at hb
  obtain ⟨a, ha, -⟩ := hb
  exact (List.getElem?_eq_some_iff.1 ha).1

theorem signalled_eq (hr : r.check e.limits = .ok ()) :
    e.signalled signals outside r s token =
      (((e.signalling signals).execute (.token outside) r (s, token)).1,
        ((e.signalling signals).execute (.token outside) r (s, token)).2,
        ((e.signalling signals).start (.token outside) r (s, token)).attempts.filterMap
          (Attempt.call? (e.signalling signals).registry)) :=
  (e.signalling signals).execute_recorded hr (s, token)

theorem execute_cleanlyCut (r : Request) (s : σ) (token : Bool) :
    e.CleanlyCut signals outside r s token where
  rejected cause hr := by
    have hr' : r.check (e.signalling signals).recorded.limits = .error cause := hr
    rw [signalled, execute, hr']
  empty hempty := by
    have hr : r.check e.limits = .ok () := by simp [Request.check, Request.names, hempty, Request.repeated?]
    have hr' : r.check (e.signalling signals).limits = .ok () := hr
    rw [e.signalled_eq signals outside hr, execute_eq _ hr', start, hempty]
    rfl
  cut hr i a ha hset hbefore := by
    obtain ⟨token', hstart⟩ := e.start_of_tokenSet signals outside ha hset hbefore
    have hr' : r.check (e.signalling signals).limits = .ok () := hr
    refine ⟨token', ?_⟩
    rw [e.signalled_eq signals outside hr, execute_eq _ hr', hstart]
    exact congrArg (fun calls => (_, _, calls)) (Attempt.filterMap_call?_watchedFrom _ _ _ _)
  whole hr hnone := by
    obtain ⟨token', hstart⟩ := e.start_of_not_tokenSet signals outside hnone
    have hr' : r.check (e.signalling signals).limits = .ok () := hr
    refine ⟨token', ?_⟩
    rw [e.signalled_eq signals outside hr, execute_eq _ hr', execute_eq _ hr, hstart,
      Attempt.map_result_watchedFrom]
    exact congrArg (fun calls => (_, _, calls)) (Attempt.filterMap_call?_watchedFrom _ _ _ _)

theorem execute_cleanlyCut_chain :
    numbering.signalled (fun call _ => call matches .update ..) (fun _ => false) chain 0 false =
        (.error .cancelled, (1, true), [.create "Things" (.object []),
          .update "Things" ⟨.ofNat 128 0⟩ (.object [("next", .string (Uuid.text ⟨.ofNat 128 0⟩))])]) ∧
      numbering.TokenSet (fun call _ => call matches .update ..) (fun _ => false) chain 0 false 2 ∧
      numbering.CleanlyCut (fun call _ => call matches .update ..) (fun _ => false) chain 0 false :=
  ⟨by decide, by decide, numbering.execute_cleanlyCut _ _ chain 0 false⟩

end Endpoint

end Roster.Batch
