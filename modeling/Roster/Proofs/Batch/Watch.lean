import Roster.Proofs.Batch.Run

theorem List.lookup_map_snd {α β : Type} {f : String → α → β} {key : String} {l : List (String × α)} :
    (l.map fun (k, v) => (k, f k v)).lookup key = (l.lookup key).map (f key) := by
  induction l with
  | nil => rfl
  | cons entry rest ih =>
    obtain ⟨k, v⟩ := entry
    rw [List.map_cons, List.lookup_cons, List.lookup_cons, ih]
    cases h : key == k with
    | true => rw [eq_of_beq h]; rfl
    | false => rfl

namespace Roster

variable {σ τ : Type}

/-- The note of a call is taken together with the state that the handler was called in. -/
def Handler.watched (note : Call → σ → τ → τ) (segment : String) (h : Handler σ) : Handler (σ × τ) where
  create payload := fun (s, x) =>
    match h.create payload s with
    | (answer, s') => (answer, s', note (.create segment payload) s x)
  update id payload := fun (s, x) =>
    match h.update id payload s with
    | (answer, s') => (answer, s', note (.update segment id payload) s x)
  delete id := fun (s, x) =>
    match h.delete id s with
    | (answer, s') => (answer, s', note (.delete segment id) s x)

namespace Registry

def Entry.watched (note : Call → σ → τ → τ) (segment : String) (entry : Entry σ) : Entry (σ × τ) :=
  ⟨entry.kind, entry.handler.watched note segment⟩

def watched (note : Call → σ → τ → τ) (r : Registry σ) : Registry (σ × τ) :=
  ⟨r.entries.map fun (segment, entry) => (segment, entry.watched note segment)⟩

theorem resolve_watched (note : Call → σ → τ → τ) (r : Registry σ) (segment : String) :
    (r.watched note).resolve segment = (r.resolve segment).map (Entry.watched note segment) := by
  have h : (r.watched note).get? segment = (r.get? segment).map (Entry.watched note segment) :=
    List.lookup_map_snd (f := Entry.watched note)
  rw [resolve, resolve, h]
  cases r.get? segment <;> rfl

end Registry

namespace Batch

def Plan.call (plan : Plan σ) : Call :=
  match plan.dispatch with
  | .create payload => .create plan.segment payload
  | .update id payload => .update plan.segment id payload
  | .delete id => .delete plan.segment id

def Attempt.call? (registry : Registry σ) (a : Attempt σ) : Option Call :=
  (a.op.plan registry a.before.refs).toOption.map Plan.call

variable (note : Call → σ → τ → τ)

def Plan.watched (plan : Plan σ) : Plan (σ × τ) :=
  ⟨plan.segment, plan.entry.watched note plan.segment, plan.dispatch⟩

theorem Operation.plan_watched (op : Operation) (registry : Registry σ) (refs : References) :
    op.plan (registry.watched note) refs = (op.plan registry refs).map (Plan.watched note) := by
  simp only [plan_eq_bind]
  rcases op.requireData with _ | data; · rfl
  rcases op.requireName with _ | _; · rfl
  simp only [bind, Except.bind]
  rcases data.mapM refs.resolved with _ | payload; · rfl
  rcases Path.parse op.path with _ | path; · rfl
  simp only [Registry.resolve_watched]
  rcases registry.resolve path.segment with _ | entry; · rfl
  simp only [Except.map]
  rcases op.address refs path.identifier payload with _ | dispatch <;> rfl

theorem Plan.invoke_watched (plan : Plan σ) (s : σ) (x : τ) :
    (plan.watched note).dispatch.invoke (plan.watched note).entry.handler (s, x) =
      ((plan.dispatch.invoke plan.entry.handler s).1,
        (plan.dispatch.invoke plan.entry.handler s).2, note plan.call s x) := by
  obtain ⟨segment, entry, dispatch⟩ := plan
  simp only [watched, Registry.Entry.watched, call]
  cases dispatch with
  | create payload =>
    have h : (entry.handler.watched note segment).create payload (s, x) =
        ((entry.handler.create payload s).1, (entry.handler.create payload s).2,
          note (.create segment payload) s x) := rfl
    rw [Dispatch.invoke, Dispatch.invoke, h]
    rcases entry.handler.create payload s with ⟨_ | _, _⟩ <;> rfl
  | update id payload =>
    have h : (entry.handler.watched note segment).update id payload (s, x) =
        ((entry.handler.update id payload s).1, (entry.handler.update id payload s).2,
          note (.update segment id payload) s x) := rfl
    rw [Dispatch.invoke, Dispatch.invoke, h]
    rcases entry.handler.update id payload s with ⟨_ | _ | _, _⟩ <;> rfl
  | delete id =>
    have h : (entry.handler.watched note segment).delete id (s, x) =
        ((entry.handler.delete id s).1, (entry.handler.delete id s).2,
          note (.delete segment id) s x) := rfl
    rw [Dispatch.invoke, Dispatch.invoke, h]
    rcases entry.handler.delete id s with ⟨_ | _ | _, _⟩ <;> rfl

namespace Attempt

variable (registry : Registry σ)

def noted (x : τ) (a : Attempt σ) : τ := (a.call? registry).elim x fun call => note call a.state x

def notes (x : τ) (as : List (Attempt σ)) : τ := as.foldl (noted note registry) x

def watched (x : τ) (a : Attempt σ) : Attempt (σ × τ) :=
  ⟨a.op, a.before, (a.state, x), a.outcome, (a.after, a.noted note registry x)⟩

def watchedFrom : τ → List (Attempt σ) → List (Attempt (σ × τ))
  | _, [] => []
  | x, a :: as => a.watched note registry x :: watchedFrom (a.noted note registry x) as

theorem getElem?_watchedFrom (x : τ) (as : List (Attempt σ)) (i : Nat) :
    (watchedFrom note registry x as)[i]? =
      as[i]?.map (watched note registry (notes note registry x (as.take i))) := by
  induction as generalizing x i with
  | nil => rfl
  | cons a as ih =>
    cases i with
    | zero => rfl
    | succ i => exact ih (a.noted note registry x) i

theorem take_watchedFrom (x : τ) (as : List (Attempt σ)) (i : Nat) :
    (watchedFrom note registry x as).take i = watchedFrom note registry x (as.take i) := by
  induction as generalizing x i with
  | nil => simp [watchedFrom]
  | cons a as ih =>
    cases i with
    | zero => rfl
    | succ i => exact congrArg (List.cons (a.watched note registry x)) (ih _ i)

@[simp] theorem map_result_watchedFrom (x : τ) (as : List (Attempt σ)) :
    (watchedFrom note registry x as).map result = as.map result := by
  induction as generalizing x with
  | nil => rfl
  | cons a as ih => exact congrArg (List.cons a.result) (ih _)

theorem call?_watched (x : τ) (a : Attempt σ) :
    (a.watched note registry x).call? (registry.watched note) = a.call? registry := by
  have hplan : a.op.plan (registry.watched note) a.before.refs =
      (a.op.plan registry a.before.refs).map (Plan.watched note) := a.op.plan_watched note registry _
  rw [call?, call?, watched, hplan]
  cases a.op.plan registry a.before.refs <;> rfl

theorem filterMap_call?_watchedFrom (x : τ) (as : List (Attempt σ)) :
    (watchedFrom note registry x as).filterMap (call? (registry.watched note)) =
      as.filterMap (call? registry) := by
  induction as generalizing x with
  | nil => rfl
  | cons a as ih => rw [watchedFrom, List.filterMap_cons, List.filterMap_cons, call?_watched, ih]

end Attempt

def Caller.watched (caller : Caller σ) : Caller (σ × τ) :=
  ⟨caller.principal, fun n s => caller.cancelled n s.1⟩

namespace Endpoint

variable (e : Endpoint σ)

def watched : Endpoint (σ × τ) := ⟨e.registry.watched note, e.limits, e.baseUrl⟩

theorem attempt_watched (op : Operation) (p : Progress) (s : σ) (x : τ) :
    (e.watched note).attempt op p (s, x) = (e.attempt op p s).watched note e.registry x := by
  have hp : op.plan (e.watched note).registry p.refs = (op.plan e.registry p.refs).map (Plan.watched note) :=
    op.plan_watched note e.registry p.refs
  rw [attempt, attempt, Attempt.watched, Attempt.noted, Attempt.call?]
  cases h : op.plan e.registry p.refs with
  | error cause =>
    rw [h] at hp
    rw [(e.watched note).perform_of_error hp, e.perform_of_error h]
    rfl
  | ok plan =>
    rw [h] at hp
    rw [(e.watched note).perform_of_plan hp, e.perform_of_plan h, plan.invoke_watched]
    rfl

theorem run_watched (caller : Caller σ) (budget : UInt32) (n : Nat) (ops : List Operation) (p : Progress)
    (s : σ) (x : τ) :
    (e.watched note).run caller.watched budget n ops p (s, x) =
      ⟨Attempt.watchedFrom note e.registry x (e.run caller budget n ops p s).attempts,
        (e.run caller budget n ops p s).cancelled, (e.run caller budget n ops p s).state,
        Attempt.notes note e.registry x (e.run caller budget n ops p s).attempts⟩ := by
  induction ops generalizing n p s x with
  | nil => rfl
  | cons op ops ih =>
    rw [run_cons, run_cons, attempt_watched]
    by_cases hc : caller.cancelled n s = true
    · rw [if_pos hc, if_pos (show caller.watched.cancelled n (s, x) = true from hc)]
      rfl
    · rw [if_neg hc, if_neg (show ¬ caller.watched.cancelled n (s, x) = true from hc)]
      -- A watched attempt fails with the same count of failures.
      by_cases hx : (e.attempt op p s).exhausts budget
      · rw [if_pos hx, if_pos (show ((e.attempt op p s).watched note e.registry x).exhausts budget = true from hx)]
        rfl
      · rw [if_neg hx,
          if_neg (show ¬ ((e.attempt op p s).watched note e.registry x).exhausts budget = true from hx)]
        exact congrArg (Run.cons ((e.attempt op p s).watched note e.registry x)) (ih (n + 1) _ _ _)

end Endpoint

end Batch

end Roster
