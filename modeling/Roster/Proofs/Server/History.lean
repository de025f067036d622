import Roster.Proofs.Directory.Account
import Roster.Proofs.Server.Valid

namespace Roster.Server

namespace Event

def notice : Event → Directory.Notice
  | .request kind q answer => .ofAnswer kind q answer
  | .operation op outcome => op.notice outcome

def ofAttempt (a : Batch.Attempt Directory) : Event := .operation a.op a.outcome

end Event

variable {generate : Nat → Uuid} {config : Config} {log : List Event} {s : Server}

namespace History

open Batch (Endpoint)

theorem run {e : Endpoint Directory} (caller : Batch.Caller Directory) (budget : UInt32) {n : Nat}
    {ops : List Batch.Operation} {p : Batch.Progress} (he : e.registry = s.registry)
    (h : History generate config log s) :
    History generate config
      (log ++ (e.run caller budget n ops p s.directory).attempts.map .ofAttempt)
      { s with directory := (e.run caller budget n ops p s.directory).state } := by
  -- The log grows along the run, so the induction is for any log that leads to the state that it starts in.
  induction ops generalizing n p s log with
  | nil => simpa [Endpoint.run] using h
  | cons op ops ih =>
    have hnext : History generate config (log ++ [.ofAttempt (e.attempt op p s.directory)])
        { s with directory := (e.attempt op p s.directory).after } := h.operation op p.refs he
    rw [Endpoint.run_cons]
    split
    · simpa using h
    · split
      · exact hnext
      · rw [Batch.Run.cons, List.map_cons, List.append_cons]
        exact ih (s := { s with directory := _ }) he hnext

theorem batch {e : Endpoint Directory} (caller : Batch.Caller Directory) {r : Batch.Request}
    (hr : r.check e.limits = .ok ()) (he : e.registry = s.registry) (h : History generate config log s) :
    History generate config (log ++ (e.start caller r s.directory).attempts.map .ofAttempt)
      (s.act (e.execute caller r)).2 := by
  rw [act, e.execute_eq hr]
  exact h.run caller r.budget he

theorem account (h : History generate config log s) :
    Directory.Account (log.map Event.notice) s.directory := by
  induction h with
  | start h =>
    rw [(start_eq_ok h).2]
    exact Directory.account_empty config.customTypes
  | hold _ ih => exact ih
  | release _ ih => exact ih
  | shutdown _ ih => exact ih
  | request q hkind hs ih =>
    rw [List.map_append]
    exact ih.noted (Directory.send_noted (hs.has_and_steps.1 _ hkind) q)
  | operation op refs he hs ih =>
    have hperformed : Batch.Performed generate _ op refs _ _ _ :=
      Batch.perform_performed (he ▸ hs.registry_eq) hs.has_and_steps.1
    rw [List.map_append]
    exact ih.noted (hperformed.noted (he ▸ hs.registry_eq))

end History

/-- Members and owners were created as users, and are stored as long as no user was deleted. -/
structure ReferencesIntact (log : List Event) (s : Server) : Prop where
  members : ∀ id g, s.directory.find? .group id = some g → ∀ m ∈ g.members,
    ∃ ev ∈ log, ev.notice = .created .user m.value
  owners : ∀ id c, s.directory.find? .serviceCredential id = some c → ∀ owner, c.ownerId = some owner →
    ∃ ev ∈ log, ev.notice = .created .user owner
  membersStored : (∀ ev ∈ log, ∀ user, ev.notice ≠ .deleted .user user) →
    ∀ id g, s.directory.find? .group id = some g → ∀ m ∈ g.members,
      (s.directory.find? .user m.value).isSome
  ownersStored : (∀ ev ∈ log, ∀ user, ev.notice ≠ .deleted .user user) →
    ∀ id c, s.directory.find? .serviceCredential id = some c → ∀ owner, c.ownerId = some owner →
      (s.directory.find? .user owner).isSome

theorem History.referencesIntact (h : History generate config log s) : ReferencesIntact log s := by
  have haccount := h.account
  have hmember : ∀ id g, s.directory.find? .group id = some g → ∀ m ∈ g.members,
      .created .user m.value ∈ log.map Event.notice :=
    fun id g hg m hm => haccount.mentioned .group id g hg m.value (List.mem_map_of_mem hm)
  have howner : ∀ id c, s.directory.find? .serviceCredential id = some c → ∀ owner, c.ownerId = some owner →
      .created .user owner ∈ log.map Event.notice :=
    fun id c hc owner ho => haccount.mentioned .serviceCredential id c hc owner (Option.mem_toList.2 ho)
  have hstored : (∀ ev ∈ log, ∀ user, ev.notice ≠ .deleted .user user) → ∀ user,
      .created .user user ∈ log.map Event.notice → (s.directory.find? .user user).isSome := by
    intro hnone user huser
    refine haccount.stored .user user huser fun hdeleted => ?_
    obtain ⟨ev, hev, heq⟩ := List.mem_map.1 hdeleted
    exact hnone ev hev user heq
  exact {
    members := fun id g hg m hm => List.mem_map.1 (hmember id g hg m hm)
    owners := fun id c hc owner ho => List.mem_map.1 (howner id c hc owner ho)
    membersStored := fun hnone id g hg m hm => hstored hnone m.value (hmember id g hg m hm)
    ownersStored := fun hnone id c hc owner ho => hstored hnone owner (howner id c hc owner ho) }

theorem History.referencesIntact_office : ∃ log s, History counted {} log s ∧
    log.map Event.notice = [.created .user (counted 0), .created .group (counted 1),
      .created .serviceCredential (counted 2), .created (.custom "Devices") (counted 3), .nothing] ∧
    s.directory.find? .group (counted 1) = some ⟨counted 1, "Staff", [⟨counted 0, none⟩]⟩ ∧
    ReferencesIntact log s := by
  obtain ⟨s, hs⟩ : ∃ s, Server.start .bounded counted {} = .ok s := ⟨_, rfl⟩
  have hend := (History.start hs).batch (e := ⟨s.registry, {}, none⟩) {} (r := office) rfl rfl
  cases hs
  exact ⟨_, _, hend, rfl, rfl, hend.referencesIntact⟩

end Roster.Server
