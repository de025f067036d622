import Roster.Proofs.Directory.All
import Roster.Proofs.Resource.Valid
import Roster.Proofs.Server.Reachable

namespace Roster

theorem Directory.Step.valid {generate : Nat → Uuid} {d d' : Directory} (h : Step generate d d')
    (hd : d.All ResourceType.Valid) : d'.All ResourceType.Valid :=
  h.all hd (fun hmake => ResourceType.valid_of_build (ResourceType.build_of_make hmake).1)
    fun ha hrevise => ResourceType.valid_revise ha hrevise

namespace Server

/-- All entities are valid, and no credential has another client identifier at any other time. -/
structure StoredValid (generate : Nat → Uuid) (config : Config) (s : Server) : Prop where
  valid : ∀ kind id a, s.directory.find? kind id = some a → kind.Valid id a
  clientId : ∀ s', Reachable generate config s' → ∀ id c c',
    s.directory.find? .serviceCredential id = some c →
    s'.directory.find? .serviceCredential id = some c' → c'.clientId = c.clientId

namespace Reachable

variable {generate : Nat → Uuid} {config : Config} {s : Server}

theorem valid (h : Reachable generate config s) : s.directory.All ResourceType.Valid :=
  h.invariant (Directory.all_empty config.customTypes) fun _ _ hstep hd => hstep.valid hd

theorem storedValid (h : Reachable generate config s) : StoredValid generate config s where
  valid := h.valid
  clientId s' h' id c c' hc hc' := by
    have hvalid : Credential.Valid id c := h.valid .serviceCredential id c hc
    have hvalid' : Credential.Valid id c' := h'.valid .serviceCredential id c' hc'
    -- Both are made from the identifier alone.
    rw [hvalid.clientId, hvalid'.clientId]

end Reachable

def office : Batch.Request where
  errorBudget := none
  operations := [.create "ada" "Users" (.object [("userName", .string "Ada")]),
    .create "staff" "Groups" (.object [("displayName", .string "Staff"),
      ("members", .array [.object [("value", .string "placeholder-ref:ada")]])]),
    .create "sync" "ServiceCredentials" (.object [("name", .string "Sync"),
      ("ownerId", .string "placeholder-ref:ada")]),
    .create "door" "Devices" (.object [("floor", .string "1")]),
    .update "Devices/placeholder-ref:door" (.object [("floor", .null), ("room", .string "12")])]

theorem Reachable.storedValid_office : ∃ s, Reachable counted {} s ∧
    (s.directory.find? .user (counted 0)).isSome ∧ (s.directory.find? .group (counted 1)).isSome ∧
    (s.directory.find? .serviceCredential (counted 2)).isSome ∧
    s.directory.find? (.custom "Devices") (counted 3) =
      some ⟨counted 3, "Devices", [("room", .string "12")]⟩ ∧
    StoredValid counted {} s := by
  obtain ⟨s, hs⟩ : ∃ s, Server.start .bounded counted {} = .ok s := ⟨_, rfl⟩
  have hend := (Reachable.start hs).execute (e := ⟨s.registry, {}, none⟩) rfl {} office
  cases hs
  exact ⟨_, hend, rfl, rfl, rfl, rfl, hend.storedValid⟩

end Server

end Roster
