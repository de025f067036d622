import Roster.Proofs.Resource.Attribute
import Roster.Proofs.Server.Reachable

namespace Roster.Directory

open ResourceType (LastWins Tidy)

variable {generate : Nat → Uuid} {kind : ResourceType} {id : Uuid} {d d' d'' : Directory} {a b : kind.Entity}

/-- Updates of an entity, each with its answer, the latest last. In between others may do whatever leaves the entity as it
is. -/
inductive Updates (generate : Nat → Uuid) (kind : ResourceType) (id : Uuid) (d : Directory) :
    List (kind.Revision × Except kind.Error kind.Entity) → Directory → Prop
  | start : Updates generate kind id d [] d
  | others {us : List (kind.Revision × Except kind.Error kind.Entity)} {d' d'' : Directory} :
      Updates generate kind id d us d' → d''.find? kind id = d'.find? kind id → Updates generate kind id d us d''
  | update {us : List (kind.Revision × Except kind.Error kind.Entity)} {d' : Directory} (change : kind.Revision) :
      Updates generate kind id d us d' →
      Updates generate kind id d (us ++ [(change, ((client generate kind).update id change d').1)])
        ((client generate kind).update id change d').2

def accepted (us : List (kind.Revision × Except kind.Error kind.Entity)) : List kind.Revision :=
  us.filterMap fun (change, answer) => answer.toOption.map fun _ => change

theorem revise_users_insert (change : kind.Revision) (b : kind.Entity) :
    kind.revise (d.insert kind id a).users change b = kind.revise d.users change b := by
  cases kind <;> rfl

theorem eq_of_update_error (hd : d.Has kind) {change : kind.Revision} {e : kind.Error}
    (h : (client generate kind).update id change d = (.error e, d')) : d' = d := by
  rw [client_update generate hd] at h
  cases hfind : d.find? kind id with
  | none =>
    rw [hfind] at h
    exact (Prod.mk.inj h).2.symm
  | some a =>
    cases hrevise : kind.revise d.users change a with
    | error e =>
      simp only [hfind, hrevise] at h
      exact (Prod.mk.inj h).2.symm
    | ok b => simp [hfind, hrevise] at h

namespace Updates

variable {us : List (kind.Revision × Except kind.Error kind.Entity)}

theorem stored (h : Updates generate kind id d us d') (ha : d.find? kind id = some a) :
    ∃ b, d'.find? kind id = some b ∧ LastWins a (accepted us) b ∧ (kind.Tidy a → kind.Tidy b) := by
  induction h with
  | start => exact ⟨a, ha, .refl a, fun htidy => htidy⟩
  | others _ hsame ih =>
    obtain ⟨b, hb, hrest⟩ := ih
    exact ⟨b, hsame.trans hb, hrest⟩
  | @update us d' change _ ih =>
    obtain ⟨b, hb, hlast, htidy⟩ := ih
    rcases hanswer : (client generate kind).update id change d' with ⟨answer, d''⟩
    cases answer with
    | error e =>
      obtain rfl := eq_of_update_error (has_of_find? _ hb) hanswer
      have hrefused : accepted (us ++ [(change, .error e)]) = accepted us := by
        rw [accepted, List.filterMap_append]
        exact List.append_nil _
      exact ⟨b, hb, by rwa [hrefused], htidy⟩
    | ok c =>
      obtain ⟨hrevise, rfl⟩ := (update_eq_ok_iff generate hb).1 hanswer
      have haccepted : accepted (us ++ [(change, .ok c)]) = accepted us ++ [change] :=
        List.filterMap_append
      exact ⟨c, find?_insert_self d' kind id c, by
        rw [haccepted]
        exact hlast.revise hrevise, fun h => (htidy h).revise hrevise⟩

end Updates

/-- What updates make of an entity, and what the next one will: each attribute is as the last update that succeeded and
carried it says. -/
structure LastWriterWins (generate : Nat → Uuid) (kind : ResourceType) (id : Uuid) (a : kind.Entity)
    (us : List (kind.Revision × Except kind.Error kind.Entity)) (d : Directory) : Prop where
  stored : ∃ b, d.find? kind id = some b ∧ LastWins a (accepted us) b
  answered : ∀ change b d', (client generate kind).update id change d = (.ok b, d') →
    LastWins a (accepted us ++ [change]) b ∧ d' = d.insert kind id b
  unaltered : ∀ change e d', (client generate kind).update id change d = (.error e, d') → d' = d
  unique : kind.Tidy a → ∀ b, d.find? kind id = some b →
    kind.Tidy b ∧ ∀ c, kind.Tidy c → LastWins a (accepted us) c → c = b
  repeated : ∀ change b d', (client generate kind).update id change d = (.ok b, d') →
    ∀ d'', d''.users = d'.users → d''.find? kind id = some b →
      ∃ c, (client generate kind).update id change d'' = (.ok c, d''.insert kind id c) ∧ LastWins b [] c ∧
        (kind.Tidy a → c = b ∧ d''.insert kind id c = d'')

theorem Updates.lastWriterWins {us : List (kind.Revision × Except kind.Error kind.Entity)}
    (h : Updates generate kind id d us d') (ha : d.find? kind id = some a) :
    LastWriterWins generate kind id a us d' := by
  obtain ⟨b, hb, hlast, htidy⟩ := h.stored ha
  constructor
  case stored => exact ⟨b, hb, hlast⟩
  case answered =>
    intro change c d'' hanswer
    obtain ⟨hrevise, rfl⟩ := (update_eq_ok_iff generate hb).1 hanswer
    exact ⟨hlast.revise hrevise, rfl⟩
  case unaltered =>
    intro change e d'' hanswer
    exact eq_of_update_error (has_of_find? _ hb) hanswer
  case unique =>
    intro ha' b' hb'
    obtain rfl := Option.some.inj (hb.symm.trans hb')
    exact ⟨htidy ha', fun c hc hlast' => hlast'.unique hlast hc (htidy ha')⟩
  case repeated =>
    intro change c d'' hanswer e husers hstored
    obtain ⟨hrevise, rfl⟩ := (update_eq_ok_iff generate hb).1 hanswer
    obtain ⟨c', hagain⟩ := ResourceType.exists_revise_again hrevise
    have hsame := ResourceType.lastWins_of_revise_again hrevise hagain
    refine ⟨c', (update_eq_ok_iff generate hstored).2 ⟨?_, rfl⟩, hsame, fun ha' => ?_⟩
    · rw [husers, revise_users_insert]
      exact hagain
    · have hc : kind.Tidy c := (htidy ha').revise hrevise
      obtain rfl : c' = c := hsame.unique (.refl c) (hc.revise hagain) hc
      exact ⟨rfl, insert_of_find? _ hstored⟩

def lamp : CustomResource := ⟨Server.counted 0, "Devices", [("floor", .string "1")]⟩

def moves : List Attributes := [
  [("floor", .null), ("room", .string "12")],
  [("id", .null)],
  [("room", .string "13")]]

theorem Updates.lastWriterWins_lamp : ∃ d us d', d.find? (.custom "Devices") (Server.counted 0) = some lamp ∧
    Updates Server.counted (.custom "Devices") (Server.counted 0) d us d' ∧ us.map Prod.fst = moves ∧
    accepted us = [[("floor", .null), ("room", .string "12")], [("room", .string "13")]] ∧
    d'.find? (.custom "Devices") (Server.counted 0) = some { lamp with attributes := [("room", .string "13")] } ∧
    LastWriterWins Server.counted (.custom "Devices") (Server.counted 0) lamp us d' := by
  have h : Updates Server.counted (.custom "Devices") (Server.counted 0) _ _ _ :=
    (((Updates.start (d := (empty ["Devices"]).insert (.custom "Devices") (Server.counted 0) lamp)).update
      moves[0]).update moves[1]).update moves[2]
  exact ⟨_, _, _, rfl, h, rfl, rfl, rfl, h.lastWriterWins rfl⟩

end Roster.Directory
