import Roster.Proofs.Actor.Client
import Roster.Proofs.Directory.Store

namespace Roster

theorem User.hooks_reads {σ : Type} :
    (User.hooks (σ := σ)).Reads (fun _ _ => .ok ()) fun _ => User.revise where
  onCreate _ _ := rfl
  onUpdate change u s := by
    simp only [hooks]
    cases u.revise change <;> rfl
  onDelete _ _ := rfl

theorem Group.hooks_reads {σ : Type} {lookup : UserLookup σ} {users : σ → Store Uuid User}
    (h : ∀ id s, lookup id s = (.ok ((users s).get? id), s)) :
    (Group.hooks lookup).Reads (fun s g => known (users s) g.members) fun s => revise (users s) where
  onCreate g s := by
    simp only [hooks, checkMembers_eq_known fun id => h id s]
  onUpdate change g s := by
    simp only [hooks, revise]
    cases g.rename change.displayName with
    | error e => rfl
    | ok g =>
      cases change.members with
      | none => rfl
      | some members =>
        simp only [checkMembers_eq_known fun id => h id s]
        cases known (users s) members <;> rfl
  onDelete _ _ := rfl

theorem Credential.hooks_reads {σ : Type} {lookup : UserLookup σ} {users : σ → Store Uuid User}
    (h : ∀ id s, lookup id s = (.ok ((users s).get? id), s)) :
    (Credential.hooks lookup).Reads (fun s c => known (users s) c.ownerId) fun s => revise (users s) where
  onCreate c s := by
    simp only [hooks, checkOwner_eq_known fun id => h id s]
  onUpdate change c s := by
    simp only [hooks, revise]
    cases c.rename change with
    | error e => rfl
    | ok c =>
      simp only [checkOwner_eq_known fun id => h id s]
      cases known (users s) change.ownerId <;> rfl
  onDelete _ _ := rfl

namespace CustomResource

def hooksOf {σ : Type} (name : String) : Hooks σ Uuid Attributes Attributes CustomError CustomResource where
  build id attributes := build id ⟨name, attributes⟩
  onUpdate attributes := hooks.onUpdate ⟨attributes⟩

theorem hooksOf_reads {σ : Type} (name : String) :
    (hooksOf (σ := σ) name).Reads (fun _ _ => .ok ()) fun _ => revise where
  onCreate _ _ := rfl
  onUpdate change r s := by
    simp only [hooksOf, hooks, revise]
    cases intruder? change <;> rfl
  onDelete _ _ := rfl

end CustomResource

namespace Directory

variable (generate : Nat → Uuid)

theorem userActor_get (id : Uuid) (people : People) :
    (userActor generate).get id people = (.ok (people.1.get? id), people) := rfl

def client : (kind : ResourceType) →
    Client Directory Uuid kind.Params kind.Revision kind.Error kind.Entity
  | .user => userClient generate
  | .group => groupClient generate
  | .serviceCredential => credentialClient generate
  | .custom name => customClient generate name

/-- How the actor of a kind is a part of the directory. The rest is what it sees beside its own store. -/
structure Lodging (kind : ResourceType) where
  σ : Type
  hooks : Hooks σ Uuid kind.Params kind.Revision kind.Error kind.Entity
  accept : σ → kind.Entity → Except kind.Error Unit
  revise : σ → kind.Revision → kind.Entity → Except kind.Error kind.Entity
  fresh : Action σ Uuid
  rest : Directory → σ
  replace : Store Uuid kind.Entity × σ → Directory → Directory
  reads : hooks.Reads accept revise
  client_eq : client generate kind =
    Actor.lodged hooks fresh (fun d => (d.store kind, rest d)) replace := by rfl
  build_eq : hooks.build = kind.build := by rfl
  accept_rest : ∀ d, accept (rest d) = kind.accept d.users := by intro _; rfl
  revise_rest : ∀ d, revise (rest d) = kind.revise d.users := by intro _; rfl
  fresh_rest : ∀ d, fresh (rest d) = (generate d.issued, rest d.drawn) := by intro _; rfl
  replace_rest : ∀ d s, replace (s, rest d) d = d.withStore kind s := by intro _ _; rfl
  replace_drawn : ∀ d s, replace (s, rest d.drawn) d = (d.withStore kind s).drawn := by intro _ _; rfl

def lodging : (kind : ResourceType) → Lodging generate kind
  | .user => {
    σ := Nat
    hooks := User.hooks
    accept := _
    revise := _
    fresh := draw generate
    rest := fun d => d.issued
    replace := fun (users, n) d => { d with users := users, issued := n }
    reads := User.hooks_reads }
  | .group => {
    σ := People
    hooks := Group.hooks (userActor generate).get
    accept := _
    revise := _
    fresh := drawBeside generate
    rest := fun d => (d.users, d.issued)
    replace := fun (groups, users, n) d => { d with groups := groups, users := users, issued := n }
    reads := Group.hooks_reads (userActor_get generate) }
  | .serviceCredential => {
    σ := People
    hooks := Credential.hooks (userActor generate).get
    accept := _
    revise := _
    fresh := drawBeside generate
    rest := fun d => (d.users, d.issued)
    replace := fun (credentials, users, n) d =>
      { d with credentials := credentials, users := users, issued := n }
    reads := Credential.hooks_reads (userActor_get generate) }
  | .custom name => {
    σ := Nat
    hooks := CustomResource.hooksOf name
    accept := _
    revise := _
    fresh := draw generate
    rest := fun d => d.issued
    replace := fun (store, n) d => { d with customs := d.customs.insert name store, issued := n }
    reads := CustomResource.hooksOf_reads name }

instance : (kind : ResourceType) → LawfulResourceError kind.Error
  | .user => inferInstanceAs (LawfulResourceError UserError)
  | .group => inferInstanceAs (LawfulResourceError GroupError)
  | .serviceCredential => inferInstanceAs (LawfulResourceError CredentialError)
  | .custom _ => inferInstanceAs (LawfulResourceError CustomError)

variable {d : Directory} {kind : ResourceType}

theorem client_create (h : d.Has kind) (params : kind.Params) :
    (client generate kind).create params d =
      match kind.make d.users (generate d.issued) params with
      | .error e => (.error e, d.drawn)
      | .ok a => (.ok (generate d.issued), (d.insert kind (generate d.issued) a).drawn) := by
  have l := lodging generate kind
  rw [l.client_eq, Actor.lodged_create l.reads params (l.fresh_rest d), l.build_eq, l.accept_rest,
    l.replace_drawn, d.withStore_store h]
  simp only [l.replace_drawn]
  have hmake : (do let a ← kind.build (generate d.issued) params; kind.accept d.drawn.users a; return a) =
      kind.make d.users (generate d.issued) params := rfl
  rw [hmake]
  cases kind.make d.users (generate d.issued) params <;> rfl

theorem client_get (h : d.Has kind) (id : Uuid) :
    (client generate kind).get id d = (.ok (d.find? kind id), d) := by
  have l := lodging generate kind
  rw [l.client_eq, Actor.lodged_get, l.replace_rest, d.withStore_store h]
  rfl

theorem client_update (h : d.Has kind) (id : Uuid) (change : kind.Revision) :
    (client generate kind).update id change d =
      match d.find? kind id with
      | none => (.error (ResourceError.notFound (toString id)), d)
      | some a =>
        match kind.revise d.users change a with
        | .error e => (.error e, d)
        | .ok a => (.ok a, d.insert kind id a) := by
  have l := lodging generate kind
  rw [l.client_eq, Actor.lodged_update l.reads, l.revise_rest]
  simp only [l.replace_rest, d.withStore_store h, find?]
  cases (d.store kind).get? id with
  | none => rfl
  | some a =>
    simp only
    cases kind.revise d.users change a <;> rfl

theorem update_eq_ok_iff {d' : Directory} {id : Uuid} {a b : kind.Entity} (ha : d.find? kind id = some a)
    {change : kind.Revision} : (client generate kind).update id change d = (.ok b, d') ↔
      kind.revise d.users change a = .ok b ∧ d' = d.insert kind id b := by
  rw [client_update generate (d.has_of_find? ha), ha]
  cases hrevise : kind.revise d.users change a with
  | error e => simp [hrevise]
  | ok c =>
    simp only [hrevise, Prod.mk.injEq, Except.ok.injEq]
    constructor
    · rintro ⟨rfl, rfl⟩
      exact ⟨rfl, rfl⟩
    · rintro ⟨rfl, rfl⟩
      exact ⟨rfl, rfl⟩

theorem client_delete (h : d.Has kind) (id : Uuid) :
    (client generate kind).delete id d =
      match d.find? kind id with
      | none => (.error (ResourceError.notFound (toString id)), d)
      | some _ => (.ok (), d.erase kind id) := by
  have l := lodging generate kind
  rw [l.client_eq, Actor.lodged_delete l.reads]
  simp only [l.replace_rest, d.withStore_store h, find?]
  cases (d.store kind).get? id <;> rfl

end Directory

end Roster
