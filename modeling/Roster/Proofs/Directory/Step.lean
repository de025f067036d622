import Roster.Proofs.Batch.Run
import Roster.Proofs.Directory.Registry
import Roster.Proofs.Resource.Refusal

/-! What one request, or one operation of a batch, can do to a directory. -/

namespace Roster

namespace Directory

inductive Notice
  | nothing
  | created (kind : ResourceType) (id : Uuid)
  | deleted (kind : ResourceType) (id : Uuid)
  deriving DecidableEq

def Notice.ofAnswer (kind : ResourceType) :
    Request Uuid kind.Params kind.Revision → Except kind.Error (Reply Uuid kind.Entity) → Notice
  | .create _, .ok (.created id) => .created kind id
  | .delete id, .ok .deleted => .deleted kind id
  | _, _ => .nothing

inductive Noted (generate : Nat → Uuid) (d : Directory) : Notice → Directory → Prop
  | stay : Noted generate d .nothing d
  | draw : Noted generate d .nothing d.drawn
  | create {kind : ResourceType} {params : kind.Params} {a : kind.Entity} :
      kind.make d.users (generate d.issued) params = .ok a →
      Noted generate d (.created kind (generate d.issued)) (d.insert kind (generate d.issued) a).drawn
  | update {kind : ResourceType} {id : Uuid} {change : kind.Revision} {a b : kind.Entity} :
      d.find? kind id = some a → kind.revise d.users change a = .ok b →
      Noted generate d .nothing (d.insert kind id b)
  | delete {kind : ResourceType} {id : Uuid} {a : kind.Entity} :
      d.find? kind id = some a → Noted generate d (.deleted kind id) (d.erase kind id)

def Step (generate : Nat → Uuid) (d d' : Directory) : Prop := ∃ n, Noted generate d n d'

variable {generate : Nat → Uuid} {d d' : Directory} {kind : ResourceType}

theorem Noted.step {n : Notice} (h : Noted generate d n d') : Step generate d d' := ⟨n, h⟩

theorem Step.has (h : Step generate d d') (hd : d.Has kind) : d'.Has kind := by
  obtain ⟨n, h⟩ := h
  cases h with
  | stay => exact hd
  | draw => exact (d.has_drawn kind).2 hd
  | create => exact (has_drawn _ kind).2 (d.has_withStore _ kind _ hd)
  | update => exact d.has_withStore _ kind _ hd
  | delete => exact d.has_withStore _ kind _ hd

def Issued (generate : Nat → Uuid) (d : Directory) : Prop :=
  ∀ kind id, (d.find? kind id).isSome → ∃ k < d.issued, id = generate k

theorem issued_empty (customTypes : List String) : Issued generate (empty customTypes) := by
  intro kind id h
  simp at h

theorem Issued.drawn (h : Issued generate d) : Issued generate d.drawn := by
  intro kind id hid
  rw [find?_drawn] at hid
  obtain ⟨k, hk, rfl⟩ := h kind id hid
  exact ⟨k, Nat.lt_succ_of_lt hk, rfl⟩

theorem Issued.insert (h : Issued generate d) {k : Nat} (hk : k < d.issued) (a : kind.Entity) :
    Issued generate (d.insert kind (generate k) a) := by
  intro kind' id' hid
  rw [issued_insert]
  by_cases hsame : kind' = kind ∧ id' = generate k
  · exact ⟨k, hk, hsame.2⟩
  · rw [d.find?_insert_of_ne hsame] at hid
    exact h kind' id' hid

theorem Issued.erase (h : Issued generate d) (id : Uuid) : Issued generate (d.erase kind id) := by
  intro kind' id' hid
  rw [issued_erase]
  by_cases hsame : kind' = kind ∧ id' = id
  · obtain ⟨rfl, rfl⟩ := hsame
    simp at hid
  · rw [d.find?_erase_of_ne hsame] at hid
    exact h kind' id' hid

theorem Step.issued (h : Step generate d d') (hd : Issued generate d) : Issued generate d' := by
  obtain ⟨n, h⟩ := h
  cases h with
  | stay => exact hd
  | draw => exact hd.drawn
  | create =>
    rw [drawn_insert]
    exact hd.drawn.insert (Nat.lt_succ_self _) _
  | update hfind =>
    obtain ⟨k, hk, rfl⟩ := hd _ _ (Option.isSome_of_eq_some hfind)
    exact hd.insert hk _
  | delete => exact hd.erase _

theorem send_noted (h : d.Has kind) (q : Request Uuid kind.Params kind.Revision) :
    Noted generate d (.ofAnswer kind q ((client generate kind).send q d).1)
      ((client generate kind).send q d).2 := by
  cases q with
  | create params =>
    rw [Client.send, client_create generate h]
    cases hmake : kind.make d.users (generate d.issued) params with
    | error e => exact .draw
    | ok a => exact .create hmake
  | get id =>
    rw [Client.send, client_get generate h]
    exact .stay
  | update id change =>
    rw [Client.send, client_update generate h]
    cases hfind : d.find? kind id with
    | none => exact .stay
    | some a =>
      cases hrevise : kind.revise d.users change a with
      | error e => simp only [hrevise]; exact .stay
      | ok b => simp only [hrevise]; exact .update hfind hrevise
  | delete id =>
    rw [Client.send, client_delete generate h]
    cases hfind : d.find? kind id with
    | none => exact .stay
    | some a => exact .delete hfind

theorem send_step (h : d.Has kind) (q : Request Uuid kind.Params kind.Revision) :
    Step generate d ((client generate kind).send q d).2 :=
  (send_noted h q).step

end Directory

namespace Batch

open Directory (entry)

variable (generate : Nat → Uuid) (e : Endpoint Directory) (op : Operation) (refs : References)
  (d : Directory)

/-- What comes of an operation, by how far it gets. -/
inductive Performed : Outcome → Directory → Prop
  | refused {cause : ProtocolError} : Performed (.error cause) d
  | rejected {kind : ResourceType} {payload : Json} {params : kind.Params} {error : kind.Error} :
      op.plan e.registry refs = .ok ⟨kind.segment, entry generate kind, .create payload⟩ →
      kind.readParams payload = .ok params →
      kind.make d.users (generate d.issued) params = .error error →
      Performed (.error (ResourceError.classify error).toProtocolError) d.drawn
  | created {kind : ResourceType} {payload : Json} {params : kind.Params} {a : kind.Entity} :
      op.plan e.registry refs = .ok ⟨kind.segment, entry generate kind, .create payload⟩ →
      kind.readParams payload = .ok params →
      kind.make d.users (generate d.issued) params = .ok a →
      Performed
        (.ok (.created (generate d.issued), some (e.location kind.segment (generate d.issued))))
        (d.insert kind (generate d.issued) a).drawn
  | modified {kind : ResourceType} {id : Uuid} {payload : Json} {change : kind.Revision}
      {a b : kind.Entity} :
      op.plan e.registry refs = .ok ⟨kind.segment, entry generate kind, .update id payload⟩ →
      kind.readRevision payload = .ok change → d.find? kind id = some a →
      kind.revise d.users change a = .ok b →
      Performed (.ok (.modified id, some (e.location kind.segment id))) (d.insert kind id b)
  | removed {kind : ResourceType} {id : Uuid} {a : kind.Entity} :
      op.plan e.registry refs = .ok ⟨kind.segment, entry generate kind, .delete id⟩ →
      d.find? kind id = some a → Performed (.ok (.removed id, none)) (d.erase kind id)

variable {generate e op refs d} {customTypes : List String}

theorem Operation.entry_of_plan (he : Directory.registry generate customTypes = .ok e.registry)
    {plan : Plan Directory} (h : op.plan e.registry refs = .ok plan) :
    ∃ kind ∈ Directory.kinds customTypes, plan = ⟨kind.segment, entry generate kind, plan.dispatch⟩ := by
  have hresolve : e.registry.resolve plan.segment = .ok plan.entry := by
    cases plan_eq_ok_iff.1 h with
    | create _ _ _ _ _ hentry => exact hentry
    | update _ _ _ _ hentry => exact hentry
    | delete _ _ hentry => exact hentry
  obtain ⟨kind, hkind, hsegment, hentry⟩ := Directory.resolve_eq_ok generate he hresolve
  refine ⟨kind, hkind, ?_⟩
  rw [← hsegment, ← hentry]

theorem served_of_plan (he : Directory.registry generate customTypes = .ok e.registry)
    {kind : ResourceType} {segment : String} {dispatch : Dispatch}
    (h : op.plan e.registry refs = .ok ⟨segment, entry generate kind, dispatch⟩) :
    kind ∈ Directory.kinds customTypes := by
  obtain ⟨kind', hkind, heq⟩ := Operation.entry_of_plan he h
  have hentry := congrArg (fun plan => plan.entry.kind) heq
  obtain rfl : kind = kind' := hentry
  exact hkind

section

variable {kind : ResourceType} {segment : String} {id : Uuid} {payload : Json}

theorem perform_create (hd : d.Has kind)
    (h : op.plan e.registry refs = .ok ⟨segment, entry generate kind, .create payload⟩) :
    e.perform op refs d =
      match kind.readParams payload with
      | .error cause => (.error cause, d)
      | .ok params =>
        match kind.make d.users (generate d.issued) params with
        | .error error => (.error (ResourceError.classify error).toProtocolError, d.drawn)
        | .ok a => (.ok (.created (generate d.issued), some (e.location segment (generate d.issued))),
          (d.insert kind (generate d.issued) a).drawn) := by
  simp only [e.perform_of_plan h, Dispatch.invoke, Directory.entry, Directory.handler_create generate hd]
  cases kind.readParams payload with
  | error cause => rfl
  | ok params => simp only; cases kind.make d.users (generate d.issued) params <;> rfl

theorem perform_update (hd : d.Has kind)
    (h : op.plan e.registry refs = .ok ⟨segment, entry generate kind, .update id payload⟩) :
    e.perform op refs d =
      match kind.readRevision payload with
      | .error cause => (.error cause, d)
      | .ok change =>
        match d.find? kind id with
        | none => (.error (.expectationFailed ("resource " ++ id.text ++ " was not modified")), d)
        | some a =>
          match kind.revise d.users change a with
          | .error error => (.error (ResourceError.classify error).toProtocolError, d)
          | .ok b => (.ok (.modified id, some (e.location segment id)), d.insert kind id b) := by
  simp only [e.perform_of_plan h, Dispatch.invoke, Directory.entry, Directory.handler_update generate hd]
  cases kind.readRevision payload with
  | error cause => rfl
  | ok change =>
    simp only
    cases d.find? kind id with
    | none => rfl
    | some a =>
      cases hrevise : kind.revise d.users change a with
      | error error =>
        have hpresent : ¬ (ResourceError.missing? error).isSome = true := by
          simp [(ResourceType.refuses_of_revise hrevise).missing?]
        simp only [hrevise, if_neg hpresent]
        rfl
      | ok b => simp only [hrevise]; rfl

theorem perform_delete (hd : d.Has kind)
    (h : op.plan e.registry refs = .ok ⟨segment, entry generate kind, .delete id⟩) :
    e.perform op refs d =
      match d.find? kind id with
      | none => (.error (.expectationFailed ("resource " ++ id.text ++ " was not deleted")), d)
      | some _ => (.ok (.removed id, none), d.erase kind id) := by
  simp only [e.perform_of_plan h, Dispatch.invoke, Directory.entry, Directory.handler_delete generate hd]
  cases d.find? kind id <;> rfl

end

theorem perform_performed (he : Directory.registry generate customTypes = .ok e.registry)
    (hd : ∀ kind ∈ Directory.kinds customTypes, d.Has kind) :
    Performed generate e op refs d (e.perform op refs d).1 (e.perform op refs d).2 := by
  cases hplan : op.plan e.registry refs with
  | error cause =>
    rw [e.perform_of_error hplan]
    exact .refused
  | ok plan =>
    obtain ⟨kind, hkind, heq⟩ := Operation.entry_of_plan he hplan
    obtain ⟨segment, entry, dispatch⟩ := plan
    obtain ⟨rfl, rfl, -⟩ := Plan.mk.inj heq
    cases dispatch with
    | create payload =>
      rw [perform_create (hd kind hkind) hplan]
      cases hread : kind.readParams payload with
      | error cause => exact .refused
      | ok params =>
        cases hmake : kind.make d.users (generate d.issued) params with
        | error error => simp only [hmake]; exact .rejected hplan hread hmake
        | ok a => simp only [hmake]; exact .created hplan hread hmake
    | update id payload =>
      rw [perform_update (hd kind hkind) hplan]
      cases hread : kind.readRevision payload with
      | error cause => exact .refused
      | ok change =>
        cases hfind : d.find? kind id with
        | none => exact .refused
        | some a =>
          cases hrevise : kind.revise d.users change a with
          | error error => simp only [hrevise]; exact .refused
          | ok b => simp only [hrevise]; exact .modified hplan hread hfind hrevise
    | delete id =>
      rw [perform_delete (hd kind hkind) hplan]
      cases hfind : d.find? kind id with
      | none => exact .refused
      | some a => exact .removed hplan hfind

namespace Operation

def kind? (op : Operation) : Option ResourceType :=
  (Path.parse op.path).toOption.map fun path => .ofSegment path.segment

theorem kind?_of_plan (he : Directory.registry generate customTypes = .ok e.registry)
    {kind : ResourceType} {dispatch : Dispatch}
    (h : op.plan e.registry refs = .ok ⟨kind.segment, entry generate kind, dispatch⟩) :
    op.kind? = some kind := by
  have hkind := Directory.ofSegment_segment generate he (served_of_plan he h)
  cases plan_eq_ok_iff.1 h with
  | create _ _ _ _ hpath => simpa [kind?, hpath, Except.toOption] using hkind
  | update _ _ _ hpath => simpa [kind?, hpath, Except.toOption] using hkind
  | delete _ hpath => simpa [kind?, hpath, Except.toOption] using hkind

def notice (op : Operation) : Outcome → Directory.Notice
  | .ok (.created id, _) => (op.kind?.map fun kind => .created kind id).getD .nothing
  | .ok (.removed id, _) => (op.kind?.map fun kind => .deleted kind id).getD .nothing
  | _ => .nothing

end Operation

theorem Performed.noted (he : Directory.registry generate customTypes = .ok e.registry) {out : Outcome}
    {d' : Directory} (h : Performed generate e op refs d out d') :
    Directory.Noted generate d (op.notice out) d' := by
  cases h with
  | refused => exact .stay
  | rejected => exact .draw
  | created hplan _ hmake =>
    simp only [Operation.notice, Operation.kind?_of_plan he hplan, Option.map_some, Option.getD_some]
    exact .create hmake
  | modified _ _ hfind hrevise => exact .update hfind hrevise
  | removed hplan hfind =>
    simp only [Operation.notice, Operation.kind?_of_plan he hplan, Option.map_some, Option.getD_some]
    exact .delete hfind

theorem Performed.step (he : Directory.registry generate customTypes = .ok e.registry) {out : Outcome}
    {d' : Directory} (h : Performed generate e op refs d out d') : Directory.Step generate d d' :=
  (h.noted he).step

end Batch

end Roster
