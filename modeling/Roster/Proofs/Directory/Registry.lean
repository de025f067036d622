import Roster.Proofs.Directory.Client

namespace Roster

namespace Registry

variable {σ : Type} {r r' : Registry σ}

theorem register_eq_ok {segment : String} {kind : ResourceType} {handler : Handler σ} :
    r.register segment kind handler = .ok r' ↔ segment ≠ "" ∧ '/' ∉ segment.toList ∧
      r.get? segment = none ∧ r' = ⟨r.entries ++ [(segment, ⟨kind, handler⟩)]⟩ := by
  rw [register]
  split
  · rename_i h
    exact ⟨nofun, fun ⟨hne, hslash, _⟩ => (h.elim hne hslash).elim⟩
  · rename_i h
    rw [not_or] at h
    split
    · rename_i hsome
      exact ⟨nofun, fun ⟨_, _, hnone, _⟩ => by simp [hnone] at hsome⟩
    · rename_i hsome
      rw [Option.not_isSome_iff_eq_none] at hsome
      exact ⟨fun hr => ⟨h.1, h.2, hsome, (Except.ok.inj hr).symm⟩, fun hr => by rw [hr.2.2.2]⟩

theorem get?_eq_some {segment : String} {entry : Entry σ} (h : r.get? segment = some entry) :
    (segment, entry) ∈ r.entries := by
  obtain ⟨before, after, heq, -⟩ := List.lookup_eq_some_iff.1 h
  rw [heq]
  exact List.mem_append_right _ List.mem_cons_self

theorem resolve_eq_ok {segment : String} {entry : Entry σ} :
    r.resolve segment = .ok entry ↔ r.get? segment = some entry := by
  rw [resolve]
  cases r.get? segment <;> simp

def Distinct (r : Registry σ) : Prop := (r.entries.map Prod.fst).Nodup

theorem Distinct.register {segment : String} {kind : ResourceType} {handler : Handler σ}
    (hr : r.Distinct) (h : r.register segment kind handler = .ok r') : r'.Distinct := by
  obtain ⟨-, -, hnone, rfl⟩ := register_eq_ok.1 h
  have hnew : ∀ key ∈ r.entries.map Prod.fst, segment ≠ key := by
    intro key hkey
    obtain ⟨entry, hentry, rfl⟩ := List.mem_map.1 hkey
    exact bne_iff_ne.1 (List.lookup_eq_none_iff.1 hnone entry hentry)
  rw [Distinct, List.map_append, List.nodup_append]
  refine ⟨hr, List.pairwise_singleton _ _, fun key hkey key' hkey' => ?_⟩
  rw [List.map_singleton, List.mem_singleton] at hkey'
  exact hkey' ▸ (hnew key hkey).symm

theorem Distinct.get?_of_mem {segment : String} {entry : Entry σ} (hr : r.Distinct)
    (h : (segment, entry) ∈ r.entries) : r.get? segment = some entry := by
  obtain ⟨before, after, heq⟩ := List.append_of_mem h
  refine List.lookup_eq_some_iff.2 ⟨before, after, heq, fun key hkey => bne_iff_ne.2 fun hsame => ?_⟩
  rw [Distinct, heq, List.map_append, List.map_cons, List.nodup_append] at hr
  exact hr.2.2 _ (List.mem_map_of_mem hkey) _ List.mem_cons_self hsame.symm

end Registry

def ResourceType.ofSegment (segment : String) : ResourceType :=
  if segment = "Users" then .user
  else if segment = "Groups" then .group
  else if segment = "ServiceCredentials" then .serviceCredential
  else .custom segment

namespace Directory

def kinds (customTypes : List String) : List ResourceType :=
  .user :: .group :: .serviceCredential :: customTypes.map .custom

variable (generate : Nat → Uuid)

def handler (kind : ResourceType) : Handler Directory :=
  (client generate kind).handler kind.readParams kind.readRevision

def entry (kind : ResourceType) : Registry.Entry Directory := ⟨kind, handler generate kind⟩

theorem registry_entries {customTypes : List String} {r : Registry Directory}
    (h : registry generate customTypes = .ok r) :
    r.entries = (kinds customTypes).map fun kind => (kind.segment, entry generate kind) := by
  obtain ⟨r₁, h₁, h⟩ := Except.bind_eq_ok.1 h
  obtain ⟨r₂, h₂, h⟩ := Except.bind_eq_ok.1 h
  obtain ⟨r₃, h₃, h⟩ := Except.bind_eq_ok.1 h
  obtain ⟨-, -, -, rfl⟩ := Registry.register_eq_ok.1 h₁
  obtain ⟨-, -, -, rfl⟩ := Registry.register_eq_ok.1 h₂
  obtain ⟨-, -, -, rfl⟩ := Registry.register_eq_ok.1 h₃
  have hcustom : ∀ (names : List String) (r' : Registry Directory),
      names.foldlM (fun r name =>
        r.register name (.custom name) (customClient generate name).customHandler) r' = .ok r →
      r.entries = r'.entries ++ names.map fun name => (name, entry generate (.custom name)) := by
    intro names
    induction names with
    | nil =>
      intro r' hr
      rw [Except.ok.inj hr, List.map_nil, List.append_nil]
    | cons name rest ih =>
      intro r' hr
      rw [List.foldlM_cons] at hr
      obtain ⟨r'', hname, hrest⟩ := Except.bind_eq_ok.1 hr
      obtain ⟨-, -, -, rfl⟩ := Registry.register_eq_ok.1 hname
      rw [ih _ hrest, List.append_assoc]
      rfl
  rw [hcustom _ _ h, kinds, List.map_cons, List.map_cons, List.map_cons, List.map_map]
  rfl

theorem resolve_eq_ok {customTypes : List String} {r : Registry Directory}
    (h : registry generate customTypes = .ok r) {segment : String} {e : Registry.Entry Directory}
    (hr : r.resolve segment = .ok e) :
    ∃ kind ∈ kinds customTypes, segment = kind.segment ∧ e = entry generate kind := by
  have hmem := Registry.get?_eq_some (Registry.resolve_eq_ok.1 hr)
  rw [registry_entries generate h, List.mem_map] at hmem
  obtain ⟨kind, hkind, heq⟩ := hmem
  obtain ⟨rfl, rfl⟩ := Prod.mk.inj heq
  exact ⟨kind, hkind, rfl, rfl⟩

theorem registry_distinct {customTypes : List String} {r : Registry Directory}
    (h : registry generate customTypes = .ok r) : r.Distinct := by
  obtain ⟨r₁, h₁, h⟩ := Except.bind_eq_ok.1 h
  obtain ⟨r₂, h₂, h⟩ := Except.bind_eq_ok.1 h
  obtain ⟨r₃, h₃, h⟩ := Except.bind_eq_ok.1 h
  have hempty : (⟨[]⟩ : Registry Directory).Distinct := List.nodup_nil
  exact Except.foldlM_invariant (P := Registry.Distinct) (fun _ _ _ hr hname => hr.register hname)
    (((hempty.register h₁).register h₂).register h₃) h

theorem resolve_segment {customTypes : List String} {r : Registry Directory}
    (h : registry generate customTypes = .ok r) {kind : ResourceType} (hkind : kind ∈ kinds customTypes) :
    r.resolve kind.segment = .ok (entry generate kind) := by
  refine Registry.resolve_eq_ok.2 ((registry_distinct generate h).get?_of_mem ?_)
  rw [registry_entries generate h]
  exact List.mem_map_of_mem hkind

theorem segment_injective {customTypes : List String} {r : Registry Directory}
    (h : registry generate customTypes = .ok r) {kind kind' : ResourceType}
    (hkind : kind ∈ kinds customTypes) (hkind' : kind' ∈ kinds customTypes)
    (hsegment : kind.segment = kind'.segment) : kind = kind' := by
  have hresolve := resolve_segment generate h hkind
  rw [hsegment, resolve_segment generate h hkind'] at hresolve
  exact (congrArg Registry.Entry.kind (Except.ok.inj hresolve)).symm

theorem ofSegment_segment {customTypes : List String} {r : Registry Directory}
    (h : registry generate customTypes = .ok r) {kind : ResourceType} (hkind : kind ∈ kinds customTypes) :
    ResourceType.ofSegment kind.segment = kind := by
  cases kind with
  | user => rfl
  | group => rfl
  | serviceCredential => rfl
  | custom name =>
    have hne : ∀ kind ∈ kinds customTypes, kind ≠ .custom name → name ≠ kind.segment :=
      fun kind hk hother hsame => hother (segment_injective generate h hk hkind hsame.symm)
    have husers : name ≠ "Users" := hne .user (by simp [kinds]) nofun
    have hgroups : name ≠ "Groups" := hne .group (by simp [kinds]) nofun
    have hcredentials : name ≠ "ServiceCredentials" := hne .serviceCredential (by simp [kinds]) nofun
    simp [ResourceType.ofSegment, ResourceType.segment, husers, hgroups, hcredentials]

variable {d : Directory} {kind : ResourceType}

theorem missing?_notFound (id : String) :
    (ResourceError.missing? (ResourceError.notFound id : kind.Error)).isSome := by
  cases kind <;> rfl

theorem handler_create (h : d.Has kind) (payload : Json) :
    (handler generate kind).create payload d =
      match kind.readParams payload with
      | .error e => (.error (.protocol e), d)
      | .ok params =>
        match kind.make d.users (generate d.issued) params with
        | .error e => (.error (ResourceError.classify e), d.drawn)
        | .ok a => (.ok (generate d.issued), (d.insert kind (generate d.issued) a).drawn) := by
  simp only [handler, Client.handler]
  cases kind.readParams payload with
  | error e => rfl
  | ok params =>
    simp only [client_create generate h]
    cases kind.make d.users (generate d.issued) params <;> rfl

theorem handler_update (h : d.Has kind) (id : Uuid) (payload : Json) :
    (handler generate kind).update id payload d =
      match kind.readRevision payload with
      | .error e => (.error (.protocol e), d)
      | .ok change =>
        match d.find? kind id with
        | none => (.ok false, d)
        | some a =>
          match kind.revise d.users change a with
          | .error e =>
            (if (ResourceError.missing? e).isSome then .ok false else .error (ResourceError.classify e), d)
          | .ok a => (.ok true, d.insert kind id a) := by
  simp only [handler, Client.handler]
  cases kind.readRevision payload with
  | error e => rfl
  | ok change =>
    simp only [client_update generate h]
    cases d.find? kind id with
    | none => simp only [missing?_notFound, if_true]
    | some a =>
      simp only
      cases kind.revise d.users change a <;> rfl

theorem handler_delete (h : d.Has kind) (id : Uuid) :
    (handler generate kind).delete id d =
      match d.find? kind id with
      | none => (.ok false, d)
      | some _ => (.ok true, d.erase kind id) := by
  simp only [handler, Client.handler, client_delete generate h]
  cases d.find? kind id with
  | none => simp only [missing?_notFound, if_true]
  | some a => rfl

end Directory

end Roster
