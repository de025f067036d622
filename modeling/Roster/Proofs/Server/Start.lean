import Roster.Proofs.Config
import Roster.Proofs.Directory.Registry
import Roster.Proofs.Server.Reachable

namespace Roster

structure Fresh (taken names : List String) : Prop where
  plain : ∀ name ∈ names, '/' ∉ name.toList
  distinct : names.Nodup
  free : ∀ name ∈ names, name ∉ taken

theorem fresh_nil (taken : List String) : Fresh taken [] := ⟨nofun, .nil, nofun⟩

theorem fresh_cons {taken names : List String} {name : String} :
    Fresh taken (name :: names) ↔ '/' ∉ name.toList ∧ name ∉ taken ∧ Fresh (taken ++ [name]) names := by
  constructor
  · rintro ⟨hplain, hdistinct, hfree⟩
    obtain ⟨hslash, hplain⟩ := List.forall_mem_cons.1 hplain
    obtain ⟨htaken, hfree⟩ := List.forall_mem_cons.1 hfree
    obtain ⟨hnew, hdistinct⟩ := List.nodup_cons.1 hdistinct
    refine ⟨hslash, htaken, hplain, hdistinct, fun other hother => ?_⟩
    rw [List.mem_append, List.mem_singleton, not_or]
    exact ⟨hfree other hother, fun heq => hnew (heq ▸ hother)⟩
  · rintro ⟨hslash, htaken, hplain, hdistinct, hfree⟩
    have hfree : ∀ other ∈ names, other ∉ taken ∧ other ≠ name := fun other hother => by
      simpa [not_or] using hfree other hother
    exact ⟨List.forall_mem_cons.2 ⟨hslash, hplain⟩,
      List.nodup_cons.2 ⟨fun hname => (hfree name hname).2 rfl, hdistinct⟩,
      List.forall_mem_cons.2 ⟨htaken, fun other hother => (hfree other hother).1⟩⟩

inductive Unfit (taken : List String) (name : String) : RegistryError → Prop
  | slash : '/' ∈ name.toList → Unfit taken name (.invalidSegment name)
  | taken : '/' ∉ name.toList → name ∈ taken → Unfit taken name (.duplicateSegment name)

inductive FirstUnfit (taken names : List String) : RegistryError → Prop
  | first {before after : List String} {name : String} {e : RegistryError} : names = before ++ name :: after →
      Fresh taken before → Unfit (taken ++ before) name e → FirstUnfit taken names e

theorem FirstUnfit.not_fresh {taken names : List String} {e : RegistryError} (h : FirstUnfit taken names e) :
    ¬ Fresh taken names := by
  cases h with
  | @first before after name _ hnames _ hunfit =>
    subst hnames
    intro hfresh
    have hname : name ∈ before ++ name :: after := List.mem_append_right _ List.mem_cons_self
    cases hunfit with
    | slash hslash => exact hfresh.plain name hname hslash
    | taken _ htaken =>
      rcases List.mem_append.1 htaken with hold | hbefore
      · exact hfresh.free name hname hold
      · exact (List.nodup_append.1 hfresh.distinct).2.2 name hbefore name List.mem_cons_self rfl

theorem firstUnfit_cons {taken names : List String} {name : String} {e : RegistryError}
    (hslash : '/' ∉ name.toList) (htaken : name ∉ taken) (h : FirstUnfit (taken ++ [name]) names e) :
    FirstUnfit taken (name :: names) e := by
  cases h with
  | @first before after other _ hnames hbefore hunfit =>
    rw [List.append_assoc, List.singleton_append] at hunfit
    exact .first (congrArg (name :: ·) hnames) (fresh_cons.2 ⟨hslash, htaken, hbefore⟩) hunfit

namespace Registry

variable {σ : Type} {r : Registry σ} {segment : String} {kind : ResourceType} {handler : Handler σ}

theorem get?_eq_none_iff : r.get? segment = none ↔ segment ∉ r.entries.map Prod.fst := by
  rw [get?, List.lookup_eq_none_iff, List.mem_map]
  exact ⟨fun h ⟨e, he, heq⟩ => bne_iff_ne.1 (h e he) heq.symm, fun h e he =>
    bne_iff_ne.2 fun heq => h ⟨e, he, heq.symm⟩⟩

theorem register_unfit {e : RegistryError} (hne : segment ≠ "") (h : Unfit (r.entries.map Prod.fst) segment e) :
    r.register segment kind handler = .error e := by
  cases h with
  | slash hslash => rw [register, if_pos (.inr hslash)]
  | taken hslash htaken =>
    have hsome : (r.get? segment).isSome := by
      rw [Option.isSome_iff_ne_none, ne_eq, get?_eq_none_iff, not_not]
      exact htaken
    rw [register, if_neg (not_or.2 ⟨hne, hslash⟩), if_pos hsome]

inductive Registered (entry : String → Entry σ) (r : Registry σ) (names : List String) :
    Except RegistryError (Registry σ) → Prop
  | done : Fresh (r.entries.map Prod.fst) names →
      Registered entry r names (.ok ⟨r.entries ++ names.map fun name => (name, entry name)⟩)
  | refused {e : RegistryError} : FirstUnfit (r.entries.map Prod.fst) names e → Registered entry r names (.error e)

theorem Registered.cons {entry : String → Entry σ} {names : List String} {name : String}
    {outcome : Except RegistryError (Registry σ)} (hslash : '/' ∉ name.toList)
    (htaken : name ∉ r.entries.map Prod.fst)
    (h : Registered entry ⟨r.entries ++ [(name, entry name)]⟩ names outcome) :
    Registered entry r (name :: names) outcome := by
  cases h with
  | done hfresh =>
    rw [List.map_append] at hfresh
    rw [List.append_assoc]
    exact .done (fresh_cons.2 ⟨hslash, htaken, hfresh⟩)
  | refused hfirst =>
    rw [List.map_append] at hfirst
    exact .refused (firstUnfit_cons hslash htaken hfirst)

theorem registered_foldlM (entry : String → Entry σ) (r : Registry σ) {names : List String}
    (hne : ∀ name ∈ names, name ≠ "") :
    Registered entry r names
      (names.foldlM (fun r name => r.register name (entry name).kind (entry name).handler) r) := by
  induction names generalizing r with
  | nil =>
    have hdone : Registered entry r [] (.ok ⟨r.entries ++ []⟩) := .done (fresh_nil _)
    rwa [List.append_nil] at hdone
  | cons name names ih =>
    obtain ⟨hname, hnames⟩ := List.forall_mem_cons.1 hne
    rw [List.foldlM_cons]
    have hrefused : ∀ {e : RegistryError}, Unfit (r.entries.map Prod.fst) name e →
        Registered entry r (name :: names) (.error e) := fun hunfit =>
      .refused (.first (List.nil_append _).symm (fresh_nil _) (by rwa [List.append_nil]))
    by_cases hslash : '/' ∈ name.toList
    · rw [register_unfit hname (.slash hslash)]
      exact hrefused (.slash hslash)
    by_cases htaken : name ∈ r.entries.map Prod.fst
    · rw [register_unfit hname (.taken hslash htaken)]
      exact hrefused (.taken hslash htaken)
    · rw [register_eq_ok.2 ⟨hname, hslash, get?_eq_none_iff.2 htaken, rfl⟩]
      exact .cons hslash htaken (ih _ hnames)

end Registry

namespace Directory

variable (generate : Nat → Uuid)

def usual : List String := ["Users", "Groups", "ServiceCredentials"]

def usualRegistry : Registry Directory :=
  ⟨[("Users", entry generate .user), ("Groups", entry generate .group),
    ("ServiceCredentials", entry generate .serviceCredential)]⟩

theorem registry_eq (names : List String) : registry generate names =
    names.foldlM (fun r name => r.register name (.custom name) (handler generate (.custom name)))
      (usualRegistry generate) := by
  have husers : Registry.register {} "Users" .user (userClient generate).userHandler =
      .ok ⟨[("Users", entry generate .user)]⟩ :=
    Registry.register_eq_ok.2 ⟨by decide, by decide, rfl, rfl⟩
  have hgroups : Registry.register ⟨[("Users", entry generate .user)]⟩ "Groups" .group
      (groupClient generate).groupHandler =
      .ok ⟨[("Users", entry generate .user), ("Groups", entry generate .group)]⟩ :=
    Registry.register_eq_ok.2 ⟨by decide, by decide, rfl, rfl⟩
  have hcredentials : Registry.register ⟨[("Users", entry generate .user), ("Groups", entry generate .group)]⟩
      "ServiceCredentials" .serviceCredential (credentialClient generate).credentialHandler =
      .ok (usualRegistry generate) :=
    Registry.register_eq_ok.2 ⟨by decide, by decide, rfl, rfl⟩
  simp only [registry, husers, hgroups, hcredentials, bind, Except.bind]
  rfl

theorem registered (names : List String) (hne : ∀ name ∈ names, name ≠ "") :
    Registry.Registered (fun name => entry generate (.custom name)) (usualRegistry generate) names
      (registry generate names) := by
  rw [registry_eq]
  exact Registry.registered_foldlM _ _ hne

structure Mounted (names : List String) (r : Registry Directory) : Prop where
  size : r.size = 3 + names.length
  users : r.resolve "Users" = .ok ⟨.user, (userClient generate).userHandler⟩
  groups : r.resolve "Groups" = .ok ⟨.group, (groupClient generate).groupHandler⟩
  credentials : r.resolve "ServiceCredentials" =
    .ok ⟨.serviceCredential, (credentialClient generate).credentialHandler⟩
  customs : ∀ name ∈ names, r.resolve name = .ok ⟨.custom name, (customClient generate name).customHandler⟩
  nothing : ∀ segment, segment ∉ usual → segment ∉ names →
    r.resolve segment = .error (.invalidPath ("no resource is registered at '" ++ segment ++ "'"))

variable {generate}

theorem segment_mem_of_mem_kinds {names : List String} {kind : ResourceType} (h : kind ∈ kinds names) :
    kind.segment ∈ usual ++ names := by
  cases kind with
  | custom name =>
    have hname : name ∈ names := by simpa [kinds] using h
    exact List.mem_append_right _ hname
  | _ => simp [ResourceType.segment, usual]

theorem mounted_registry {names : List String} {r : Registry Directory} (h : registry generate names = .ok r) :
    Mounted generate names r := by
  have hresolve : ∀ kind ∈ kinds names, r.resolve kind.segment = .ok (entry generate kind) := fun _ =>
    resolve_segment generate h
  constructor
  case size =>
    rw [Registry.size, registry_entries generate h, List.length_map]
    simp only [kinds, List.length_cons, List.length_map]
    omega
  case users => exact hresolve .user (by simp [kinds])
  case groups => exact hresolve .group (by simp [kinds])
  case credentials => exact hresolve .serviceCredential (by simp [kinds])
  case customs => exact fun name hname => hresolve (.custom name) (by simpa [kinds] using hname)
  case nothing =>
    intro segment husual hnames
    cases hget : r.get? segment with
    | none => rw [Registry.resolve, hget]
    | some found =>
      obtain ⟨kind, hkind, rfl, -⟩ := resolve_eq_ok generate h (Registry.resolve_eq_ok.2 hget)
      exact absurd (List.mem_append.1 (segment_mem_of_mem_kinds hkind)) (not_or.2 ⟨husual, hnames⟩)

end Directory

/-- All that is relied on about what makes the mailboxes. -/
def Mailboxes.Documented (mailboxes : Mailboxes) : Prop :=
  ∀ room, mailboxes room = .ok () ↔ 0 < room ∧ room ≤ largest

theorem Mailboxes.documented_bounded : bounded.Documented := by
  intro room
  rw [bounded]
  split
  · simp_all
  · split <;> simp_all [Nat.pos_iff_ne_zero]

namespace Server

open Directory (usual Mounted)

/-- What can come of starting a directory, the panic before all else. -/
inductive Started (config : Config) : Except StartFailure Server → Prop
  | running {s : Server} : config.bufferSize ≤ Mailboxes.largest → Fresh usual config.customTypes →
      Started config (.ok s)
  | panicked {reason : String} : Mailboxes.largest < config.bufferSize → Started config (.error (.panicked reason))
  | refused {e : RegistryError} : config.bufferSize ≤ Mailboxes.largest → FirstUnfit usual config.customTypes e →
      Started config (.error (.refused e))

namespace Started

variable {config : Config} {outcome : Except StartFailure Server}

theorem exists_ok_iff (h : Started config outcome) :
    (∃ s, outcome = .ok s) ↔ config.bufferSize ≤ Mailboxes.largest ∧ Fresh usual config.customTypes := by
  cases h with
  | running hroom hfresh => exact iff_of_true ⟨_, rfl⟩ ⟨hroom, hfresh⟩
  | panicked hroom => exact iff_of_false nofun fun hand => Nat.not_le.2 hroom hand.1
  | refused _ hfirst => exact iff_of_false nofun fun hand => hfirst.not_fresh hand.2

theorem exists_panicked (h : Started config outcome) (hroom : Mailboxes.largest < config.bufferSize) :
    ∃ reason, outcome = .error (.panicked reason) := by
  cases h with
  | panicked => exact ⟨_, rfl⟩
  | running hle | refused hle => exact absurd hroom (Nat.not_lt.2 hle)

theorem exists_refused (h : Started config outcome) (hroom : config.bufferSize ≤ Mailboxes.largest)
    (hnot : ¬ Fresh usual config.customTypes) :
    ∃ e, FirstUnfit usual config.customTypes e ∧ outcome = .error (.refused e) := by
  cases h with
  | running _ hfresh => exact absurd hfresh hnot
  | panicked hlt => exact absurd hlt (Nat.not_lt.2 hroom)
  | refused _ hfirst => exact ⟨_, hfirst, rfl⟩

end Started

variable {mailboxes : Mailboxes} {generate : Nat → Uuid} {config : Config}

theorem started_start (h : mailboxes.Documented) (hroom : 0 < config.bufferSize)
    (hne : ∀ name ∈ config.customTypes, name ≠ "") : Started config (start mailboxes generate config) := by
  have hregistered := Directory.registered generate config.customTypes hne
  rw [start]
  cases hmailbox : mailboxes config.bufferSize with
  | error reason =>
    refine .panicked (Nat.lt_of_not_le fun hle => ?_)
    rw [(h _).2 ⟨hroom, hle⟩] at hmailbox
    cases hmailbox
  | ok =>
    have hle := ((h _).1 hmailbox).2
    cases hr : Directory.registry generate config.customTypes with
    | ok r =>
      rw [hr] at hregistered
      cases hregistered with
      | done hfresh => exact .running hle hfresh
    | error e =>
      rw [hr] at hregistered
      cases hregistered with
      | refused hfirst => exact .refused hle hfirst

/-- What comes of an environment when a directory is to be started in it. -/
structure Routed (mailboxes : Mailboxes) (generate : Nat → Uuid) (lookup : String → Option String) : Prop where
  accepted : (∃ config, Config.ofLookup lookup = .ok config) ↔ ∀ setting, Config.Setting.Usable lookup setting
  reported : ∀ setting : Config.Setting, (∀ s ∈ setting.earlier, s.Usable lookup) → ¬ setting.Usable lookup →
    ∃ cause, Config.ofLookup lookup = .error ⟨setting, cause⟩
  read : ∀ config, Config.ofLookup lookup = .ok config → Config.Reads lookup config
  started : ∀ config, Config.ofLookup lookup = .ok config →
    ((∃ s, start mailboxes generate config = .ok s) ↔
      config.bufferSize ≤ Mailboxes.largest ∧ Fresh usual config.customTypes)
  panicked : ∀ config, Config.ofLookup lookup = .ok config → Mailboxes.largest < config.bufferSize →
    ∃ reason, start mailboxes generate config = .error (.panicked reason)
  refused : ∀ config, Config.ofLookup lookup = .ok config → config.bufferSize ≤ Mailboxes.largest →
    ¬ Fresh usual config.customTypes →
    ∃ e, FirstUnfit usual config.customTypes e ∧ start mailboxes generate config = .error (.refused e)
  mounted : ∀ config s, Config.ofLookup lookup = .ok config → start mailboxes generate config = .ok s →
    Mounted generate config.customTypes s.registry

theorem routed_of_lookup (mailboxes : Mailboxes) (generate : Nat → Uuid) (lookup : String → Option String)
    (h : mailboxes.Documented) : Routed mailboxes generate lookup := by
  have hstarted : ∀ config, Config.ofLookup lookup = .ok config →
      Started config (start mailboxes generate config) := fun config hconfig =>
    started_start h (Config.pos_bufferSize_of_ofLookup hconfig) (Config.reads_of_ofLookup hconfig).named.ne_empty
  constructor
  case accepted => exact Config.exists_ofLookup_iff
  case reported => exact fun _ => Config.ofLookup_error
  case read => exact fun _ => Config.reads_of_ofLookup
  case started => exact fun config hconfig => (hstarted config hconfig).exists_ok_iff
  case panicked => exact fun config hconfig => (hstarted config hconfig).exists_panicked
  case refused => exact fun config hconfig => (hstarted config hconfig).exists_refused
  case mounted => exact fun config s _ hs => Directory.mounted_registry (start_eq_ok hs).1

theorem routed_of_lookup_unset : Mailboxes.bounded.Documented ∧ Config.ofLookup (fun _ => none) = .ok {} ∧
    (∃ s, start .bounded counted {} = .ok s) ∧ Routed .bounded counted fun _ => none :=
  ⟨Mailboxes.documented_bounded, rfl, ⟨_, rfl⟩, routed_of_lookup _ _ _ Mailboxes.documented_bounded⟩

def oversized : String → Option String
  | "ACTOR_BUFFER_SIZE" => some "2305843009213693952"
  | "CUSTOM_RESOURCE_TYPES" => some "Devices"
  | _ => none

theorem oversized_not_started :
    (∃ config, Config.ofLookup oversized = .ok config ∧ Fresh usual config.customTypes ∧
      ¬ ∃ s, start .bounded counted config = .ok s) ∧
    ∃ config, Config.ofLookup (fun _ => none) = .ok config ∧ config.customTypes = ["Devices"] := by
  have hfresh : Fresh usual ["Devices"] := ⟨by decide, by decide, by decide⟩
  refine ⟨⟨{ bufferSize := 2305843009213693952 }, rfl, hfresh, ?_⟩, _, rfl, rfl⟩
  rintro ⟨s, hs⟩
  cases hs

-- The first name that is unfit is reported, whatever is wrong with the others.
example (generate : Nat → Uuid) : Directory.registry generate ["Devices", "Groups", "a/b", "Devices"] =
    .error (.duplicateSegment "Groups") := rfl

end Server

end Roster
