import Mathlib.Data.List.Forall2
import Roster.Config
import Roster.Proofs.Except
import Roster.Proofs.Text.Blank
import Roster.Proofs.Text.Pieces
import Roster.Proofs.Text.Unsigned

namespace Roster.Config

namespace Setting

def default : Setting → Nat
  | .maxOperations => 1000
  | .maxPayloadBytes => 1048576
  | .bufferSize => 32

def value (config : Config) : Setting → Nat
  | .maxOperations => config.limits.maxOperations
  | .maxPayloadBytes => config.limits.maxPayloadBytes
  | .bufferSize => config.bufferSize

def earlier : Setting → List Setting
  | .maxOperations => []
  | .maxPayloadBytes => [.maxOperations]
  | .bufferSize => [.maxOperations, .maxPayloadBytes]

inductive Given (lookup : String → Option String) (setting : Setting) : Nat → Prop
  | absent : lookup setting.variableName = none → Given lookup setting setting.default
  | present {text : String} {n : Nat} : lookup setting.variableName = some text → Text.Unsigned text n →
      Given lookup setting n

def Allows (setting : Setting) (n : Nat) : Prop := setting = .bufferSize → n ≠ 0

def Usable (lookup : String → Option String) (setting : Setting) : Prop :=
  ∃ n, setting.Given lookup n ∧ setting.Allows n

end Setting

variable {lookup : String → Option String} {setting : Setting} {n : Nat}

theorem number_eq_ok : number setting setting.default lookup = .ok n ↔ setting.Given lookup n := by
  rw [number]
  cases hlookup : lookup setting.variableName with
  | none =>
    refine ⟨fun h => Except.ok.inj h ▸ .absent hlookup, fun h => ?_⟩
    cases h with
    | absent => rfl
    | present htext => rw [hlookup] at htext; cases htext
  | some text =>
    simp only [Except.mapError_eq_ok, Text.unsigned64_eq_ok]
    refine ⟨.present hlookup, fun h => ?_⟩
    cases h with
    | absent hnone => rw [hlookup] at hnone; cases hnone
    | present htext hn => rw [hlookup] at htext; cases htext; exact hn

theorem number_error {i : Invalid} (h : number setting setting.default lookup = .error i) : i.setting = setting := by
  rw [number] at h
  cases hlookup : lookup setting.variableName with
  | none => rw [hlookup] at h; cases h
  | some text =>
    simp only [hlookup] at h
    obtain ⟨fault, -, rfl⟩ := Except.mapError_eq_error.1 h
    rfl

def read (lookup : String → Option String) (setting : Setting) : Except Invalid Nat := do
  let n ← number setting setting.default lookup
  if setting = .bufferSize ∧ n = 0 then .error ⟨setting, none⟩ else .ok n

theorem read_eq_ok : read lookup setting = .ok n ↔ setting.Given lookup n ∧ setting.Allows n := by
  simp only [read, Except.bind_eq_ok, number_eq_ok, Except.guard_eq_ok, Except.ok_eq_ok, Setting.Allows, not_and]
  constructor
  · rintro ⟨_, hgiven, hallows, rfl⟩
    exact ⟨hgiven, hallows⟩
  · rintro ⟨hgiven, hallows⟩
    exact ⟨n, hgiven, hallows, rfl⟩

theorem read_of_not_usable (h : ¬ setting.Usable lookup) : ∃ cause, read lookup setting = .error ⟨setting, cause⟩ := by
  cases hread : read lookup setting with
  | ok n => exact absurd ⟨n, read_eq_ok.1 hread⟩ h
  | error i =>
    suffices i.setting = setting from ⟨i.cause, by rw [← this]⟩
    obtain hnumber | ⟨n, -, hzero⟩ := Except.bind_eq_error.1 hread
    · exact number_error hnumber
    · split at hzero <;> cases hzero
      rfl

theorem ofLookup_eq (lookup : String → Option String) : ofLookup lookup = do
    let operations ← read lookup .maxOperations
    let bytes ← read lookup .maxPayloadBytes
    let size ← read lookup .bufferSize
    return {
      limits := ⟨operations, bytes⟩
      bufferSize := size
      customTypes := ((lookup "CUSTOM_RESOURCE_TYPES").map names).getD ["Devices"]
      baseUrl := (lookup "SCIM_BASE_URL").filter fun url => !Text.allBlank url } := by
  simp only [ofLookup, read, Setting.default, reduceCtorEq, false_and, true_and, if_false]
  cases number .maxOperations 1000 lookup with
  | error i => rfl
  | ok operations =>
    cases number .maxPayloadBytes 1048576 lookup with
    | error i => rfl
    | ok bytes =>
      cases number .bufferSize 32 lookup with
      | error i => rfl
      | ok size => by_cases hsize : size = 0 <;> simp [hsize, bind, Except.bind, throw, throwThe, MonadExceptOf.throw]

theorem exists_ofLookup_iff : (∃ config, ofLookup lookup = .ok config) ↔ ∀ setting, Setting.Usable lookup setting := by
  rw [ofLookup_eq]
  simp only [Except.bind_eq_ok]
  constructor
  · rintro ⟨config, operations, hoperations, bytes, hbytes, size, hsize, -⟩ setting
    cases setting with
    | maxOperations => exact ⟨operations, read_eq_ok.1 hoperations⟩
    | maxPayloadBytes => exact ⟨bytes, read_eq_ok.1 hbytes⟩
    | bufferSize => exact ⟨size, read_eq_ok.1 hsize⟩
  · intro h
    obtain ⟨operations, hoperations⟩ := h .maxOperations
    obtain ⟨bytes, hbytes⟩ := h .maxPayloadBytes
    obtain ⟨size, hsize⟩ := h .bufferSize
    exact ⟨_, operations, read_eq_ok.2 hoperations, bytes, read_eq_ok.2 hbytes, size, read_eq_ok.2 hsize, rfl⟩

theorem ofLookup_error (hearlier : ∀ s ∈ setting.earlier, s.Usable lookup) (h : ¬ setting.Usable lookup) :
    ∃ cause, ofLookup lookup = .error ⟨setting, cause⟩ := by
  obtain ⟨cause, hread⟩ := read_of_not_usable h
  have hok : ∀ s ∈ setting.earlier, ∃ n, read lookup s = .ok n := fun s hs =>
    (hearlier s hs).imp fun _ => read_eq_ok.2
  refine ⟨cause, ?_⟩
  rw [ofLookup_eq]
  cases setting with
  | maxOperations => rw [hread]; rfl
  | maxPayloadBytes =>
    obtain ⟨operations, hoperations⟩ := hok .maxOperations (by simp [Setting.earlier])
    rw [hoperations, hread]; rfl
  | bufferSize =>
    obtain ⟨operations, hoperations⟩ := hok .maxOperations (by simp [Setting.earlier])
    obtain ⟨bytes, hbytes⟩ := hok .maxPayloadBytes (by simp [Setting.earlier])
    rw [hoperations, hbytes, hread]; rfl

/-- The names between the commas of a text, without the blanks around them and in order. Empty ones are left out. -/
inductive Listed (text : String) : List String → Prop
  | between {pieces : List (List Char)} {trimmed : List String} : [','].intercalate pieces = text.toList →
      pieces ≠ [] → (∀ piece ∈ pieces, ',' ∉ piece) → List.Forall₂ Text.Trimmed pieces trimmed →
      Listed text (trimmed.filter (· ≠ ""))

theorem listed_names (text : String) : Listed text (names text) := by
  refine .between (Text.intercalate_pieces ',' text.toList) (Text.pieces_ne_nil _ _)
    (fun _ => Text.not_mem_of_mem_pieces) ?_
  rw [List.forall₂_map_right_iff, List.forall₂_same]
  exact fun piece _ => Text.trimmed_trim piece

example : names "Devices,\u00a0Printers\t,, Card readers" = ["Devices", "Printers", "Card readers"] := rfl

inductive Named (lookup : String → Option String) : List String → Prop
  | absent : lookup "CUSTOM_RESOURCE_TYPES" = none → Named lookup ["Devices"]
  | present {text : String} {names : List String} : lookup "CUSTOM_RESOURCE_TYPES" = some text →
      Listed text names → Named lookup names

theorem Named.ne_empty {names : List String} (h : Named lookup names) : ∀ name ∈ names, name ≠ "" := by
  cases h with
  | absent => simp
  | present _ hlisted =>
    cases hlisted with
    | between => exact fun name hname => of_decide_eq_true (List.mem_filter.1 hname).2

structure Reads (lookup : String → Option String) (config : Config) : Prop where
  given : ∀ setting : Setting, setting.Given lookup (setting.value config)
  named : Named lookup config.customTypes

theorem reads_of_ofLookup {config : Config} (h : ofLookup lookup = .ok config) : Reads lookup config := by
  rw [ofLookup_eq] at h
  simp only [Except.bind_eq_ok, Except.pure_eq_ok, read_eq_ok] at h
  obtain ⟨operations, ⟨hoperations, -⟩, bytes, ⟨hbytes, -⟩, size, ⟨hsize, -⟩, rfl⟩ := h
  constructor
  case given =>
    intro setting
    cases setting with
    | maxOperations => exact hoperations
    | maxPayloadBytes => exact hbytes
    | bufferSize => exact hsize
  case named =>
    cases htypes : lookup "CUSTOM_RESOURCE_TYPES" with
    | none => exact .absent htypes
    | some text => exact .present htypes (listed_names text)

theorem pos_bufferSize_of_ofLookup {config : Config} (h : ofLookup lookup = .ok config) : 0 < config.bufferSize := by
  rw [ofLookup_eq] at h
  simp only [Except.bind_eq_ok, Except.pure_eq_ok, read_eq_ok] at h
  obtain ⟨operations, -, bytes, -, size, ⟨-, hallows⟩, rfl⟩ := h
  exact Nat.pos_of_ne_zero (hallows rfl)

-- Nothing has to be set.
example : ofLookup (fun _ => none) = .ok {} := rfl

end Roster.Config
