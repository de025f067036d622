import Roster.Proofs.Json.Record
import Roster.Proofs.Json.Texts
import Roster.Proofs.Resource.Refusal

namespace Roster

open Json (Field)

/-- An object with a member, other than `null`, under one of the names of a secret. -/
inductive GivesSecret : Json → Prop
  | intro {members : List (String × Json)} {key : String} {v : Json} :
    key ∈ ["clientSecret", "secret"] → (key, v) ∈ members → v ≠ .null → GivesSecret (.object members)

theorem GivesSecret.mapTexts {payload : Json} (h : GivesSecret payload) (f : String → String) :
    GivesSecret (payload.mapTexts f) := by
  obtain ⟨hkey, hm, hv⟩ := h
  rw [Json.mapTexts, Json.mapTextsOfMembers_eq]
  exact .intro hkey (List.mem_map_of_mem hm) (Json.mapTexts_ne_null hv)

namespace GivesSecret

variable {payload : Json}

theorem isSome_of_ofJson (h : GivesSecret payload) {α : Type} {r : Json.Record α} (secret : α → Option String)
    (set : Option String → α → α)
    (hfield : ∀ key ∈ ["clientSecret", "secret"], r.field? key = some (.of .named "clientSecret" set ["secret"]))
    (hset : ∀ x a, secret (set x a) = x)
    (hkeep : ∀ g ∈ r.fields, g.name ≠ "clientSecret" → ∀ w a b, g.ofJson w a = .ok b → secret b = secret a)
    {a : α} (hread : r.ofJson payload = .ok a) : (secret a).isSome := by
  obtain ⟨hkey, hm, hv⟩ := h
  refine Json.Record.ofMembers_of_mem (P := fun a => (secret a).isSome) hread hm (hfield _ hkey) ?_ ?_
  · intro b c hc
    obtain ⟨x, hx, rfl⟩ := Field.ofJson_of hc
    rw [hset]
    exact Json.isSome_of_ofJson hv hx
  · intro g hg hne w b c hb hc
    rwa [hkeep g hg hne w b c hc]

theorem create (h : GivesSecret payload) {params : CredentialCreate}
    (hread : readPayload CredentialCreate payload = .ok params) : params.clientSecret.isSome := by
  refine h.isSome_of_ofJson (r := CredentialCreate.record) CredentialCreate.clientSecret
    (fun v p => { p with clientSecret := v }) ?_ (fun _ _ => rfl) ?_ (ofJson_of_readPayload hread)
  · intro key hkey
    simp only [List.mem_cons, List.not_mem_nil, or_false] at hkey
    obtain rfl | rfl := hkey <;> rfl
  · intro g hg hne w a b hb
    simp only [CredentialCreate.record, List.mem_cons, List.not_mem_nil, or_false] at hg
    obtain rfl | rfl | rfl | rfl := hg
    · exact Field.keeps_of hb fun _ _ => rfl
    · exact Field.keeps_of hb fun _ _ => rfl
    · exact Field.keeps_of hb fun _ _ => rfl
    · exact absurd rfl hne

theorem update (h : GivesSecret payload) {change : CredentialUpdate}
    (hread : readPayload CredentialUpdate payload = .ok change) : change.clientSecret.isSome := by
  refine h.isSome_of_ofJson (r := CredentialUpdate.record) CredentialUpdate.clientSecret
    (fun v p => { p with clientSecret := v }) ?_ (fun _ _ => rfl) ?_ (ofJson_of_readPayload hread)
  · intro key hkey
    simp only [List.mem_cons, List.not_mem_nil, or_false] at hkey
    obtain rfl | rfl := hkey <;> rfl
  · intro g hg hne w a b hb
    simp only [CredentialUpdate.record, List.mem_cons, List.not_mem_nil, or_false] at hg
    obtain rfl | rfl | rfl | rfl | rfl := hg
    · exact Field.keeps_of hb fun _ _ => rfl
    · exact Field.keeps_of hb fun _ _ => rfl
    · exact Field.keeps_of hb fun _ _ => rfl
    · exact Field.keeps_of hb fun _ _ => rfl
    · exact absurd rfl hne

end GivesSecret

namespace Credential

variable {id : Uuid} {users : Store Uuid User}

theorem make_of_secret {params : CredentialCreate} (h : params.clientSecret.isSome) :
    ResourceType.make .serviceCredential users id params = .error secretGiven := by
  have hbuild : build id params = .error secretGiven := by rw [build, if_pos h]
  change (build id params >>= _) = _
  rw [hbuild]
  rfl

theorem revise_of_secret {change : CredentialUpdate} (h : change.clientSecret.isSome) (c : Credential) :
    ResourceType.revise .serviceCredential users change c = .error secretGiven := by
  have hrename : c.rename change = .error secretGiven := by rw [rename, if_pos h]
  change (c.rename change >>= _) = _
  rw [hrename]
  rfl

end Credential

end Roster
