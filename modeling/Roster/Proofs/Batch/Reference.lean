import Roster.Batch.Reference
import Roster.Proofs.Json.Texts
import Roster.Proofs.Uuid

namespace Roster.Batch

theorem token?_eq_some_iff {s t : String} : token? s = some t ↔ s = refer t := by
  rw [token?, Option.map_eq_some_iff]
  constructor
  · rintro ⟨cs, h, rfl⟩
    apply String.toList_injective
    rw [refer, String.toList_append, String.toList_ofList]
    exact (List.isPrefixOf?_eq_some_iff_append_eq.1 h).symm
  · rintro rfl
    refine ⟨t.toList, ?_, String.ofList_toList⟩
    rw [List.isPrefixOf?_eq_some_iff_append_eq, refer, String.toList_append]

@[simp] theorem token?_refer (t : String) : token? (refer t) = some t := token?_eq_some_iff.2 rfl

theorem token?_eq_none_iff {s : String} : token? s = none ↔ ∀ t, s ≠ refer t := by
  rw [Option.eq_none_iff_forall_ne_some]
  exact forall_congr' fun _ => not_congr token?_eq_some_iff

theorem refer_injective : Function.Injective refer := fun t t' h => by simpa using congrArg token? h

@[simp] theorem token?_text (id : Uuid) : token? id.text = none := by
  cases h : token? id.text with
  | none => rfl
  | some t =>
    have hp : 'p' ∈ id.text.toList := by
      rw [token?_eq_some_iff.1 h, refer, String.toList_append]
      exact List.mem_append_left _ (by decide)
    exact absurd hp (Uuid.not_mem_text rfl (by decide) id)

namespace References

variable (refs : References)

theorem resolve_of_token?_eq_none {s : String} (h : token? s = none) : refs.resolve s = .ok none := by
  rw [resolve, h]

theorem resolve_refer (t : String) :
    refs.resolve (refer t) =
      match refs.get? t with
      | some id => .ok (some id)
      | none => .error (unknown t) := by
  cases h : refs.get? t <;> simp only [resolve, token?_refer, h]

theorem resolve_refer_eq_ok_iff {t : String} {id : Uuid} :
    refs.resolve (refer t) = .ok (some id) ↔ refs.get? t = some id := by
  rw [resolve_refer]
  cases refs.get? t <;> simp

def replace (s : String) : String :=
  match refs.resolve s with
  | .ok (some id) => id.text
  | _ => s

def refusal? (s : String) : Option ProtocolError :=
  match refs.resolve s with
  | .error e => some e
  | .ok _ => none

theorem refusal?_eq_none_iff {s : String} :
    refs.refusal? s = none ↔ ∀ t, s = refer t → (refs.get? t).isSome := by
  cases h : token? s with
  | none =>
    simp [refusal?, resolve_of_token?_eq_none refs h, token?_eq_none_iff.1 h]
  | some t =>
    obtain rfl := token?_eq_some_iff.1 h
    rw [refusal?, resolve_refer]
    simp only [refer_injective.eq_iff, forall_eq']
    cases refs.get? t <;> simp

theorem refusal?_eq_some_iff {s : String} {cause : ProtocolError} :
    refs.refusal? s = some cause ↔ ∃ token, s = refer token ∧ refs.get? token = none ∧ cause = unknown token := by
  cases ht : token? s with
  | none =>
    simp [refusal?, resolve_of_token?_eq_none refs ht, token?_eq_none_iff.1 ht]
  | some token =>
    obtain rfl := token?_eq_some_iff.1 ht
    rw [refusal?, resolve_refer]
    cases hid : refs.get? token with
    | none =>
      refine ⟨fun h => ⟨token, rfl, hid, (Option.some.inj h).symm⟩, ?_⟩
      rintro ⟨token', heq, -, rfl⟩
      rw [refer_injective heq]
    | some id =>
      constructor
      · intro h
        cases h
      · rintro ⟨token', heq, hnone, -⟩
        rw [← refer_injective heq, hid] at hnone
        cases hnone

theorem resolve_replace (s : String) :
    refs.resolve (refs.replace s) =
      match refs.resolve s with
      | .error e => .error e
      | .ok _ => .ok none := by
  rw [replace]
  split
  · rename_i id h
    rw [h, resolve_of_token?_eq_none refs (token?_text id)]
  · rename_i hs
    cases h : refs.resolve s with
    | error e => rfl
    | ok o =>
      cases o with
      | none => rfl
      | some id => exact absurd h (hs id)

@[simp] theorem refusal?_replace (s : String) : refs.refusal? (refs.replace s) = refs.refusal? s := by
  rw [refusal?, refusal?, resolve_replace]
  cases refs.resolve s <;> rfl

@[simp] theorem replace_replace (s : String) : refs.replace (refs.replace s) = refs.replace s := by
  rw [replace, resolve_replace]
  cases refs.resolve s <;> rfl

def Ends (w : α) (out : α × Except ProtocolError Unit) : Option ProtocolError → Prop
  | none => out = (w, .ok ())
  | some e => out.2 = .error e

theorem Ends.map (f : α → β) {w : α} {out : α × Except ProtocolError Unit} {r : Option ProtocolError}
    (h : Ends w out r) : Ends (f w) (f out.1, out.2) r := by
  cases r with
  | none => rw [show out = _ from h]; rfl
  | some e => exact h

theorem substituteItems_spec {items : List Json}
    (h : ∀ v ∈ items,
      Ends (v.mapTexts refs.replace) (refs.substitute v) (v.texts.findSome? refs.refusal?)) :
    Ends (items.map (Json.mapTexts refs.replace)) (refs.substituteItems items)
      ((items.flatMap Json.texts).findSome? refs.refusal?) := by
  induction items with
  | nil => rfl
  | cons v rest ih =>
    have hv := h v List.mem_cons_self
    have hrest := ih fun w hw => h w (List.mem_cons_of_mem _ hw)
    rw [List.flatMap_cons, List.findSome?_append, substituteItems]
    cases hf : v.texts.findSome? refs.refusal? with
    | some e =>
      rw [hf] at hv
      rcases hs : refs.substitute v with ⟨w, o⟩
      rw [hs] at hv
      obtain rfl : o = .error e := hv
      rfl
    | none =>
      rw [hf] at hv
      rw [show refs.substitute v = _ from hv]
      exact hrest.map (v.mapTexts refs.replace :: ·)

theorem substituteMembers_spec {members : List (String × Json)}
    (h : ∀ m ∈ members,
      Ends (m.2.mapTexts refs.replace) (refs.substitute m.2) (m.2.texts.findSome? refs.refusal?)) :
    Ends (members.map fun m => (m.1, m.2.mapTexts refs.replace)) (refs.substituteMembers members)
      ((members.flatMap fun m => m.2.texts).findSome? refs.refusal?) := by
  induction members with
  | nil => rfl
  | cons m rest ih =>
    have hv := h m List.mem_cons_self
    have hrest := ih fun w hw => h w (List.mem_cons_of_mem _ hw)
    rw [List.flatMap_cons, List.findSome?_append, substituteMembers]
    cases hf : m.2.texts.findSome? refs.refusal? with
    | some e =>
      rw [hf] at hv
      rcases hs : refs.substitute m.2 with ⟨w, o⟩
      rw [hs] at hv
      obtain rfl : o = .error e := hv
      rfl
    | none =>
      rw [hf] at hv
      rw [show refs.substitute m.2 = _ from hv]
      exact hrest.map ((m.1, m.2.mapTexts refs.replace) :: ·)

theorem substitute_spec (v : Json) :
    Ends (v.mapTexts refs.replace) (refs.substitute v) (v.texts.findSome? refs.refusal?) := by
  induction v with
  | null => rfl
  | bool b => rfl
  | number x => rfl
  | string s =>
    simp only [Json.texts, List.findSome?_cons, List.findSome?_nil, refusal?, substitute]
    rcases h : refs.resolve s with e | _ | id <;> simp [Ends, Json.mapTexts, replace, h]
  | array items ih =>
    simp only [Json.texts, Json.textsOfItems_eq, Json.mapTexts, Json.mapTextsOfItems_eq, substitute]
    exact (refs.substituteItems_spec ih).map Json.array
  | object members ih =>
    simp only [Json.texts, Json.textsOfMembers_eq, Json.mapTexts, Json.mapTextsOfMembers_eq, substitute]
    exact (refs.substituteMembers_spec ih).map Json.object

theorem resolved_eq (v : Json) :
    refs.resolved v =
      match v.texts.findSome? refs.refusal? with
      | some e => .error e
      | none => .ok (v.mapTexts refs.replace) := by
  have h := refs.substitute_spec v
  rw [resolved]
  cases hf : v.texts.findSome? refs.refusal? with
  | none => rw [hf] at h; rw [show refs.substitute v = _ from h]
  | some e =>
    rw [hf] at h
    rcases hs : refs.substitute v with ⟨w, o⟩
    rw [hs] at h
    obtain rfl : o = .error e := h
    rfl

theorem resolved_eq_ok_iff {v w : Json} :
    refs.resolved v = .ok w ↔
      (∀ t, refer t ∈ v.texts → (refs.get? t).isSome) ∧ w = v.mapTexts refs.replace := by
  have hnone : v.texts.findSome? refs.refusal? = none ↔
      ∀ t, refer t ∈ v.texts → (refs.get? t).isSome := by
    simp only [List.findSome?_eq_none_iff, refusal?_eq_none_iff]
    exact ⟨fun h t ht => h _ ht t rfl, fun h s hs t ht => h t (ht ▸ hs)⟩
  rw [resolved_eq]
  cases hf : v.texts.findSome? refs.refusal? with
  | none => exact ⟨fun h => ⟨hnone.1 hf, (Except.ok.inj h).symm⟩, fun h => h.2 ▸ rfl⟩
  | some e =>
    refine ⟨nofun, fun h => ?_⟩
    rw [hnone.2 h.1] at hf
    simp at hf

theorem token?_of_mem_resolved {v w : Json} (h : refs.resolved v = .ok w) {s : String}
    (hs : s ∈ w.texts) : token? s = none := by
  obtain ⟨hall, rfl⟩ := refs.resolved_eq_ok_iff.1 h
  rw [Json.texts_mapTexts, List.mem_map] at hs
  obtain ⟨s, hmem, rfl⟩ := hs
  cases ht : token? s with
  | none => rw [replace, resolve_of_token?_eq_none refs ht, ht]
  | some t =>
    obtain rfl := token?_eq_some_iff.1 ht
    obtain ⟨id, hid⟩ := Option.isSome_iff_exists.1 (hall t hmem)
    rw [replace, refs.resolve_refer_eq_ok_iff.2 hid, token?_text]

def expand (v : Json) : Json := v.mapTexts refs.replace

@[simp] theorem resolved_expand (v : Json) : refs.resolved (refs.expand v) = refs.resolved v := by
  have hf : (v.texts.map refs.replace).findSome? refs.refusal? = v.texts.findSome? refs.refusal? := by
    rw [List.findSome?_map]
    exact congrArg (List.findSome? · _) (funext refs.refusal?_replace)
  have hm : (v.mapTexts refs.replace).mapTexts refs.replace = v.mapTexts refs.replace := by
    rw [Json.mapTexts_mapTexts]
    exact congrArg (Json.mapTexts · v) (funext refs.replace_replace)
  rw [expand, resolved_eq, resolved_eq, Json.texts_mapTexts, hf, hm]

theorem target_of_resolve {s : String} {id : Uuid} (h : refs.resolve s = .ok (some id)) :
    refs.target s = .ok id := by
  rw [target, h]

@[simp] theorem target_text (id : Uuid) : refs.target id.text = .ok id := by
  rw [target, resolve_of_token?_eq_none refs (token?_text id), Uuid.parse_text]

theorem target_refer_eq_ok_iff {t : String} {id : Uuid} :
    refs.target (refer t) = .ok id ↔ refs.get? t = some id := by
  rw [target, resolve_refer]
  cases refs.get? t <;> simp

end References

end Roster.Batch
