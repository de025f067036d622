import Mathlib.Data.List.Nodup
import Roster.Json.Record
import Roster.Proofs.Except
import Roster.Proofs.Json.Decode

namespace Roster.Json

open Reader (Folds Reads bind_eq_ok bind_of_ok next_cons pure_eq_ok)

namespace Field

variable {α β : Type} [Decode β] {presence : Presence} {name : String} {set : β → α → α} {aliases : List String}
  {levels : Nat}

theorem reads_of {bs : List UInt8} {b : β} (h : Reads (Decode.read levels) bs b) (a : α) :
    Reads ((Field.of presence name set aliases).read levels a) bs (set b a) :=
  fun rest hrest => bind_of_ok (h rest hrest)

theorem read_of {a a' : α} {input rest : List UInt8}
    (h : (Field.of presence name set aliases).read levels a input = .ok (a', rest)) :
    ∃ b, Decode.read levels input = .ok (b, rest) ∧ a' = set b a := by
  obtain ⟨b, mid, hread, h⟩ := bind_eq_ok.1 h
  obtain ⟨rfl, rfl⟩ := pure_eq_ok.1 h
  exact ⟨b, hread, rfl⟩

theorem ofJson_of {a a' : α} {v : Json} (h : (Field.of presence name set aliases).ofJson v a = .ok a') :
    ∃ b, Decode.ofJson v = .ok b ∧ a' = set b a := by
  obtain ⟨b, hb, h⟩ := Except.bind_eq_ok.1 h
  exact ⟨b, hb, Except.pure_eq_ok.1 h⟩

theorem keeps_of {γ : Type} {part : α → γ} {a a' : α} {v : Json}
    (h : (Field.of presence name set aliases).ofJson v a = .ok a') (hset : ∀ b a, part (set b a) = part a) :
    part a' = part a := by
  obtain ⟨b, -, rfl⟩ := ofJson_of h
  exact hset b a

end Field

namespace Record

variable {α β : Type} {r : Record α} {levels : Nat}

/-- The names tell the fields apart. -/
structure Distinct (r : Record α) : Prop where
  known : ∀ f ∈ r.fields, r.field? f.name = some f
  names : (r.fields.map (·.name)).Nodup

theorem distinct_of_nodup (h : (r.fields.flatMap fun f => f.name :: f.aliases).Nodup) : r.Distinct := by
  have happart := (List.nodup_flatMap.1 h).2
  constructor
  case known =>
    intro f hf
    obtain ⟨before, after, hfields⟩ := List.append_of_mem hf
    rw [hfields, List.pairwise_append] at happart
    have hbefore : before.find? (·.named f.name) = none := by
      rw [List.find?_eq_none]
      intro g hg hnamed
      have hmem : f.name ∈ g.name :: g.aliases := by simpa [Field.named] using hnamed
      exact happart.2.2 g hg f List.mem_cons_self hmem List.mem_cons_self
    rw [field?, hfields, List.find?_append, hbefore, Option.none_or, List.find?_cons_of_pos]
    simp [Field.named]
  case names =>
    refine List.pairwise_map.2 (happart.imp fun hdisjoint heq => ?_)
    exact hdisjoint List.mem_cons_self (heq ▸ List.mem_cons_self)

theorem reads_member {key : String} {f : Field α} (hf : r.field? key = some f) {d : Draft α}
    (hmet : f.name ∉ d.met) {bs : List UInt8} {a : α} (h : Reads (f.read levels d.record) bs a) :
    Reads (r.readMember levels key d) (0x3A :: bs) ⟨f.name :: d.met, a⟩ := by
  intro rest hrest
  have hcolon : Reader.colon (0x3A :: (bs ++ rest)) = .ok ((), bs ++ rest) := rfl
  rw [readMember, hf, List.cons_append]
  simp only [List.contains_eq_mem, hmet, decide_false, Bool.false_eq_true, if_false]
  rw [bind_of_ok hcolon, bind_of_ok (h rest hrest)]
  rfl

/-- Members for some of the fields, in order, and what they make of a record.  No field that is required is left out. -/
inductive Writes (levels : Nat) : List (Field α) → List (String × List UInt8) → α → α → Prop
  | nil (a : α) : Writes levels [] [] a a
  | skip {f : Field α} {fields : List (Field α)} {ms : List (String × List UInt8)} {a b : α} :
    f.presence ≠ .required → Writes levels fields ms a b → Writes levels (f :: fields) ms a b
  | write {f : Field α} {fields : List (Field α)} {bs : List UInt8} {ms : List (String × List UInt8)} {a b c : α} :
    Reads (f.read levels a) bs b → Writes levels fields ms b c → Writes levels (f :: fields) ((f.name, bs) :: ms) a c

theorem Writes.of [Decode β] {presence : Presence} {name : String} {set : β → α → α} {aliases : List String}
    {fields : List (Field α)} {ms : List (String × List UInt8)} {v : Json} {b : β} {a c : α}
    (h : Reads (Decode.read levels) v.bytes b) (hrest : Writes levels fields ms (set b a) c) :
    Writes levels (.of presence name set aliases :: fields) (memberOf (name, v) :: ms) a c :=
  .write (f := .of presence name set aliases) (Field.reads_of h a) hrest

theorem Writes.option [Decode β] {presence : Presence} {name : String} {set : Option β → α → α}
    {aliases : List String} {fields : List (Field α)} {ms : List (String × Json)} {write : β → Json} {b : Option β}
    {a c : α} (hpresence : presence ≠ .required) (hnone : set none a = a)
    (hsome : ∀ x ∈ b, Present (write x).bytes ∧ Reads (Decode.read levels) (write x).bytes x)
    (hrest : Writes levels fields (ms.map memberOf) (set b a) c) :
    Writes levels (.of presence name set aliases :: fields)
      (((b.map fun x => (name, write x)).toList ++ ms).map memberOf) a c := by
  cases b with
  | none =>
    rw [hnone] at hrest
    exact .skip hpresence hrest
  | some x => exact .of (reads_some (hsome x rfl).1 (hsome x rfl).2) hrest

theorem Writes.folds {fields : List (Field α)} {ms : List (String × List UInt8)} {a b : α}
    (h : Writes levels fields ms a b) (hknown : ∀ f ∈ fields, r.field? f.name = some f)
    (hnames : (fields.map (·.name)).Nodup) {met : List String} (hmet : ∀ f ∈ fields, f.name ∉ met) :
    ∃ met', Folds (r.readMember levels) ms ⟨met, a⟩ ⟨met', b⟩ ∧ met ⊆ met' ∧
      ∀ f ∈ fields, f.presence = .required → f.name ∈ met' := by
  induction h generalizing met with
  | nil a => exact ⟨met, .nil _, List.Subset.refl met, by simp⟩
  | @skip f fields ms a b hpresence _ ih =>
    simp only [List.mem_cons, forall_eq_or_imp, List.map_cons, List.nodup_cons] at hknown hnames hmet ⊢
    obtain ⟨met', hfolds, hsub, hrequired⟩ := ih hknown.2 hnames.2 hmet.2
    exact ⟨met', hfolds, hsub, fun h => absurd h hpresence, hrequired⟩
  | @write f fields bs ms a b c hread _ ih =>
    simp only [List.mem_cons, forall_eq_or_imp, List.map_cons, List.nodup_cons] at hknown hnames hmet ⊢
    have hnext : ∀ g ∈ fields, g.name ∉ f.name :: met := by
      intro g hg
      have hne : g.name ≠ f.name := fun heq => hnames.1 (heq ▸ List.mem_map_of_mem hg)
      simp [hne, hmet.2 g hg]
    obtain ⟨met', hfolds, hsub, hrequired⟩ := ih hknown.2 hnames.2 hnext
    rw [List.cons_subset] at hsub
    exact ⟨met', .cons (reads_member hknown.1 hmet.1 hread) hfolds, hsub.2, fun _ => hsub.1, hrequired⟩

theorem complete_eq_ok {d : Draft α} {a : α} (h : r.complete d = .ok a) : a = d.record := by
  rw [complete] at h
  split at h
  · cases h
  · cases h
    rfl

theorem complete_of_forall {d : Draft α} (h : ∀ f ∈ r.fields, f.presence = .required → f.name ∈ d.met) :
    r.complete d = .ok d.record := by
  have hnone : r.fields.find? (fun f => f.presence = .required && !d.met.contains f.name) = none := by
    simpa using h
  rw [complete, hnone]

theorem reads (hr : r.Distinct) {members : List (String × Json)} {a : α}
    (h : Writes levels r.fields (members.map memberOf) r.blank a) :
    Reads (r.read (levels + 1)) (bytes (.object members)) a := by
  intro rest _
  obtain ⟨met, hfolds, -, hrequired⟩ := h.folds hr.known hr.names fun _ _ => List.not_mem_nil
  have hread := Reader.members_separated hfolds (Reader.lt_length_object _ rest) true rest
  rw [bytes_object]
  refine (bind_of_ok (next_cons rfl _)).trans ?_
  simp only [Reader.descend, Reader.bracketed, readMembers, List.drop_one, List.tail_cons]
  rw [draft, bind_of_ok hread, complete_of_forall hrequired]
  rfl

variable {P : α → Prop}

theorem readMember_invariant
    (hfields : ∀ f ∈ r.fields, ∀ a input b rest, P a → f.read levels a input = .ok (b, rest) → P b)
    {key : String} {d d' : Draft α} {input rest : List UInt8} (hd : P d.record)
    (h : r.readMember levels key d input = .ok (d', rest)) : P d'.record := by
  cases hf : r.field? key with
  | none =>
    simp only [readMember, hf] at h
    obtain ⟨_, _, -, h⟩ := bind_eq_ok.1 h
    obtain ⟨_, _, -, h⟩ := bind_eq_ok.1 h
    obtain ⟨rfl, -⟩ := pure_eq_ok.1 h
    exact hd
  | some f =>
    simp only [readMember, hf] at h
    split at h
    · cases h
    · obtain ⟨_, _, -, h⟩ := bind_eq_ok.1 h
      obtain ⟨b, _, hread, h⟩ := bind_eq_ok.1 h
      obtain ⟨rfl, -⟩ := pure_eq_ok.1 h
      exact hfields f (List.mem_of_find?_eq_some hf) _ _ _ _ hd hread

theorem readItems_invariant {fields : List (Field α)}
    (hfields : ∀ f ∈ fields, ∀ a input b rest, P a → f.read levels a input = .ok (b, rest) → P b) {n : Nat}
    {a b : α} {input rest : List UInt8} (ha : P a) (h : r.readItems levels n a fields input = .ok (b, rest)) :
    P b := by
  induction fields generalizing n a input with
  | nil =>
    obtain ⟨rfl, -⟩ := pure_eq_ok.1 h
    exact ha
  | cons f fields ih =>
    rw [List.forall_mem_cons] at hfields
    obtain ⟨more, _, -, h⟩ := bind_eq_ok.1 h
    split at h
    · obtain ⟨c, _, hread, h⟩ := bind_eq_ok.1 h
      exact ih hfields.2 (hfields.1 _ _ _ _ ha hread) h
    · split at h
      · exact ih hfields.2 ha h
      · cases h

theorem read_invariant (hblank : P r.blank)
    (hfields : ∀ f ∈ r.fields, ∀ a input b rest, P a → f.read levels a input = .ok (b, rest) → P b)
    {a : α} {input rest : List UInt8} (h : r.read (levels + 1) input = .ok (a, rest)) : P a := by
  obtain ⟨b, mid, -, h⟩ := bind_eq_ok.1 h
  split at h
  · cases h
  · obtain ⟨_, h⟩ := Reader.bracketed_eq_ok h
    exact readItems_invariant hfields hblank h
  · obtain ⟨_, h⟩ := Reader.bracketed_eq_ok h
    obtain ⟨d, _, hmembers, h⟩ := bind_eq_ok.1 h
    have hd : P d.record :=
      Reader.members_invariant (P := fun d => P d.record) (fun _ _ _ _ _ => readMember_invariant hfields) hblank
        hmembers
    cases hcomplete : r.complete d with
    | ok b =>
      simp only [hcomplete, settle] at h
      obtain ⟨rfl, -⟩ := pure_eq_ok.1 h
      rw [complete_eq_ok hcomplete]
      exact hd
    | error cause =>
      rw [hcomplete] at h
      cases h
  · exact absurd h Reader.refuse_ne_ok

section

variable {f : Field α} {key : String} {v : Json}

theorem take_eq_ok {d d' : Draft α} (hf : r.field? key = some f) (h : r.take d key v = .ok d') :
    f.name ∉ d.met ∧ ∃ a, f.ofJson v d.record = .ok a ∧ d' = ⟨f.name :: d.met, a⟩ := by
  rw [take, hf] at h
  obtain ⟨hmet, h⟩ := Except.guard_eq_ok.1 h
  obtain ⟨a, ha, h⟩ := Except.bind_eq_ok.1 h
  exact ⟨by simpa using hmet, a, ha, Except.pure_eq_ok.1 h⟩

theorem take_met (hkeep : ∀ g ∈ r.fields, g.name ≠ f.name → ∀ w a b, P a → g.ofJson w a = .ok b → P b)
    {d d' : Draft α} (hd : f.name ∈ d.met ∧ P d.record) (h : r.take d key v = .ok d') :
    f.name ∈ d'.met ∧ P d'.record := by
  cases hg : r.field? key with
  | none =>
    rw [take, hg] at h
    obtain rfl := Except.ok.inj h
    exact hd
  | some g =>
    obtain ⟨hmet, a, ha, rfl⟩ := take_eq_ok hg h
    have hne : g.name ≠ f.name := fun heq => hmet (heq ▸ hd.1)
    exact ⟨List.mem_cons_of_mem _ hd.1, hkeep g (List.mem_of_find?_eq_some hg) hne v d.record a hd.2 ha⟩

theorem ofMembers_of_mem {members : List (String × Json)} {a : α} (h : r.ofMembers members = .ok a)
    (hm : (key, v) ∈ members) (hf : r.field? key = some f) (hset : ∀ b c, f.ofJson v b = .ok c → P c)
    (hkeep : ∀ g ∈ r.fields, g.name ≠ f.name → ∀ w b c, P b → g.ofJson w b = .ok c → P c) : P a := by
  obtain ⟨before, after, rfl⟩ := List.append_of_mem hm
  obtain ⟨d, hfold, hcomplete⟩ := Except.bind_eq_ok.1 h
  rw [List.foldlM_append] at hfold
  obtain ⟨d₁, -, hfold⟩ := Except.bind_eq_ok.1 hfold
  rw [List.foldlM_cons] at hfold
  obtain ⟨d₂, htake, hafter⟩ := Except.bind_eq_ok.1 hfold
  obtain ⟨-, b, hb, rfl⟩ := take_eq_ok hf htake
  have hd : f.name ∈ d.met ∧ P d.record :=
    Except.foldlM_invariant (P := fun d : Draft α => f.name ∈ d.met ∧ P d.record)
      (fun _ _ _ hd h => take_met hkeep hd h) ⟨List.mem_cons_self, hset _ b hb⟩ hafter
  rw [complete_eq_ok hcomplete]
  exact hd.2

end

end Record

end Roster.Json
