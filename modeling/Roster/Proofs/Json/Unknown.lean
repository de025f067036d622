import Roster.Json.Record

namespace Roster.Json

/-- The second value has an attribute more than the first: at its top, where the attributes `known` may stand, or in an
object of one of its lists, where others may. If the first has something else under that key, it is replaced. -/
inductive Gains (known : List String) (lists : List (String × List String)) : Json → Json → Prop
  | atTop {members : List (String × Json)} {key : String} (v : Json) : key ∉ known →
    Gains known lists (.object members) (.object (insert key v members))
  | within {name key : String} {inner : List String} {members before after : List (String × Json)}
      {items items' : List Json} (v : Json) : (name, inner) ∈ lists → key ∉ inner →
    Gains known lists (.object (before ++ (name, .array (items ++ .object members :: items')) :: after))
      (.object (before ++ (name, .array (items ++ .object (insert key v members) :: items')) :: after))

namespace Record

variable {α β : Type} {r : Record α} {key : String}

def names (r : Record α) : List String := r.fields.flatMap fun f => f.name :: f.aliases

theorem field?_eq_none (h : key ∉ r.names) : r.field? key = none := by
  rw [field?, List.find?_eq_none]
  intro f hf hnamed
  refine h (List.mem_flatMap.2 ⟨f, hf, ?_⟩)
  simpa [Field.named] using hnamed

theorem take_of_unknown (h : key ∉ r.names) (d : Draft α) (v : Json) : r.take d key v = .ok d := by
  rw [take, field?_eq_none h]

def takeAll (r : Record α) (d : Draft α) (members : List (String × Json)) : Except Mismatch (Draft α) :=
  members.foldlM (fun d (k, v) => r.take d k v) d

theorem takeAll_cons (d : Draft α) (k : String) (v : Json) (rest : List (String × Json)) :
    r.takeAll d ((k, v) :: rest) = r.take d k v >>= (r.takeAll · rest) := List.foldlM_cons

theorem takeAll_cons_of_unknown (h : key ∉ r.names) (d : Draft α) (v : Json) (rest : List (String × Json)) :
    r.takeAll d ((key, v) :: rest) = r.takeAll d rest := by
  rw [takeAll_cons, take_of_unknown h]
  rfl

theorem takeAll_append (d : Draft α) (before after : List (String × Json)) :
    r.takeAll d (before ++ after) = r.takeAll d before >>= (r.takeAll · after) := List.foldlM_append

theorem takeAll_insert (h : key ∉ r.names) (v : Json) (members : List (String × Json)) (d : Draft α) :
    r.takeAll d (insert key v members) = r.takeAll d members := by
  induction members generalizing d with
  | nil => exact takeAll_cons_of_unknown h d v []
  | cons member rest ih =>
    obtain ⟨k, w⟩ := member
    rw [insert]
    split
    · exact takeAll_cons_of_unknown h d v _
    · split
      · rename_i heq
        rw [takeAll_cons_of_unknown h, ← heq, takeAll_cons_of_unknown h]
      · rw [takeAll_cons, takeAll_cons]
        exact congrArg _ (funext ih)

theorem ofMembers_eq (members : List (String × Json)) :
    r.ofMembers members = r.takeAll r.draft members >>= r.complete := rfl

theorem ofMembers_insert (h : key ∉ r.names) (v : Json) (members : List (String × Json)) :
    r.ofMembers (insert key v members) = r.ofMembers members := by
  rw [ofMembers_eq, ofMembers_eq, takeAll_insert h]

theorem ofMembers_congr {f : Field α} (hf : r.field? key = some f) {v v' : Json}
    (hv : ∀ a, f.ofJson v a = f.ofJson v' a) (before after : List (String × Json)) :
    r.ofMembers (before ++ (key, v) :: after) = r.ofMembers (before ++ (key, v') :: after) := by
  have htake : ∀ d, r.take d key v = r.take d key v' := by
    intro d
    rw [take, take, hf]
    simp only [hv]
  have hall : ∀ d, r.takeAll d ((key, v) :: after) = r.takeAll d ((key, v') :: after) := by
    intro d
    rw [takeAll_cons, takeAll_cons, htake]
  rw [ofMembers_eq, ofMembers_eq, takeAll_append, takeAll_append, funext hall]

end Record

/-- The field reads a list, and of the objects in it only the attributes `inner`. -/
def Field.Lists {α : Type} (f : Field α) (inner : List String) : Prop :=
  ∀ key ∉ inner, ∀ (v : Json) (items items' : List Json) (members : List (String × Json)) (a : α),
    f.ofJson (.array (items ++ .object (insert key v members) :: items')) a =
      f.ofJson (.array (items ++ .object members :: items')) a

section

variable {α β : Type} [Decode β] {r : Record β} {presence : Presence} {name : String} {aliases : List String}

theorem list_ofJson_insert (hr : ∀ v, Decode.ofJson v = r.ofJson v) {key : String} (h : key ∉ r.names) (v : Json)
    (items items' : List Json) (members : List (String × Json)) :
    (Decode.ofJson (.array (items ++ .object (insert key v members) :: items')) : Except Mismatch (List β)) =
      Decode.ofJson (.array (items ++ .object members :: items')) := by
  have hitem : (Decode.ofJson (.object (insert key v members)) : Except Mismatch β) =
      Decode.ofJson (.object members) := by
    rw [hr, hr]
    exact Record.ofMembers_insert h v members
  change List.mapM Decode.ofJson _ = List.mapM Decode.ofJson _
  rw [List.mapM_append, List.mapM_append, List.mapM_cons, List.mapM_cons, hitem]

theorem Field.lists_of (hr : ∀ v, Decode.ofJson v = r.ofJson v) (set : List β → α → α) :
    (Field.of presence name set aliases).Lists r.names := by
  intro key h v items items' members a
  exact congrArg (· >>= fun b => pure (set b a)) (list_ofJson_insert hr h v items items' members)

theorem Field.lists_of_option (hr : ∀ v, Decode.ofJson v = r.ofJson v) (set : Option (List β) → α → α) :
    (Field.of presence name set aliases).Lists r.names := by
  intro key h v items items' members a
  exact congrArg (fun x => (some <$> x) >>= fun b => pure (set b a)) (list_ofJson_insert hr h v items items' members)

end

theorem Record.ofJson_of_gains {α : Type} {r : Record α} {lists : List (String × List String)}
    (hlists : ∀ entry ∈ lists, ∃ f, r.field? entry.1 = some f ∧ f.Lists entry.2) {p q : Json}
    (h : Gains r.names lists p q) : r.ofJson q = r.ofJson p := by
  cases h with
  | atTop v hkey => exact ofMembers_insert hkey v _
  | @within _ key _ members before after items items' v hlist hkey =>
    obtain ⟨f, hf, hreads⟩ := hlists _ hlist
    exact ofMembers_congr hf (hreads key hkey v items items' members) before after

end Roster.Json
