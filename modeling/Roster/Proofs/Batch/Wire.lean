import Roster.Batch.Request
import Roster.Proofs.Json.Record

namespace Roster.Batch

open Json (Field Present Record bytes)
open Json.Reader (Reads Starts bind_of_ok)

theorem Method.ofText_name (m : Method) : ofText m.name = .ok m := by
  obtain ⟨name, verb, named⟩ := m
  have hname : ofName? name = some ⟨name, verb, named⟩ := by
    rw [ofName?]
    split
    · rename_i verb' h
      cases named.symm.trans h
      rfl
    · rename_i h
      cases named.symm.trans h
  rw [ofText, hname]

theorem Method.reads (m : Method) {levels : Nat} : Reads (Decode.read levels) (bytes (.string m.name)) m := by
  intro rest hrest
  have hname : Reads (Decode.read levels) (bytes (.string m.name)) m.name := Json.reads_string m.name
  refine (bind_of_ok (hname rest hrest)).trans ?_
  rw [Method.ofText_name]
  rfl

namespace Operation

def Readable (levels : Nat) (op : Operation) : Prop :=
  ∀ d ∈ op.data, d ≠ .null ∧ d.Sorted ∧ d.Fits levels

def Whole (op : Operation) : Prop := ∀ d ∈ op.data, d.Whole

theorem record_distinct : record.Distinct := Record.distinct_of_nodup (by decide)

theorem read_readable {levels : Nat} {op : Operation} {input rest : List UInt8}
    (h : Decode.read (levels + 1) input = .ok (op, rest)) : op.Readable levels := by
  refine Record.read_invariant (P := Readable levels) (by simp [Readable, record]) ?_ h
  simp only [record, List.forall_mem_cons]
  refine ⟨?_, ?_, ?_, ?_, ?_, by simp⟩
  case refine_4 =>
    intro a input b rest _ hfield d hd
    obtain ⟨v, hread, rfl⟩ := Field.read_of hfield
    cases hd
    exact Json.read_some_value hread
  all_goals
    intro a input b rest ha hfield
    obtain ⟨v, -, rfl⟩ := Field.read_of hfield
    exact ha

theorem reads {levels : Nat} {op : Operation} (hop : op.Readable levels) (hwhole : op.Whole) :
    Reads (Decode.read (levels + 1)) op.toJson.bytes op := by
  have hstring : ∀ (o : Option String), ∀ s ∈ o, Present (bytes (.string s)) ∧
      Reads (Decode.read levels) (bytes (.string s)) s :=
    fun _ s _ => ⟨Json.present_bytes (.string s) (by simp), Json.reads_string s⟩
  have hdata : ∀ d ∈ op.data, Present d.bytes ∧ Reads (Decode.read levels) d.bytes d :=
    fun d hd => ⟨Json.present_bytes (hwhole d hd) (hop d hd).1,
      Json.Reader.reads_value (hop d hd).2.2 (hop d hd).2.1 (hwhole d hd)⟩
  have hjson : op.toJson = .object (("method", .string op.method.name) ::
      ((op.bulkId.map fun b => ("bulkId", Json.string b)).toList ++ ("path", .string op.path) ::
        ((op.data.map fun d => ("data", d)).toList ++
          ((op.version.map fun v => ("version", Json.string v)).toList ++ [])))) := by
    simp [toJson]
  rw [hjson]
  refine Record.reads record_distinct ?_
  refine .of op.method.reads ?_
  refine .option (by decide) (by rfl) (hstring op.bulkId) ?_
  refine .of (Json.reads_string op.path) ?_
  refine .option (by decide) (by rfl) hdata ?_
  refine .option (by decide) (by rfl) (hstring op.version) ?_
  exact .nil op

end Operation

namespace Request

theorem record_distinct : record.Distinct := Record.distinct_of_nodup (by decide)

theorem read_readable {levels : Nat} {r : Request} {input rest : List UInt8}
    (h : Decode.read (levels + 3) input = .ok (r, rest)) : ∀ op ∈ r.operations, op.Readable levels := by
  refine Record.read_invariant (P := fun r => ∀ op ∈ r.operations, op.Readable levels) (by simp [record]) ?_ h
  simp only [record, List.forall_mem_cons]
  refine ⟨?_, ?_, by simp⟩
  · intro a input b rest ha hfield
    obtain ⟨v, -, rfl⟩ := Field.read_of hfield
    exact ha
  · intro a input b rest _ hfield
    obtain ⟨ops, hread, rfl⟩ := Field.read_of hfield
    exact Json.read_list (fun _ _ _ => Operation.read_readable) hread

theorem reads {levels : Nat} {r : Request} (hread : ∀ op ∈ r.operations, op.Readable levels)
    (hwhole : ∀ op ∈ r.operations, op.Whole) : Reads (Decode.read (levels + 3)) r.toJson.bytes r := by
  have hbudget : ∀ n ∈ r.errorBudget, Present (bytes (.nat n.toNat)) ∧
      Reads (Decode.read (levels + 2)) (bytes (.nat n.toNat)) n := by
    intro n _
    have hlt := n.toNat_lt
    exact ⟨Json.present_bytes (.integer (by omega) (by omega)) (by simp [Json.nat, Json.int]), Json.reads_uint32 n⟩
  have hops : ∀ op ∈ r.operations, Starts op.toJson.bytes ∧ Reads (Decode.read (levels + 1)) op.toJson.bytes op :=
    fun op hop => ⟨.cons _ rfl (by decide), Operation.reads (hread op hop) (hwhole op hop)⟩
  refine Record.reads record_distinct ?_
  refine .option (by decide) (by rfl) hbudget ?_
  refine .of (Json.reads_list hops) ?_
  exact .nil r

def body (r : Request) : List UInt8 := r.toJson.compact.toUTF8.data.toList

theorem ofBytes_eq_ok {bs : List UInt8} {limit : Nat} {r : Request} :
    ofBytes bs limit = .ok r ↔ bs.length ≤ limit ∧ Json.decode Request bs = .ok r := by
  rw [ofBytes]
  split
  · rename_i hlt
    exact ⟨nofun, fun h => absurd h.1 (Nat.not_le_of_lt hlt)⟩
  · rename_i hle
    rw [Nat.not_lt] at hle
    cases hdecode : Json.decode Request bs with
    | ok r' => simp [hle]
    | error stop => simp

theorem ofBytes_of_readable {limit : Nat} {r : Request} (hread : ∀ op ∈ r.operations, op.Readable 124)
    (hwhole : ∀ op ∈ r.operations, op.Whole) (hlimit : r.body.length ≤ limit) : ofBytes r.body limit = .ok r := by
  have hdecode : Json.decode Request r.body = .ok r := Json.decode_compact (reads hread hwhole)
  exact ofBytes_eq_ok.2 ⟨hlimit, hdecode⟩

theorem ofBytes_body {bs : List UInt8} {limit limit' : Nat} {r : Request} (hread : ofBytes bs limit = .ok r)
    (hwhole : ∀ op ∈ r.operations, op.Whole) (hlimit : r.body.length ≤ limit') :
    ofBytes r.body limit' = .ok r := by
  obtain ⟨-, hdecode⟩ := ofBytes_eq_ok.1 hread
  obtain ⟨rest, hdecode⟩ := Json.read_of_decode hdecode
  exact ofBytes_of_readable (read_readable hdecode) hwhole hlimit

def aliased : String :=
  "\x7b\"operations\":[[\"Patch\",null,\"Users/x\",\x7b\"b\":[1,-2],\"a\":\"\\n\"\x7d]," ++
    "\x7b\"payload\":null,\"verb\":\"DELETE\",\"path\":\"Users/y\"\x7d],\"errorBudget\":2,\"extra\":[1.5]\x7d"

def patchThenDelete : Request where
  errorBudget := some 2
  operations := [
    ⟨⟨"Patch", .update, by decide⟩, none, "Users/x",
      some (.object [("a", .string "\n"), ("b", .array [.int 1, .int (-2)])]), none⟩,
    .delete "Users/y"]

theorem patchThenDelete_whole : ∀ op ∈ patchThenDelete.operations, op.Whole := by
  have hitems : (Json.array [.int 1, .int (-2)]).Whole := by
    refine .array ?_
    simp only [List.forall_mem_cons]
    exact ⟨.integer (by decide) (by decide), .integer (by decide) (by decide), by simp⟩
  simp only [patchThenDelete, List.forall_mem_cons]
  refine ⟨?_, nofun, by simp⟩
  rintro _ ⟨⟩
  refine .object ?_
  simp only [List.forall_mem_cons]
  exact ⟨.string _, hitems, by simp⟩

theorem ofBytes_body_aliased : ofBytes aliased.toUTF8.data.toList 200 = .ok patchThenDelete ∧
    ofBytes patchThenDelete.body 150 = .ok patchThenDelete :=
  have hread : ofBytes aliased.toUTF8.data.toList 200 = .ok patchThenDelete := by decide +kernel
  ⟨hread, ofBytes_body hread patchThenDelete_whole (by decide +kernel)⟩

end Request

end Roster.Batch
