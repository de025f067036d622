import Roster.Batch.Attempt
import Roster.Proofs.Json.Record

namespace Roster

open Json (Present Record bytes)
open Json.Reader (Reads bind_of_ok next_cons)

namespace Keyword

theorem ofText_text (k : Keyword) : ofText k.text = .ok k := by
  rw [ofText, ofText?_text]

theorem reads (k : Keyword) {levels : Nat} : Reads (Decode.read levels) (bytes (.string k.text)) k := by
  intro rest _
  rw [Json.bytes_string]
  refine (bind_of_ok (next_cons rfl _)).trans ?_
  refine (bind_of_ok rfl).trans ?_
  refine (bind_of_ok (Json.Reader.quoted_text k.text rest)).trans ?_
  rw [ofText_text]
  rfl

end Keyword

namespace ErrorBody

theorem record_distinct : record.Distinct := Record.distinct_of_nodup (by decide)

theorem reads (b : ErrorBody) {levels : Nat} : Reads (Decode.read (levels + 2)) b.toJson.bytes b := by
  have hschemas : Reads (Decode.read (levels + 1)) (bytes (.array (b.schemas.map .string))) b.schemas := by
    apply Json.reads_list
    intro s _
    exact ⟨Json.Reader.starts_bytes (.string s), Json.reads_string s⟩
  have hkeyword : ∀ k ∈ b.keyword, Present (bytes (.string k.text)) ∧
      Reads (Decode.read (levels + 1)) (bytes (.string k.text)) k :=
    fun k _ => ⟨Json.present_bytes (.string k.text) (by simp), k.reads⟩
  have hjson : b.toJson = .object (("schemas", .array (b.schemas.map .string)) :: ("status", .nat b.status.toNat) ::
      ((b.keyword.map fun k => ("scimType", Json.string k.text)).toList ++ [("detail", .string b.detail)])) := by
    simp [toJson]
  rw [hjson]
  apply Record.reads record_distinct
  apply Record.Writes.of hschemas
  apply Record.Writes.of (Json.reads_uint16 b.status)
  apply Record.Writes.option (by decide) (by rfl) hkeyword
  apply Record.Writes.of (Json.reads_string b.detail)
  exact .nil b

def sent (b : ErrorBody) : List UInt8 := b.toJson.compact.toUTF8.data.toList

theorem decode_sent (b : ErrorBody) : Json.decode ErrorBody b.sent = .ok b := by
  apply Json.decode_compact
  exact b.reads

example : Json.decode ErrorBody ("\x7b\"schemas\":[\"" ++ ProtocolError.schema ++
    "\"],\"status\":400,\"scimType\":\"uniqueness\",\"detail\":\"bulkId 'a' reused\"\x7d").toUTF8.data.toList =
      .ok (ProtocolError.badRequest .uniqueness "bulkId 'a' reused").body := by
  decide +kernel

end ErrorBody

theorem ProtocolError.body_injective {e e' : ProtocolError} (h : e.body = e'.body) : e = e' := by
  have hstatus : e.status = e'.status := congrArg ErrorBody.status h
  have hkeyword : e.keyword = e'.keyword := congrArg ErrorBody.keyword h
  have hdetail : e.body.detail = e'.body.detail := congrArg ErrorBody.detail h
  cases e <;> cases e'
  case badRequest.badRequest keyword detail keyword' detail' =>
    obtain rfl : keyword = keyword' := Option.some.inj hkeyword
    apply congrArg (badRequest keyword)
    exact hdetail
  case notFound.notFound => exact congrArg notFound ((String.append_right_inj _).1 hdetail)
  case expectationFailed.expectationFailed => exact congrArg expectationFailed hdetail
  case internal.internal => exact congrArg internal ((String.append_right_inj _).1 hdetail)
  all_goals exact absurd hstatus (by simp [status])

theorem Batch.Attempt.outcome_eq_error_iff {σ : Type} {a : Attempt σ} {cause : ProtocolError} :
    a.outcome = .error cause ↔ a.result.error = some cause.body := by
  cases houtcome : a.outcome with
  | ok done => simp [result, houtcome, Result.success]
  | error cause' =>
    rw [result, houtcome, Except.error.injEq]
    constructor
    · rintro rfl
      rfl
    · intro h
      exact ProtocolError.body_injective (Option.some.inj h)

structure BodiesReadBack (σ : Type) : Prop where
  read : ∀ b : ErrorBody, Json.decode ErrorBody b.sent = .ok b
  apart : ∀ e e' : ProtocolError, e.body = e'.body ↔ e = e'
  caused : ∀ (a : Batch.Attempt σ) (cause : ProtocolError),
    a.outcome = .error cause ↔ a.result.error = some cause.body

theorem bodiesReadBack (σ : Type) : BodiesReadBack σ where
  read := ErrorBody.decode_sent
  apart _ _ := ⟨ProtocolError.body_injective, congrArg ProtocolError.body⟩
  caused _ _ := Batch.Attempt.outcome_eq_error_iff

end Roster
