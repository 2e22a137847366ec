import Gazetteer.Proofs.RecordReading
import Gazetteer.Provider.Baidu

/-!
# What becomes of a status

The answer of Baidu Maps carries a status. When it is not zero the status is reported with the
message beside it, but only where all that is known by name reads: a result of another shape makes
the whole answer malformed, and the status is lost.

* `WebService.ask_of_sent`: the answer to an address that is asked about.
* `Baidu.Reports`: the members of an answer with a status and a message.
* `Baidu.service_reports`: what becomes of such an answer.
-/

set_option autoImplicit false

namespace Gazetteer

open Json (Decoder RecordField Source Fault)

/-! ## Asking -/

/-- When nothing stands in the way of a request, the answer is what its delivery means. -/
theorem WebService.ask_of_sent (s : WebService) (deliver : Request → Delivery) {address : String}
    (shown : ¬ Text.isBlankText address = true) (clear : s.obstacle = none)
    (sendable : (s.request address).userAgent.all isSendable = true) :
    (s.ask deliver address).1 = s.outcome address (deliver (s.request address)) := by
  rw [ask]
  simp only [shown, clear, sendable, Bool.not_true, Bool.false_eq_true, if_false]
  split
  · next unreachable => rw [unreachable]
  · rfl

namespace Baidu

/-! ## Answers with a status -/

def statusField : RecordField Reply :=
  .required "status" .int64 fun v r => { r with status := v }

def messageField : RecordField Reply :=
  (RecordField.defaulted "message" .text fun v r => { r with message := v }).orNamed "msg"

def resultField : RecordField Reply :=
  .defaulted "result" (.optional placeDecoder) fun v r => { r with place := v }

/-- The fields of an answer. -/
def replyFields : List (RecordField Reply) := [statusField, messageField, resultField]

theorem replyFields_apart : RecordField.Apart replyFields := by
  refine .cons ?_ (.cons ?_ (.cons nofun .nil)) <;>
    simp [RecordField.answersTo, statusField, messageField, resultField, RecordField.required,
      RecordField.defaulted, RecordField.orNamed]
  rintro k (rfl | rfl) <;> decide

/-- The other fields leave the status alone. -/
theorem status_kept {room : Nat} : ∀ f ∈ replyFields, f ≠ statusField → ∀ s put a,
    f.read room s = .ok put → (put a).status = a.status := by
  intro f hf other s put a got
  simp only [replyFields, List.mem_cons, List.not_mem_nil, or_false] at hf
  obtain rfl | rfl | rfl := hf
  · exact absurd rfl other
  all_goals
    obtain ⟨_, -, rfl⟩ := ok_of_map got
    rfl

/-- The other fields leave the message alone. -/
theorem message_kept {room : Nat} : ∀ f ∈ replyFields, f ≠ messageField → ∀ s put a,
    f.read room s = .ok put → (put a).message = a.message := by
  intro f hf other s put a got
  simp only [replyFields, List.mem_cons, List.not_mem_nil, or_false] at hf
  obtain rfl | rfl | rfl := hf
  · obtain ⟨_, -, rfl⟩ := ok_of_map got
    rfl
  · exact absurd rfl other
  · obtain ⟨_, -, rfl⟩ := ok_of_map got
    rfl

/-- The text of an answer is an object with one status, at most one message, which is empty when
there is none, and any other members. -/
structure Reports (body : String) (ms : List (Option String × Source)) (code : Int)
    (note : String) : Prop where
  text : ∃ rest, Source.read (withoutMark body).toList = (.object ms true, rest) ∧
    Source.skipSpace rest = []
  named : ∀ m ∈ ms, m.1.isSome = true
  whole : ∀ m ∈ ms, m.2.isWhole = true
  status : ∃ n, Source.membersNamed ["status"] ms = [(some "status", .number n)] ∧
    n.value? = some (.int code)
  fits : Int64.minValue.toInt ≤ code ∧ code ≤ Int64.maxValue.toInt
  message : (Source.membersNamed ["message", "msg"] ms = [] ∧ note = "") ∨
    ∃ name, Source.membersNamed ["message", "msg"] ms = [(name, .text (some note))]

/-- There is no result, or one with the shape of a place or `null`. -/
def ResultReads (ms : List (Option String × Source)) : Prop :=
  resultField.Reads (Json.maxNesting - 1) ms

variable {body note : String} {ms : List (Option String × Source)} {code : Int}

namespace Reports

variable (h : Reports body ms code note)

include h

/-- What the status field reads. -/
theorem status_read_eq : ∃ m, statusField.given ms = [m] ∧
    statusField.read (Json.maxNesting - 1) m.2 = .ok fun r => { r with status := code } := by
  obtain ⟨n, one, value⟩ := h.status
  refine ⟨_, one, ?_⟩
  simp only [statusField, RecordField.required, Decoder.int64, Decoder.int, value, if_pos h.fits]
  rfl

/-- What the message field reads, if anything. -/
theorem message_read_eq : (messageField.given ms = [] ∧ note = "") ∨
    ∃ m, messageField.given ms = [m] ∧
      messageField.read (Json.maxNesting - 1) m.2 = .ok fun r => { r with message := note } := by
  rcases h.message with absent | ⟨name, one⟩
  · exact .inl absent
  · exact .inr ⟨_, one, rfl⟩

/-- Whether the answer reads depends on its result alone. -/
theorem legible_iff :
    Decoder.Legible replyFields (Json.maxNesting - 1) true [] ms ↔ ResultReads ms := by
  constructor
  · exact fun legible => legible.reads resultField (by simp [replyFields])
  · intro result
    refine ⟨rfl, h.named, fun k s hm _ => h.whole _ hm, ?_, fun _ _ _ => List.not_mem_nil⟩
    have statusReads : statusField.Reads (Json.maxNesting - 1) ms := by
      obtain ⟨m, one, read⟩ := h.status_read_eq
      exact .inr ⟨m, _, one, read⟩
    have messageReads : messageField.Reads (Json.maxNesting - 1) ms := by
      rcases h.message_read_eq with ⟨absent, -⟩ | ⟨m, one, read⟩
      · exact .inl absent
      · exact .inr ⟨m, _, one, read⟩
    simpa [replyFields] using ⟨statusReads, messageReads, result⟩

/-- What reads of the answer is its status and its message. -/
theorem reply_of_read {r : List String × Reply}
    (read : Decoder.readFields replyFields (Json.maxNesting - 1) true [] default ms = .ok r) :
    r.2.status = code ∧ r.2.message = note := by
  constructor
  · obtain ⟨m, one, own⟩ := h.status_read_eq
    exact Decoder.told_of_one replyFields_apart (by simp [replyFields]) status_kept read one own
      fun _ => rfl
  · rcases h.message_read_eq with ⟨absent, rfl⟩ | ⟨m, one, own⟩
    · exact Decoder.told_of_none replyFields_apart (by simp [replyFields]) message_kept read absent
    · exact Decoder.told_of_one replyFields_apart (by simp [replyFields]) message_kept read one own
        fun _ => rfl

/-- What the answer is as a reply, if its result reads. -/
theorem decoded (result : ResultReads ms) : ∃ reply,
    replyDecoder Json.maxNesting (.object ms true) = .ok reply ∧ reply.status = code ∧
      reply.message = note := by
  obtain ⟨r, read⟩ := (Decoder.readFields_isOk_iff replyFields_apart default).2
    (h.legible_iff.2 result)
  have named : statusField.name ∈ r.1 := by
    obtain ⟨m, one, -⟩ := h.status_read_eq
    exact Decoder.name_mem_of_readFields replyFields_apart (by simp [replyFields]) read
      (.inr (by simp [one]))
  have complete : Decoder.complete replyFields r.1 = true := by
    simp [Decoder.complete, replyFields, named, messageField, resultField, RecordField.defaulted,
      RecordField.orNamed]
  refine ⟨r.2, ?_, h.reply_of_read read⟩
  show Decoder.recordObject replyFields default (Json.maxNesting - 1) true ms = .ok r.2
  rw [Decoder.recordObject, read]
  exact if_pos complete

/-- The answer does not decode if its result does not read. -/
theorem not_decoded (result : ¬ ResultReads ms) : ∃ e,
    replyDecoder Json.maxNesting (.object ms true) = .error e := by
  cases decoded : replyDecoder Json.maxNesting (.object ms true) with
  | error e => exact ⟨e, rfl⟩
  | ok reply =>
    obtain ⟨r, read, -⟩ := bind_eq_ok decoded
    exact absurd (h.legible_iff.1 ((Decoder.readFields_isOk_iff replyFields_apart _).1 ⟨r, read⟩))
      result

end Reports

/-! ## What is reported -/

/-- When Baidu Maps reports a status other than zero, the status is passed on with its message if
the result in the answer, should there be one, has the shape of a place. Otherwise the answer
counts as malformed. -/
theorem service_reports {key address body note : String} {code : Int}
    {ms : List (Option String × Source)} (deliver : Request → Delivery) (keyed : key ≠ "")
    (shown : ¬ Text.isBlankText address = true)
    (delivered : deliver (request key address) = .replied 200 body)
    (reports : Reports body ms code note) (nonzero : code ≠ 0) :
    (ResultReads ms →
      ((service key).ask deliver address).1 = .error (.refused code note)) ∧
    (¬ ResultReads ms →
      ∃ e : Fault, ((service key).ask deliver address).1 = .error (.malformed e.reason)) := by
  obtain ⟨rest, source, ended⟩ := reports.text
  have sent : ((service key).ask deliver address).1 = read address (withoutMark body) := by
    rw [WebService.ask_of_sent _ _ shown (by simp [service, keyed]) rfl]
    simp only [service, delivered, WebService.outcome, if_true]
  rw [sent, read, Decoder.ofText, source]
  constructor
  · intro result
    obtain ⟨reply, decoded, rfl, rfl⟩ := reports.decoded result
    simp [decoded, ended, nonzero]
  · intro result
    obtain ⟨e, fails⟩ := reports.not_decoded result
    exact ⟨e, by simp [fails]⟩

/-- A status with a message, beside a place that reads. -/
theorem service_reports_off :
    let body := "\x7b\"status\":240,\"msg\":\"off\",\"result\":" ++
      "\x7b\"location\":\x7b\"lng\":1,\"lat\":2\x7d\x7d\x7d"
    (∃ ms, Reports body ms 240 "off" ∧ ResultReads ms ∧ resultField.given ms ≠ []) ∧
      ((service "key").ask (fun _ => .replied 200 body) "x").1 = .error (.refused 240 "off") := by
  intro body
  let place : Source := .object [(some "location", .object [
    (some "lng", .number (.written ⟨false, ['1'], none, none⟩)),
    (some "lat", .number (.written ⟨false, ['2'], none, none⟩))] true)] true
  let ms : List (Option String × Source) := [
    (some "status", .number (.written ⟨false, ['2', '4', '0'], none, none⟩)),
    (some "msg", .text (some "off")),
    (some "result", place)]
  have reports : Reports body ms 240 "off" :=
    { text := ⟨[], by cbv, rfl⟩, named := by decide, whole := by decide,
      status := ⟨_, rfl, by cbv⟩, fits := by decide, message := .inr ⟨_, rfl⟩ }
  have placed : (Decoder.optional placeDecoder (Json.maxNesting - 1) place).isOk = true := by
    decide +kernel
  obtain ⟨p, read⟩ := ok_of_isOk placed
  have result : ResultReads ms := by
    refine .inr ⟨(some "result", place), fun r => { r with place := p }, rfl, ?_⟩
    simp only [resultField, RecordField.defaulted, read]
    rfl
  exact ⟨⟨ms, reports, result, List.cons_ne_nil _ _⟩,
    (service_reports _ (by decide) (by decide) rfl reports (by decide)).1 result⟩

/-- An empty list in the place of the result, and the status is lost. -/
theorem status_lost :
    let body := "\x7b\"status\":240,\"message\":\"off\",\"result\":[]\x7d"
    (∃ ms, Reports body ms 240 "off") ∧
      ((service "key").ask (fun _ => .replied 200 body) "x").1 =
        .error (.malformed "unexpected data") := by
  let ms : List (Option String × Source) := [
    (some "status", .number (.written ⟨false, ['2', '4', '0'], none, none⟩)),
    (some "message", .text (some "off")),
    (some "result", .list [] true)]
  refine ⟨⟨ms, ?_⟩, ?_⟩
  · exact {
      text := ⟨[], by cbv, rfl⟩, named := by decide, whole := by decide,
      status := ⟨_, rfl, by cbv⟩, fits := by decide, message := .inr ⟨_, rfl⟩ }
  · exact error_of_map (f := fun _ => ()) (by decide +kernel)

end Baidu

end Gazetteer
