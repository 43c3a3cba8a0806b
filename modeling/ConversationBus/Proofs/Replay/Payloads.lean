import ConversationBus.Message.Payload
import ConversationBus.Proofs.Json.Renewal
import ConversationBus.Replay.Line

/-!
# The payloads of recorded events

The payload of an event is kept as a value and written anew for the message. Whatever can be read
from the text that stands in the line is read from the payload of the message, and is the same.
-/

namespace ConversationBus

open Json (Respects Renews respects_text respects_of_text)

/-! ## Payloads that are written anew -/

section Anew

variable {tree other : Json.Tree}

theorem Instant.respects : Respects Instant.ofJson? :=
  respects_of_text _

theorem Uuid.respects : Respects Uuid.ofJson? :=
  respects_of_text _

theorem Envelope.ofJson?_renews (renews : Renews tree other) {envelope : Envelope}
    (read : Envelope.ofJson? tree = some envelope) : Envelope.ofJson? other = some envelope := by
  refine renews.record (fun fields others renew => ?_) read
  rw [renew.required_eq (by simp) respects_text, renew.required_eq (by simp) respects_text,
    renew.required_eq (by simp) Instant.respects, renew.required_eq (by simp) Uuid.respects,
    renew.optional_eq (by simp) respects_text]

theorem Checkin.ofJson?_renews (renews : Renews tree other) {checkin : Checkin}
    (read : Checkin.ofJson? tree = some checkin) : Checkin.ofJson? other = some checkin := by
  refine renews.record (fun fields others renew => ?_) read
  rw [renew.required_eq (by simp) respects_text, renew.optional_eq (by simp) Instant.respects]

theorem Share.ofJson?_renews (renews : Renews tree other) {share : Share}
    (read : Share.ofJson? tree = some share) : Share.ofJson? other = some share := by
  refine renews.record (fun fields others renew => ?_) read
  rw [renew.required_eq (by simp) respects_text, renew.optional_eq (by simp) respects_text,
    renew.optional_eq (by simp) respects_text]

/-- A payload keeps its content when it is written anew, under the schema of any topic. -/
theorem Payload.ofJson?_renews (renews : Renews tree other) {topic : Topic} {payload : Payload}
    (read : ofJson? topic tree = some payload) : ofJson? topic other = some payload := by
  cases topic with
  | proactiveShare =>
      rcases Option.map_eq_some_iff.mp read with ⟨share, found, rfl⟩
      rw [ofJson?, Share.ofJson?_renews renews found, Option.map_some]
  | dmCheckin =>
      rcases Option.map_eq_some_iff.mp read with ⟨checkin, found, rfl⟩
      rw [ofJson?, Checkin.ofJson?_renews renews found, Option.map_some]
  | dmReply | chatMessage =>
      rcases Option.map_eq_some_iff.mp read with ⟨envelope, found, rfl⟩
      rw [ofJson?, Envelope.ofJson?_renews renews found, Option.map_some]

end Anew

/-! ## The text of a payload -/

namespace Utf8

theorem glyphs_of_infix {part : List Glyph} {text : List Char} (within : part <:+: glyphs text) :
    ∃ chars, part = glyphs chars ∧ chars <:+: text := by
  rcases within with ⟨front, back, whole⟩
  rcases List.map_eq_append_iff.mp whole.symm with ⟨most, rest, rfl, same, _⟩
  rcases List.map_eq_append_iff.mp same with ⟨before, chars, rfl, _, rfl⟩
  exact ⟨chars, rfl, before, rest, rfl⟩

end Utf8

namespace Replay

namespace InboundLine

variable {line : String} {event : InboundLine}

/-- The names of the fields of an event, in the order in which an array gives them. -/
def fieldNames : List String :=
  ["platform_message_id", "topic", "conversation_key", "idempotency_key", "payload", "id",
    "participant_key", "correlation_id", "extensions"]

/-- The text that a line gives for the payload of its event, as it stands there. -/
def payloadText? (line : String) : Option String :=
  (Json.fieldText? fieldNames (Utf8.glyphs line.toList) "payload").bind fun text =>
    (Utf8.Glyph.chars? text).map String.ofList

/-- The payload of an event is the value of one field of its line. -/
theorem payload_of_ofJson? {tree : Json.Tree} (read : ofJson? tree = some event) :
    ∃ fields part, tree.fields? fieldNames = some fields ∧ fields "payload" = some part ∧
      part.value? (Json.greatestDepth - 1) = some event.payload := by
  rcases Option.bind_eq_some_iff.mp read with ⟨fields, given, found⟩
  rcases Option.bind_eq_some_iff.mp found with ⟨platformMessageId, _, found⟩
  rcases Option.bind_eq_some_iff.mp found with ⟨topic, _, found⟩
  rcases Option.bind_eq_some_iff.mp found with ⟨conversationKey, _, found⟩
  rcases Option.bind_eq_some_iff.mp found with ⟨idempotencyKey, _, found⟩
  rcases Option.bind_eq_some_iff.mp found with ⟨payload, kept, found⟩
  rcases Option.bind_eq_some_iff.mp kept with ⟨part, field, kept⟩
  have same : payload = event.payload := by
    simp only [Option.bind_eq_bind, Option.bind_eq_some_iff, Option.some.injEq] at found
    rcases found with ⟨id, _, participantKey, _, correlationId, _, extensions, _, rfl⟩
    rfl
  exact ⟨fields, part, given, field, same ▸ kept⟩

theorem payloadText?_of_parse? (read : parse? line = some event) :
    ∃ text tree, payloadText? line = some text ∧ text.toList <:+: line.toList ∧
      Json.Tree.parse? (Utf8.encodeText text) = some tree ∧
      tree.value? (Json.greatestDepth - 1) = some event.payload := by
  rcases Option.bind_eq_some_iff.mp read with ⟨whole, spelled, read⟩
  rcases payload_of_ofJson? read with ⟨fields, part, given, field, kept⟩
  rw [Json.Tree.parse?_encodeText] at spelled
  rcases Json.fieldText?_of_fields? spelled given field with ⟨text, stands, excerpt⟩
  rcases Utf8.glyphs_of_infix excerpt.within with ⟨chars, rfl, within⟩
  refine ⟨String.ofList chars, part, ?_, ?_, ?_, kept⟩
  · rw [payloadText?, stands, Option.bind_some, Utf8.Glyph.chars?_glyphs, Option.map_some]
  · rwa [String.toList_ofList]
  · rw [Json.Tree.parse?_encodeText, String.toList_ofList, excerpt.spelled.ofGlyphs?]

end InboundLine

/-- What the payload of a line is decoded to, the payload of its message is decoded to as well,
under the schema of any topic. -/
theorem replayed_payload_keeps_meaning {line : String} {event : InboundLine}
    (read : InboundLine.parse? line = some event) (createdAt : Instant) :
    ∃ text, InboundLine.payloadText? line = some text ∧ text.toList <:+: line.toList ∧
      ∀ topic payload, Payload.decode? topic (Utf8.encodeText text) = some payload →
        Payload.decode? topic (event.message createdAt).payload = some payload := by
  rcases InboundLine.payloadText?_of_parse? read with ⟨text, tree, stands, within, spelled, kept⟩
  refine ⟨text, stands, within, fun topic payload decoded => ?_⟩
  rw [Payload.decode?, spelled, Option.bind_some] at decoded
  have anew : (event.message createdAt).payload = event.payload.bytes := rfl
  rw [anew, Payload.decode?, Json.Tree.parse?_bytes_eq, Option.bind_some]
  exact Payload.ofJson?_renews (Json.renews_value kept) decoded

/-- A nudge whose key is written with an escape. A member that is no field of it is given twice, and
has numbers that are spelled otherwise when they are written anew. -/
theorem replayed_payload_keeps_meaning_nudge :
    let text := "\x7b\"z\":[1.50e2,\x7b\x7d], \"te\\u0078t\":\"hi\", \"z\":-0 ,\"due_at\":null\x7d"
    let line := "\x7b\"platform_message_id\":\"1\",\"payload\": " ++ text ++
      " ,\"topic\":\"dm-checkin\",\"conversation_key\":\"c\",\"idempotency_key\":\"k\"\x7d"
    let nudge := Payload.dmCheckin { text := "hi", dueAt := none }
    InboundLine.payloadText? line = some text ∧
      Payload.decode? .dmCheckin (Utf8.encodeText text) = some nudge ∧
      ∃ event, InboundLine.parse? line = some event ∧ event.topic = "dm-checkin" ∧
        event.payload.text = "\x7b\"due_at\":null,\"text\":\"hi\",\"z\":-0.0\x7d" ∧
        Payload.decode? .dmCheckin (event.message .epoch).payload = some nudge := by
  intro text line nudge
  have stands : InboundLine.payloadText? line = some text := by decide +kernel
  have decoded : Payload.decode? .dmCheckin (Utf8.encodeText text) = some nudge := by
    decide +kernel
  have parsed : (InboundLine.parse? line).map (fun event => (event.topic, event.payload.text)) =
      some ("dm-checkin", "\x7b\"due_at\":null,\"text\":\"hi\",\"z\":-0.0\x7d") := by
    decide +kernel
  rcases Option.map_eq_some_iff.mp parsed with ⟨event, read, same⟩
  rcases replayed_payload_keeps_meaning read .epoch with ⟨other, found, _, keeps⟩
  rw [stands, Option.some.injEq] at found
  subst found
  exact ⟨stands, decoded, event, read, congrArg Prod.fst same, congrArg Prod.snd same,
    keeps .dmCheckin nudge decoded⟩

end Replay

end ConversationBus
