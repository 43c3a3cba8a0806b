import ConversationBus.Message.Basic

/-!
# Recorded events

An inbound event as a line of JSON: the id that the platform gave it, and what its message is made
from. The payload is any value, and is written anew for the message.
-/

namespace ConversationBus.Replay

/-- A recorded event. -/
structure InboundLine where
  platformMessageId : String
  topic : String
  conversationKey : String
  idempotencyKey : String
  payload : Json.Value
  id : Option String
  participantKey : Option String
  correlationId : Option String
  extensions : Extensions

namespace InboundLine

def ofJson? (tree : Json.Tree) : Option InboundLine := do
  let fields ← tree.fields?
    ["platform_message_id", "topic", "conversation_key", "idempotency_key", "payload", "id",
      "participant_key", "correlation_id", "extensions"]
  some {
    platformMessageId := ← fields.required "platform_message_id" Json.Tree.text?
    topic := ← fields.required "topic" Json.Tree.text?
    conversationKey := ← fields.required "conversation_key" Json.Tree.text?
    idempotencyKey := ← fields.required "idempotency_key" Json.Tree.text?
    payload := ← fields.required "payload" (Json.Tree.value? (Json.greatestDepth - 1))
    id := ← fields.optional "id" Json.Tree.text?
    participantKey := ← fields.optional "participant_key" Json.Tree.text?
    correlationId := ← fields.optional "correlation_id" Json.Tree.text?
    extensions := ← fields.withDefault "extensions" .none Extensions.ofJson? }

def parse? (line : String) : Option InboundLine :=
  (Json.Tree.parse? (Utf8.encodeText line)).bind ofJson?

def message (line : InboundLine) (createdAt : Instant) : Message :=
  { Message.plain line.topic line.conversationKey line.idempotencyKey line.payload.bytes
      createdAt with
    id := line.id
    participantKey := line.participantKey
    correlationId := line.correlationId
    extensions := line.extensions }

end InboundLine

end ConversationBus.Replay
