import ConversationBus.Message.Payload

/-!
# Messages

The unit of work on the bus, the metadata that channels attach to it, and the report of a failed
delivery, with their JSON forms. The topic of a message is kept as it was written, so that an
unknown one can be refused by name.
-/

namespace ConversationBus

/-- Metadata of a channel. -/
structure Extensions where
  platformMessageId : Option String
  replyTo : Option String
  sessionId : Option String
  teamId : Option String
  chatId : Option String
  mentionedUsers : List String
  deriving DecidableEq

namespace Extensions

def none : Extensions :=
  { platformMessageId := .none, replyTo := .none, sessionId := .none, teamId := .none,
    chatId := .none, mentionedUsers := [] }

def toJson (extensions : Extensions) : Json.Value :=
  .object <|
    Json.optionalMember "platform_message_id" .string extensions.platformMessageId ++
    Json.optionalMember "reply_to" .string extensions.replyTo ++
    Json.optionalMember "session_id" .string extensions.sessionId ++
    Json.optionalMember "team_id" .string extensions.teamId ++
    Json.optionalMember "chat_id" .string extensions.chatId ++
    if extensions.mentionedUsers.isEmpty then []
    else Json.member "mentioned_users" (.array (extensions.mentionedUsers.map .string))

def ofJson? (tree : Json.Tree) : Option Extensions := do
  let fields ← tree.fields?
    ["platform_message_id", "reply_to", "session_id", "team_id", "chat_id", "mentioned_users"]
  some {
    platformMessageId := ← fields.optional "platform_message_id" Json.Tree.text?
    replyTo := ← fields.optional "reply_to" Json.Tree.text?
    sessionId := ← fields.optional "session_id" Json.Tree.text?
    teamId := ← fields.optional "team_id" Json.Tree.text?
    chatId := ← fields.optional "chat_id" Json.Tree.text?
    mentionedUsers :=
      ← fields.withDefault "mentioned_users" [] (Json.Tree.list? Json.Tree.text?) }

end Extensions

/-- A unit of work on the bus. -/
structure Message where
  id : Option String
  direction : Option Direction
  channel : Option Channel
  topic : String
  /-- Messages with the same key are delivered in order. -/
  conversationKey : String
  participantKey : Option String
  /-- The identity of the send, which repeated deliveries share. -/
  idempotencyKey : String
  correlationId : Option String
  causationId : Option String
  payload : List UInt8
  createdAt : Instant
  extensions : Extensions
  deriving DecidableEq

namespace Message

/-- A message with the required fields and nothing else. -/
def plain (topic conversationKey idempotencyKey : String) (payload : List UInt8)
    (createdAt : Instant) : Message :=
  { id := none, direction := none, channel := none, topic, conversationKey,
    participantKey := none, idempotencyKey, correlationId := none, causationId := none, payload,
    createdAt, extensions := .none }

/-- A message whose payload is the JSON text of a value. -/
def ofJsonPayload (topic : Topic) (conversationKey idempotencyKey : String)
    (payload : Json.Value) (createdAt : Instant) : Message :=
  plain topic.name conversationKey idempotencyKey payload.bytes createdAt

def toJson (message : Message) : Json.Value :=
  .object <|
    Json.optionalMember "id" .string message.id ++
    Json.optionalMember "direction" Direction.toJson message.direction ++
    Json.optionalMember "channel" Channel.toJson message.channel ++
    Json.member "topic" (.string message.topic) ++
    Json.member "conversation_key" (.string message.conversationKey) ++
    Json.optionalMember "participant_key" .string message.participantKey ++
    Json.member "idempotency_key" (.string message.idempotencyKey) ++
    Json.optionalMember "correlation_id" .string message.correlationId ++
    Json.optionalMember "causation_id" .string message.causationId ++
    Json.member "payload" (.ofBytes message.payload) ++
    Json.member "created_at" message.createdAt.toJson ++
    Json.member "extensions" message.extensions.toJson

def ofJson? (tree : Json.Tree) : Option Message := do
  let fields ← tree.fields?
    ["id", "direction", "channel", "topic", "conversation_key", "participant_key",
      "idempotency_key", "correlation_id", "causation_id", "payload", "created_at", "extensions"]
  some {
    id := ← fields.optional "id" Json.Tree.text?
    direction := ← fields.optional "direction" Direction.ofJson?
    channel := ← fields.optional "channel" Channel.ofJson?
    topic := ← fields.required "topic" Json.Tree.text?
    conversationKey := ← fields.required "conversation_key" Json.Tree.text?
    participantKey := ← fields.optional "participant_key" Json.Tree.text?
    idempotencyKey := ← fields.required "idempotency_key" Json.Tree.text?
    correlationId := ← fields.optional "correlation_id" Json.Tree.text?
    causationId := ← fields.optional "causation_id" Json.Tree.text?
    payload := ← fields.required "payload" Json.Tree.bytes?
    createdAt := ← fields.required "created_at" Instant.ofJson?
    extensions := ← fields.withDefault "extensions" .none Extensions.ofJson? }

end Message

/-- The report of an admitted message whose delivery failed. The bus does not try again. -/
structure DeliveryError where
  message : Message
  error : String
  stage : DeliveryStage
  occurredAt : Instant
  deriving DecidableEq

namespace DeliveryError

/-- The line that a report is shown as. -/
def summary (report : DeliveryError) : String :=
  s!"{report.stage.name} failure on topic '{report.message.topic}' " ++
    s!"(conversation '{report.message.conversationKey}'): {report.error}"

def toJson (report : DeliveryError) : Json.Value :=
  .object <|
    Json.member "message" report.message.toJson ++
    Json.member "error" (.string report.error) ++
    Json.member "stage" report.stage.toJson ++
    Json.member "occurred_at" report.occurredAt.toJson

def ofJson? (tree : Json.Tree) : Option DeliveryError := do
  let fields ← tree.fields? ["message", "error", "stage", "occurred_at"]
  some {
    message := ← fields.required "message" Message.ofJson?
    error := ← fields.required "error" Json.Tree.text?
    stage := ← fields.required "stage" DeliveryStage.ofJson?
    occurredAt := ← fields.required "occurred_at" Instant.ofJson? }

end DeliveryError

end ConversationBus
