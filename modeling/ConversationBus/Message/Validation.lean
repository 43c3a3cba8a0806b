import ConversationBus.Message.Basic

/-!
# Validation of messages

A message is valid when its identifiers are canonical strings, its topic is known, its payload
decodes under the schema of the topic, and its session ids are UUIDs that order by time. The rules
are applied in a fixed order, and the first one that is broken is the one reported.
-/

namespace ConversationBus

/-- What is wrong with a field. -/
inductive FieldFault where
  | required
  | blank
  | surroundingBlank
  | controlCharacter
  | tooLong
  | notUuid
  | notTimeOrdered (version : Option UuidVersion)
  deriving DecidableEq, Repr

/-- The number of bytes that a canonical string may have. -/
def greatestCanonicalLength : Nat := 512

/-- The text of a fault, to follow the name of its field. -/
def FieldFault.reason : FieldFault → String
  | .required => "is required"
  | .blank => "must not be empty"
  | .surroundingBlank => "must not have leading or trailing whitespace"
  | .controlCharacter => "must not contain control characters"
  | .tooLong => s!"must be at most {greatestCanonicalLength} bytes"
  | .notUuid => "is not a UUID"
  | .notTimeOrdered none => "must be a time-ordered UUIDv7, got None"
  | .notTimeOrdered (some version) =>
    s!"must be a time-ordered UUIDv7, got Some({version.label})"

/-- Why a message is not valid. -/
inductive ValidationError where
  | unknownTopic (topic : String)
  | invalidField (field : String) (fault : FieldFault)
  | invalidPayload (topic : Topic)
  deriving DecidableEq, Repr

namespace ValidationError

def message : ValidationError → String
  | .unknownTopic topic => s!"invalid topic: '{topic}'"
  | .invalidField field fault => s!"invalid message: {field} {fault.reason}"
  | .invalidPayload topic => s!"invalid message: payload is not a valid {topic.name} payload"

def code : ValidationError → String
  | .unknownTopic _ => "INVALID_TOPIC"
  | .invalidField .. | .invalidPayload _ => "INVALID_MESSAGE"

end ValidationError

/-- Checks that a string is canonical: it has a character that is not blank, no blanks around it,
no control characters, and is not too long. -/
def checkCanonical (field value : String) : Except ValidationError Unit :=
  let text := value.toList
  let trimmed := Text.trim text
  if trimmed.isEmpty then .error (.invalidField field .blank)
  else if (Utf8.encode trimmed).length ≠ (Utf8.encode text).length then
    .error (.invalidField field .surroundingBlank)
  else if text.any Text.isControl then .error (.invalidField field .controlCharacter)
  else if greatestCanonicalLength < value.utf8ByteSize then .error (.invalidField field .tooLong)
  else .ok ()

/-- Checks that an optional string is canonical if it is there. -/
def checkOptional (field : String) : Option String → Except ValidationError Unit
  | none => .ok ()
  | some value => checkCanonical field value

/-- Checks that a UUID is one that orders by time. -/
def checkTimeOrdered (field : String) (uuid : Uuid) : Except ValidationError Unit :=
  match uuid.version? with
  | some .sortedRandom => .ok ()
  | other => .error (.invalidField field (.notTimeOrdered other))

def resolveTopic (name : String) : Except ValidationError Topic :=
  match Topic.ofName? name with
  | some topic => .ok topic
  | none => .error (.unknownTopic name)

/-- Decodes a payload under the schema of a topic. An empty one is missing. -/
def decodePayload (topic : Topic) (bytes : List UInt8) : Except ValidationError Payload :=
  if bytes.isEmpty then .error (.invalidField "payload" .required)
  else match Payload.decode? topic bytes with
    | some payload => .ok payload
    | none => .error (.invalidPayload topic)

def checkEnvelope (envelope : Envelope) : Except ValidationError Unit := do
  checkCanonical "payload.message_id" envelope.messageId
  checkTimeOrdered "payload.session_id" envelope.sessionId
  checkOptional "payload.reply_to" envelope.replyTo

def checkPayload (payload : Payload) : Except ValidationError Unit :=
  match payload.envelope? with
  | some envelope => checkEnvelope envelope
  | none => .ok ()

/-- Checks the session id of the metadata. -/
def checkSession : Option String → Except ValidationError Unit
  | none => .ok ()
  | some text =>
    match Uuid.parse? text with
    | some uuid => checkTimeOrdered "extensions.session_id" uuid
    | none => .error (.invalidField "extensions.session_id" .notUuid)

def checkExtensions (extensions : Extensions) : Except ValidationError Unit := do
  checkOptional "extensions.platform_message_id" extensions.platformMessageId
  checkOptional "extensions.reply_to" extensions.replyTo
  checkOptional "extensions.team_id" extensions.teamId
  checkOptional "extensions.chat_id" extensions.chatId
  extensions.mentionedUsers.forM (checkCanonical "extensions.mentioned_users")
  checkSession extensions.sessionId

namespace Message

/-- Checks a message and decodes its payload. -/
def decode (message : Message) : Except ValidationError (Topic × Payload) := do
  checkOptional "id" message.id
  let topic ← resolveTopic message.topic
  checkCanonical "conversation_key" message.conversationKey
  checkCanonical "idempotency_key" message.idempotencyKey
  let payload ← decodePayload topic message.payload
  checkPayload payload
  checkOptional "participant_key" message.participantKey
  checkOptional "correlation_id" message.correlationId
  checkOptional "causation_id" message.causationId
  checkExtensions message.extensions
  pure (topic, payload)

/-- Checks a message and finds its topic. -/
def validate (message : Message) : Except ValidationError Topic :=
  message.decode.map (·.1)

end Message

end ConversationBus
