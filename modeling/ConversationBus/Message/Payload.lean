import ConversationBus.Message.Vocabulary
import ConversationBus.Time.Rfc3339
import ConversationBus.Uuid

/-!
# Payloads

The three shapes of payload and the topics they belong to, with their JSON forms. A payload
travels as bytes and is decoded under the schema of its topic.
-/

namespace ConversationBus

/-! ## Times and UUIDs in JSON -/

def Instant.toJson (instant : Instant) : Json.Value :=
  .string instant.toText

/-- Reads an instant from a string in the relaxed form. -/
def Instant.ofJson? (tree : Json.Tree) : Option Instant :=
  tree.text?.bind fun text => ofRelaxed? text.toList

def Uuid.toJson (uuid : Uuid) : Json.Value :=
  .string uuid.text

/-- Reads a UUID from a string in any of its spellings. -/
def Uuid.ofJson? (tree : Json.Tree) : Option Uuid :=
  tree.text?.bind parse?

/-! ## The shapes -/

/-- A message in a conversation, for chat messages and direct replies. -/
structure Envelope where
  messageId : String
  text : String
  sentAt : Instant
  sessionId : Uuid
  replyTo : Option String
  deriving DecidableEq

/-- An envelope sent at a given time that replies to nothing. -/
def Envelope.fresh (messageId text : String) (sessionId : Uuid) (sentAt : Instant) : Envelope :=
  { messageId, text, sentAt, sessionId, replyTo := none }

/-- A nudge to a user in a direct message. -/
structure Checkin where
  text : String
  dueAt : Option Instant
  deriving DecidableEq

/-- Something brought up without being asked for. -/
structure Share where
  text : String
  reason : Option String
  sourceUrl : Option String
  deriving DecidableEq

def Envelope.toJson (envelope : Envelope) : Json.Value :=
  .object <|
    Json.member "message_id" (.string envelope.messageId) ++
    Json.member "text" (.string envelope.text) ++
    Json.member "sent_at" envelope.sentAt.toJson ++
    Json.member "session_id" envelope.sessionId.toJson ++
    Json.optionalMember "reply_to" .string envelope.replyTo

def Envelope.ofJson? (tree : Json.Tree) : Option Envelope := do
  let fields ← tree.fields? ["message_id", "text", "sent_at", "session_id", "reply_to"]
  some {
    messageId := ← fields.required "message_id" Json.Tree.text?
    text := ← fields.required "text" Json.Tree.text?
    sentAt := ← fields.required "sent_at" Instant.ofJson?
    sessionId := ← fields.required "session_id" Uuid.ofJson?
    replyTo := ← fields.optional "reply_to" Json.Tree.text? }

def Checkin.toJson (checkin : Checkin) : Json.Value :=
  .object <|
    Json.member "text" (.string checkin.text) ++
    Json.optionalMember "due_at" Instant.toJson checkin.dueAt

def Checkin.ofJson? (tree : Json.Tree) : Option Checkin := do
  let fields ← tree.fields? ["text", "due_at"]
  some {
    text := ← fields.required "text" Json.Tree.text?
    dueAt := ← fields.optional "due_at" Instant.ofJson? }

def Share.toJson (share : Share) : Json.Value :=
  .object <|
    Json.member "text" (.string share.text) ++
    Json.optionalMember "reason" .string share.reason ++
    Json.optionalMember "source_url" .string share.sourceUrl

def Share.ofJson? (tree : Json.Tree) : Option Share := do
  let fields ← tree.fields? ["text", "reason", "source_url"]
  some {
    text := ← fields.required "text" Json.Tree.text?
    reason := ← fields.optional "reason" Json.Tree.text?
    sourceUrl := ← fields.optional "source_url" Json.Tree.text? }

/-! ## Payloads by topic -/

/-- A payload under the schema of its topic. -/
inductive Payload where
  | proactiveShare (share : Share)
  | dmCheckin (checkin : Checkin)
  | dmReply (envelope : Envelope)
  | chatMessage (envelope : Envelope)
  deriving DecidableEq

namespace Payload

/-- Reads a payload under the schema of a topic. -/
def ofJson? (topic : Topic) (tree : Json.Tree) : Option Payload :=
  match topic with
  | .proactiveShare => (Share.ofJson? tree).map .proactiveShare
  | .dmCheckin => (Checkin.ofJson? tree).map .dmCheckin
  | .dmReply => (Envelope.ofJson? tree).map .dmReply
  | .chatMessage => (Envelope.ofJson? tree).map .chatMessage

/-- Decodes the bytes of a payload under the schema of a topic. -/
def decode? (topic : Topic) (bytes : List UInt8) : Option Payload :=
  (Json.Tree.parse? bytes).bind (ofJson? topic)

def topic : Payload → Topic
  | .proactiveShare _ => .proactiveShare
  | .dmCheckin _ => .dmCheckin
  | .dmReply _ => .dmReply
  | .chatMessage _ => .chatMessage

/-- The envelope of a payload that is one. -/
def envelope? : Payload → Option Envelope
  | .dmReply envelope | .chatMessage envelope => some envelope
  | _ => none

/-- The text for the user. -/
def text : Payload → String
  | .proactiveShare share => share.text
  | .dmCheckin checkin => checkin.text
  | .dmReply envelope | .chatMessage envelope => envelope.text

def toJson : Payload → Json.Value
  | .proactiveShare share => share.toJson
  | .dmCheckin checkin => checkin.toJson
  | .dmReply envelope | .chatMessage envelope => envelope.toJson

end Payload

end ConversationBus
