import ConversationBus.Message.Basic

/-!
# Records of the delivery layer

An inbox record marks an event of a platform as already published. An outbox record holds the
last state of a send. Each is kept under an identity: the channel with the id that the platform
gave the event, and the channel with the key of the send.
-/

namespace ConversationBus

/-- The mark of an event that was published. -/
structure InboxRecord where
  channel : Channel
  platformMessageId : String
  conversationKey : String
  seenAt : Instant
  deriving DecidableEq

/-- The state of a send. -/
inductive OutboxStatus where
  | pending
  | sent
  | failed
  deriving DecidableEq, Repr

namespace OutboxStatus

def name : OutboxStatus → String
  | .pending => "pending"
  | .sent => "sent"
  | .failed => "failed"

/-- The status with an exact name. -/
def ofName? : String → Option OutboxStatus
  | "pending" => some .pending
  | "sent" => some .sent
  | "failed" => some .failed
  | _ => none

/-- The status with a name in any case. -/
def parse (text : String) : Except NameError OutboxStatus :=
  let word := Text.lowercase text
  match ofName? word with
  | some status => .ok status
  | none => .error (.status word)

def toJson (status : OutboxStatus) : Json.Value :=
  .string status.name

def ofJson? (tree : Json.Tree) : Option OutboxStatus :=
  tree.caseName?.bind ofName?

end OutboxStatus

/-- One more than the greatest number of attempts that is counted. -/
def attemptLimit : Nat := 0x100000000

/-- The last state of a send. -/
structure OutboxRecord where
  channel : Channel
  idempotencyKey : String
  status : OutboxStatus
  attempts : Fin attemptLimit
  contactId : Option String
  peerId : Option String
  itemId : Option String
  contentType : Option String
  payload : List UInt8
  /-- The platform took the send. -/
  accepted : Bool
  /-- The platform took the send for one that it had already seen. -/
  deduped : Bool
  lastError : Option String
  createdAt : Instant
  updatedAt : Instant
  lastAttemptAt : Option Instant
  sentAt : Option Instant
  deriving DecidableEq

/-- What the caller says about a send: its identity, and the details that are copied into the
record at each attempt. -/
structure OutboxDraft where
  channel : Channel
  idempotencyKey : String
  contactId : Option String
  peerId : Option String
  itemId : Option String
  contentType : Option String
  payload : List UInt8
  deriving DecidableEq

/-! ## JSON forms -/

def InboxRecord.toJson (record : InboxRecord) : Json.Value :=
  .object <|
    Json.member "channel" record.channel.toJson ++
    Json.member "platform_message_id" (.string record.platformMessageId) ++
    Json.member "conversation_key" (.string record.conversationKey) ++
    Json.member "seen_at" record.seenAt.toJson

def InboxRecord.ofJson? (tree : Json.Tree) : Option InboxRecord := do
  let fields ← tree.fields? ["channel", "platform_message_id", "conversation_key", "seen_at"]
  some {
    channel := ← fields.required "channel" Channel.ofJson?
    platformMessageId := ← fields.required "platform_message_id" Json.Tree.text?
    conversationKey := ← fields.required "conversation_key" Json.Tree.text?
    seenAt := ← fields.required "seen_at" Instant.ofJson? }

def OutboxRecord.toJson (record : OutboxRecord) : Json.Value :=
  .object <|
    Json.member "channel" record.channel.toJson ++
    Json.member "idempotency_key" (.string record.idempotencyKey) ++
    Json.member "status" record.status.toJson ++
    Json.member "attempts" (.nat record.attempts) ++
    Json.optionalMember "contact_id" .string record.contactId ++
    Json.optionalMember "peer_id" .string record.peerId ++
    Json.optionalMember "item_id" .string record.itemId ++
    Json.optionalMember "content_type" .string record.contentType ++
    Json.member "payload" (.ofBytes record.payload) ++
    Json.member "accepted" (.bool record.accepted) ++
    Json.member "deduped" (.bool record.deduped) ++
    Json.optionalMember "last_error" .string record.lastError ++
    Json.member "created_at" record.createdAt.toJson ++
    Json.member "updated_at" record.updatedAt.toJson ++
    Json.optionalMember "last_attempt_at" Instant.toJson record.lastAttemptAt ++
    Json.optionalMember "sent_at" Instant.toJson record.sentAt

/-- Reads a count of attempts. -/
def attemptsOfJson? (tree : Json.Tree) : Option (Fin attemptLimit) :=
  (tree.natBelow? attemptLimit).bind fun count =>
    if fits : count < attemptLimit then some ⟨count, fits⟩ else none

def OutboxRecord.ofJson? (tree : Json.Tree) : Option OutboxRecord := do
  let fields ← tree.fields?
    ["channel", "idempotency_key", "status", "attempts", "contact_id", "peer_id", "item_id",
      "content_type", "payload", "accepted", "deduped", "last_error", "created_at", "updated_at",
      "last_attempt_at", "sent_at"]
  some {
    channel := ← fields.required "channel" Channel.ofJson?
    idempotencyKey := ← fields.required "idempotency_key" Json.Tree.text?
    status := ← fields.required "status" OutboxStatus.ofJson?
    attempts := ← fields.required "attempts" attemptsOfJson?
    contactId := ← fields.optional "contact_id" Json.Tree.text?
    peerId := ← fields.optional "peer_id" Json.Tree.text?
    itemId := ← fields.optional "item_id" Json.Tree.text?
    contentType := ← fields.optional "content_type" Json.Tree.text?
    payload := ← fields.withDefault "payload" [] Json.Tree.bytes?
    accepted := ← fields.required "accepted" Json.Tree.bool?
    deduped := ← fields.required "deduped" Json.Tree.bool?
    lastError := ← fields.optional "last_error" Json.Tree.text?
    createdAt := ← fields.required "created_at" Instant.ofJson?
    updatedAt := ← fields.required "updated_at" Instant.ofJson?
    lastAttemptAt := ← fields.optional "last_attempt_at" Instant.ofJson?
    sentAt := ← fields.optional "sent_at" Instant.ofJson? }

end ConversationBus
