import ConversationBus.Store.Database

/-!
# Databases as files

The rows of a database as JSON, one object a table, so that a store can be kept in a file. An
empty file holds the empty database.
-/

namespace ConversationBus

def InboxRow.toJson (row : InboxRow) : Json.Value :=
  .array [.string row.channel, .string row.platformMessageId, .string row.conversationKey,
    .string row.seenAt]

def InboxRow.ofJson? (tree : Json.Tree) : Option InboxRow := do
  let [channel, platformMessageId, conversationKey, seenAt] ← tree.list? Json.Tree.text? | none
  some { channel, platformMessageId, conversationKey, seenAt }

/-- A column that may be missing, in JSON. -/
def columnToJson : Option String → Json.Value
  | none => .null
  | some text => .string text

def intOfJson? : Json.Tree → Option Int
  | .number literal => literal.integer?
  | _ => none

def OutboxRow.toJson (row : OutboxRow) : Json.Value :=
  .object <|
    Json.member "channel" (.string row.channel) ++
    Json.member "idempotency_key" (.string row.idempotencyKey) ++
    Json.member "status" (.string row.status) ++
    Json.member "attempts" (.number (.integer row.attempts)) ++
    Json.member "contact_id" (columnToJson row.contactId) ++
    Json.member "peer_id" (columnToJson row.peerId) ++
    Json.member "item_id" (columnToJson row.itemId) ++
    Json.member "content_type" (columnToJson row.contentType) ++
    Json.member "payload" (.ofBytes row.payload) ++
    Json.member "accepted" (.number (.integer row.accepted)) ++
    Json.member "deduped" (.number (.integer row.deduped)) ++
    Json.member "last_error" (columnToJson row.lastError) ++
    Json.member "created_at" (.string row.createdAt) ++
    Json.member "updated_at" (.string row.updatedAt) ++
    Json.member "last_attempt_at" (columnToJson row.lastAttemptAt) ++
    Json.member "sent_at" (columnToJson row.sentAt)

def OutboxRow.ofJson? (tree : Json.Tree) : Option OutboxRow := do
  let fields ← tree.fields?
    ["channel", "idempotency_key", "status", "attempts", "contact_id", "peer_id", "item_id",
      "content_type", "payload", "accepted", "deduped", "last_error", "created_at", "updated_at",
      "last_attempt_at", "sent_at"]
  some {
    channel := ← fields.required "channel" Json.Tree.text?
    idempotencyKey := ← fields.required "idempotency_key" Json.Tree.text?
    status := ← fields.required "status" Json.Tree.text?
    attempts := ← fields.required "attempts" intOfJson?
    contactId := ← fields.optional "contact_id" Json.Tree.text?
    peerId := ← fields.optional "peer_id" Json.Tree.text?
    itemId := ← fields.optional "item_id" Json.Tree.text?
    contentType := ← fields.optional "content_type" Json.Tree.text?
    payload := ← fields.required "payload" Json.Tree.bytes?
    accepted := ← fields.required "accepted" intOfJson?
    deduped := ← fields.required "deduped" intOfJson?
    lastError := ← fields.optional "last_error" Json.Tree.text?
    createdAt := ← fields.required "created_at" Json.Tree.text?
    updatedAt := ← fields.required "updated_at" Json.Tree.text?
    lastAttemptAt := ← fields.optional "last_attempt_at" Json.Tree.text?
    sentAt := ← fields.optional "sent_at" Json.Tree.text? }

namespace Database

/-- The bytes of the file that holds a database. -/
def toFile (database : Database) : List UInt8 :=
  (Json.Value.object [
    ("inbox", .array (database.inbox.values.map InboxRow.toJson)),
    ("outbox", .array (database.outbox.values.map OutboxRow.toJson))]).bytes

/-- The database in a file, unless the file holds something else. -/
def ofFile? (bytes : List UInt8) : Option Database :=
  if bytes.isEmpty then some empty
  else do
    let fields ← (← Json.Tree.parse? bytes).fields? ["inbox", "outbox"]
    let inbox ← fields.required "inbox" (Json.Tree.list? InboxRow.ofJson?)
    let outbox ← fields.required "outbox" (Json.Tree.list? OutboxRow.ofJson?)
    some (outbox.foldl putOutbox (inbox.foldl putInbox empty))

end Database

end ConversationBus
