import ConversationBus.Store.Database

/-!
# Insertion of rows

Rows that are put into the database column by column, past the interface of the store. A column
that is not given takes its default. The constraints of the schema are that required columns have
a value and that channels and statuses are known ones; the second kind can be switched off. A
missing value for a required column is made good by its default, where it has one.
-/

namespace ConversationBus

/-- The content of a column. -/
inductive Cell where
  | null
  | integer (value : Int)
  | text (value : String)
  | blob (value : List UInt8)
  deriving DecidableEq, Repr

/-- Cells by the names of their columns. -/
abbrev Cells := List (String × Cell)

/-- A constraint of the schema refuses the row. -/
structure ConstraintViolation where
  deriving DecidableEq, Repr

namespace Cells

/-- The content of a text column. Numbers become text there. -/
def text? (cells : Cells) (column : String) : Option String :=
  match cells.lookup column with
  | some (.text value) => some value
  | some (.integer value) => some (toString value)
  | some (.blob value) => Utf8.decodeText? value
  | some .null | none => none

/-- The content of a text column that needs one. -/
def text (cells : Cells) (column : String) : Except ConstraintViolation String :=
  match cells.text? column with
  | some value => .ok value
  | none => .error {}

/-- The content of an integer column with the default zero. -/
def integer (cells : Cells) (column : String) : Int :=
  match cells.lookup column with
  | some (.integer value) => value
  | some (.text value) => value.toInt?.getD 0
  | _ => 0

/-- The content of a column of bytes with the default of none. -/
def blob (cells : Cells) (column : String) : List UInt8 :=
  match cells.lookup column with
  | some (.blob value) => value
  | some (.text value) => Utf8.encodeText value
  | _ => []

end Cells

/-- The names of the channels, as the schema knows them. -/
def storedChannels : List String :=
  ["telegram", "slack", "discord", "peer"]

/-- The names of the statuses, as the schema knows them. -/
def storedStatuses : List String :=
  ["pending", "sent", "failed"]

/-- Checks that a value is one of those allowed, unless the check is switched off. -/
def checkMember (checked : Bool) (allowed : List String) (value : String) :
    Except ConstraintViolation Unit :=
  if !checked || allowed.contains value then .ok () else .error {}

namespace Database

/-- Inserts a row into the inbox table, in place of one under the same key. -/
def insertInbox (database : Database) (checked : Bool) (cells : Cells) :
    Except ConstraintViolation Database := do
  let row : InboxRow := {
    channel := ← cells.text "channel"
    platformMessageId := ← cells.text "platform_message_id"
    conversationKey := ← cells.text "conversation_key"
    seenAt := ← cells.text "seen_at" }
  checkMember checked storedChannels row.channel
  pure (database.putInbox row)

/-- Inserts a row into the outbox table, in place of one under the same key. -/
def insertOutbox (database : Database) (checked : Bool) (cells : Cells) :
    Except ConstraintViolation Database := do
  let row : OutboxRow := {
    channel := ← cells.text "channel"
    idempotencyKey := ← cells.text "idempotency_key"
    status := ← cells.text "status"
    attempts := cells.integer "attempts"
    contactId := cells.text? "contact_id"
    peerId := cells.text? "peer_id"
    itemId := cells.text? "item_id"
    contentType := cells.text? "content_type"
    payload := cells.blob "payload"
    accepted := cells.integer "accepted"
    deduped := cells.integer "deduped"
    lastError := cells.text? "last_error"
    createdAt := ← cells.text "created_at"
    updatedAt := ← cells.text "updated_at"
    lastAttemptAt := cells.text? "last_attempt_at"
    sentAt := cells.text? "sent_at" }
  checkMember checked storedChannels row.channel
  checkMember checked storedStatuses row.status
  pure (database.putOutbox row)

end Database

end ConversationBus
