import ConversationBus.Store.Basic
import ConversationBus.Store.Table

/-!
# The store in a database

Records are kept as rows of two tables, with text for channels, statuses and times and integers
for counts and flags. Saving a record writes its row; looking one up reads the row back, which
fails when a column does not hold what it should. Times are written with digits for the offset
and read in the strict form, so a year outside 0000 to 9999 can be written but not read.
-/

namespace ConversationBus

structure InboxRow where
  channel : String
  platformMessageId : String
  conversationKey : String
  seenAt : String
  deriving DecidableEq, Repr

structure OutboxRow where
  channel : String
  idempotencyKey : String
  status : String
  attempts : Int
  contactId : Option String
  peerId : Option String
  itemId : Option String
  contentType : Option String
  payload : List UInt8
  accepted : Int
  deduped : Int
  lastError : Option String
  createdAt : String
  updatedAt : String
  lastAttemptAt : Option String
  sentAt : Option String
  deriving DecidableEq, Repr

/-- A time as it is stored. -/
def Instant.toColumn (instant : Instant) : String :=
  String.ofList (instant.text .digits)

/-- A flag as it is stored. -/
def flagColumn (flag : Bool) : Int :=
  if flag then 1 else 0

def channelOfColumn (column : String) : Except StoreError Channel :=
  match Channel.parse column with
  | .ok channel => .ok channel
  | .error _ => .error (.query (NameError.channel column).message)

def statusOfColumn (column : String) : Except StoreError OutboxStatus :=
  match OutboxStatus.parse column with
  | .ok status => .ok status
  | .error error => .error (.query error.message)

def instantOfColumn (column : String) : Except StoreError Instant :=
  match Instant.ofStrict? column.toList with
  | some instant => .ok instant
  | none => .error (.query "invalid datetime")

/-- Reads a stored time that may be missing. -/
def instantOfColumn? : Option String → Except StoreError (Option Instant)
  | none => .ok none
  | some column => (instantOfColumn column).map some

/-- Reads a stored count of attempts. -/
def attemptsOfColumn (column : Int) : Except StoreError (Fin attemptLimit) :=
  if fits : 0 ≤ column ∧ column.toNat < attemptLimit then .ok ⟨column.toNat, fits.2⟩
  else .error (.query s!"invalid attempts: {column}")

namespace InboxRow

def ofRecord (record : InboxRecord) : InboxRow where
  channel := record.channel.name
  platformMessageId := record.platformMessageId
  conversationKey := record.conversationKey
  seenAt := record.seenAt.toColumn

/-- The record that a row holds. -/
def record (row : InboxRow) : Except StoreError InboxRecord := do
  let channel ← channelOfColumn row.channel
  let seenAt ← instantOfColumn row.seenAt
  pure {
    channel, platformMessageId := row.platformMessageId,
    conversationKey := row.conversationKey, seenAt }

end InboxRow

namespace OutboxRow

def ofRecord (record : OutboxRecord) : OutboxRow where
  channel := record.channel.name
  idempotencyKey := record.idempotencyKey
  status := record.status.name
  attempts := record.attempts.val
  contactId := record.contactId
  peerId := record.peerId
  itemId := record.itemId
  contentType := record.contentType
  payload := record.payload
  accepted := flagColumn record.accepted
  deduped := flagColumn record.deduped
  lastError := record.lastError
  createdAt := record.createdAt.toColumn
  updatedAt := record.updatedAt.toColumn
  lastAttemptAt := record.lastAttemptAt.map Instant.toColumn
  sentAt := record.sentAt.map Instant.toColumn

/-- The record that a row holds. A flag is set by any number but zero. -/
def record (row : OutboxRow) : Except StoreError OutboxRecord := do
  let attempts ← attemptsOfColumn row.attempts
  let channel ← channelOfColumn row.channel
  let status ← statusOfColumn row.status
  let createdAt ← instantOfColumn row.createdAt
  let updatedAt ← instantOfColumn row.updatedAt
  let lastAttemptAt ← instantOfColumn? row.lastAttemptAt
  let sentAt ← instantOfColumn? row.sentAt
  pure {
    channel, idempotencyKey := row.idempotencyKey, status, attempts,
    contactId := row.contactId, peerId := row.peerId, itemId := row.itemId,
    contentType := row.contentType, payload := row.payload,
    accepted := row.accepted ≠ 0, deduped := row.deduped ≠ 0, lastError := row.lastError,
    createdAt, updatedAt, lastAttemptAt, sentAt }

end OutboxRow

/-- The two tables, each under its primary key of stored channel and id. -/
structure Database where
  inbox : Table (String × String) InboxRow
  outbox : Table (String × String) OutboxRow
  deriving DecidableEq, Repr

namespace Database

def empty : Database :=
  ⟨.empty, .empty⟩

/-- Writes a row of the inbox table under its primary key. -/
def putInbox (database : Database) (row : InboxRow) : Database :=
  { database with inbox := database.inbox.put (row.channel, row.platformMessageId) row }

/-- Writes a row of the outbox table under its primary key. -/
def putOutbox (database : Database) (row : OutboxRow) : Database :=
  { database with outbox := database.outbox.put (row.channel, row.idempotencyKey) row }

/-- What the row found by a look-up holds, if there is one. -/
def readRow {row α : Type} (read : row → Except StoreError α) :
    Option row → Except StoreError (Option α)
  | none => .ok none
  | some found => (read found).map some

instance : RecordStore Database where
  findInbox database channel id :=
    readRow InboxRow.record (database.inbox.find? (channel.name, id))
  saveInbox database record := .ok (database.putInbox (.ofRecord record))
  findOutbox database channel key :=
    readRow OutboxRow.record (database.outbox.find? (channel.name, key))
  saveOutbox database record := .ok (database.putOutbox (.ofRecord record))

/-- Counts one more row under a stored status, keeping the statuses in order. -/
def countStatus (status : String) : List (String × Nat) → List (String × Nat)
  | [] => [(status, 1)]
  | (other, count) :: rest =>
    if status < other then (status, 1) :: (other, count) :: rest
    else if status = other then (other, count + 1) :: rest
    else (other, count) :: countStatus status rest

/-- The number of outbox rows under each stored status, in the order of the stored text. -/
def statusGroups (database : Database) : List (String × Nat) :=
  database.outbox.values.foldl (fun groups row => countStatus row.status groups) []

/-- The number of outbox rows by status. It fails at the first status that has no meaning. -/
def countByStatus (database : Database) : Except StoreError (List (OutboxStatus × Nat)) :=
  database.statusGroups.mapM fun (status, count) => do
    pure (← statusOfColumn status, count)

end Database

end ConversationBus
