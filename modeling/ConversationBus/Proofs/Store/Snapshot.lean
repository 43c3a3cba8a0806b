import ConversationBus.Proofs.Json.Fields
import ConversationBus.Proofs.Store.Tables
import ConversationBus.Store.Snapshot

/-!
# Databases that are read back from files

The rows of a database come back from the file that they were written to, and make up the same
tables. So a database that is closed and opened again holds what it held before.
-/

namespace ConversationBus

open Json (Restores restores_bytes restores_list)

/-! ## Rows -/

theorem InboxRow.restores (row : InboxRow) : Restores InboxRow.toJson InboxRow.ofJson? row :=
  ⟨_, rfl, rfl⟩

/-- What a column that may be missing spells. -/
def columnTree : Option String → Json.Tree
  | none => .null
  | some text => .string (some text)

@[simp] theorem tree?_columnToJson (column : Option String) :
    (columnToJson column).tree? = some (columnTree column) := by
  cases column with
  | none | some text => rfl

/-- The members of a row of the outbox table, but for what its payload spells. -/
def OutboxRow.members (row : OutboxRow) (payload : Json.Tree) :
    List (Option String × Json.Tree) :=
  [(some "channel", .string (some row.channel)),
    (some "idempotency_key", .string (some row.idempotencyKey)),
    (some "status", .string (some row.status)),
    (some "attempts", .number (.ofInt row.attempts)),
    (some "contact_id", columnTree row.contactId),
    (some "peer_id", columnTree row.peerId),
    (some "item_id", columnTree row.itemId),
    (some "content_type", columnTree row.contentType),
    (some "payload", payload),
    (some "accepted", .number (.ofInt row.accepted)),
    (some "deduped", .number (.ofInt row.deduped)),
    (some "last_error", columnTree row.lastError),
    (some "created_at", .string (some row.createdAt)),
    (some "updated_at", .string (some row.updatedAt)),
    (some "last_attempt_at", columnTree row.lastAttemptAt),
    (some "sent_at", columnTree row.sentAt)]

section Reading

variable {fields : Json.Fields} {name : String}

theorem required_text {text : String} (found : fields name = some (.string (some text))) :
    fields.required name Json.Tree.text? = some text := by
  rw [Json.Fields.required, found, Option.bind_some, Json.Tree.text?]

theorem required_integer {value : Int} (found : fields name = some (.number (.ofInt value))) :
    fields.required name intOfJson? = some value := by
  rw [Json.Fields.required, found, Option.bind_some, intOfJson?, Json.Literal.integer?_ofInt]

theorem required_bytes {bytes : List UInt8} {tree : Json.Tree} (found : fields name = some tree)
    (read : tree.bytes? = some bytes) : fields.required name Json.Tree.bytes? = some bytes := by
  rw [Json.Fields.required, found, Option.bind_some, read]

theorem optional_column {column : Option String}
    (found : fields name = some (columnTree column)) :
    fields.optional name Json.Tree.text? = some column := by
  rw [Json.Fields.optional, found]
  cases column with
  | none | some text => rfl

theorem bind_found {α β : Type} {read : Option α} {next : α → Option β} {held : α} {result : β}
    (found : read = some held) (rest : next held = some result) :
    (read >>= next) = some result := by
  rw [found, Option.bind_eq_bind, Option.bind_some, rest]

end Reading

theorem OutboxRow.restores (row : OutboxRow) : Restores OutboxRow.toJson OutboxRow.ofJson? row := by
  rcases restores_bytes row.payload with ⟨payload, written, read⟩
  refine ⟨.object (row.members payload), ?_, ?_⟩
  · simp only [OutboxRow.toJson, OutboxRow.members, Json.member, List.cons_append,
      List.nil_append, Json.Value.tree?, Json.treesOfMembers?, tree?_columnToJson, written,
      Option.bind_eq_bind, Option.bind_some, Option.map_some]
  · -- Each field is found under its name, in the order in which the reader asks for them.
    rw [OutboxRow.ofJson?]
    refine bind_found (Json.fields?_object (by decide) (.refl _)) ?_
    refine bind_found (required_text rfl) ?_
    refine bind_found (required_text rfl) ?_
    refine bind_found (required_text rfl) ?_
    refine bind_found (required_integer rfl) ?_
    refine bind_found (optional_column rfl) ?_
    refine bind_found (optional_column rfl) ?_
    refine bind_found (optional_column rfl) ?_
    refine bind_found (optional_column rfl) ?_
    refine bind_found (required_bytes rfl read) ?_
    refine bind_found (required_integer rfl) ?_
    refine bind_found (required_integer rfl) ?_
    refine bind_found (optional_column rfl) ?_
    refine bind_found (required_text rfl) ?_
    refine bind_found (required_text rfl) ?_
    refine bind_found (optional_column rfl) ?_
    refine bind_found (optional_column rfl) ?_
    rfl

/-! ## Databases -/

namespace Database

/-- Every row stands under its primary key. -/
structure Keyed (database : Database) : Prop where
  inbox : database.inbox.KeyedBy fun row => (row.channel, row.platformMessageId)
  outbox : database.outbox.KeyedBy fun row => (row.channel, row.idempotencyKey)

theorem foldl_putInbox (rows : List InboxRow) (database : Database) :
    rows.foldl putInbox database =
      { database with
        inbox := rows.foldl (fun table row => table.put (row.channel, row.platformMessageId) row)
          database.inbox } := by
  induction rows generalizing database with
  | nil => rfl
  | cons row rows ih => exact ih (database.putInbox row)

theorem foldl_putOutbox (rows : List OutboxRow) (database : Database) :
    rows.foldl putOutbox database =
      { database with
        outbox := rows.foldl (fun table row => table.put (row.channel, row.idempotencyKey) row)
          database.outbox } := by
  induction rows generalizing database with
  | nil => rfl
  | cons row rows ih => exact ih (database.putOutbox row)

/-- The rows of a database, put one after the other, make up the database. -/
theorem Keyed.refill {database : Database} (keyed : database.Keyed) :
    database.outbox.values.foldl putOutbox (database.inbox.values.foldl putInbox empty) =
      database := by
  rw [foldl_putInbox, foldl_putOutbox]
  simp only [empty, keyed.inbox.refill, keyed.outbox.refill]

/-- A database whose rows stand under their keys comes back from its file. -/
theorem ofFile?_toFile {database : Database} (keyed : database.Keyed) :
    ofFile? database.toFile = some database := by
  have inboxRows : Restores (fun rows => .array (rows.map InboxRow.toJson))
      (Json.Tree.list? InboxRow.ofJson?) database.inbox.values :=
    restores_list fun row _ => row.restores
  have outboxRows : Restores (fun rows => .array (rows.map OutboxRow.toJson))
      (Json.Tree.list? OutboxRow.ofJson?) database.outbox.values :=
    restores_list fun row _ => row.restores
  rcases inboxRows with ⟨inbox, inboxWritten, inboxRead⟩
  rcases outboxRows with ⟨outbox, outboxWritten, outboxRead⟩
  have parsed : Json.Tree.parse? database.toFile =
      some (.object [(some "inbox", inbox), (some "outbox", outbox)]) := by
    change (Json.Value.array (database.inbox.values.map InboxRow.toJson)).tree? = _ at inboxWritten
    change (Json.Value.array (database.outbox.values.map OutboxRow.toJson)).tree? = _
      at outboxWritten
    refine Json.Tree.parse?_bytes (Option.map_eq_some_iff.mpr ⟨_, ?_, rfl⟩)
    simp only [Json.treesOfMembers?, inboxWritten, outboxWritten, Option.bind_eq_bind,
      Option.bind_some]
  have filled : database.toFile.isEmpty = false := by
    cases file : database.toFile with
    | nil =>
        rw [file, Json.Tree.parse?_nil] at parsed
        cases parsed
    | cons byte bytes => rfl
  rw [ofFile?, filled, if_neg Bool.false_ne_true]
  refine bind_found parsed ?_
  refine bind_found (Json.fields?_object (by decide) (.refl _)) ?_
  refine bind_found inboxRead ?_
  refine bind_found outboxRead ?_
  exact congrArg some keyed.refill

end Database

end ConversationBus
