import ConversationBus.Proofs.Store.Columns

/-!
# What a database gives back

A database takes every record. The stored form of a time is written for any year, but the reader of
columns refuses a year with a sign, so a record with one cannot be looked up. A record whose years
have four digits is given back settled: the same in every field, unless one of its times runs on
past a second within a minute, which the stored form shows as the next second. Whatever record is
saved, the answers for all other records stay as they were.
-/

namespace ConversationBus

/-! ## Rows that cannot be read -/

theorem instantOfColumn_signed {instant : Instant} (signed : ¬ instant.HasPlainYear) :
    instantOfColumn instant.toColumn = .error (.query "invalid datetime") := by
  rw [instantOfColumn, Instant.toColumn, String.toList_ofList,
    Instant.ofStrict?_text_signed _ signed]

theorem instantOfColumn?_signed {instant : Option Instant}
    (signed : ¬ ∀ time, instant = some time → time.HasPlainYear) :
    instantOfColumn? (instant.map Instant.toColumn) = .error (.query "invalid datetime") := by
  cases instant with
  | none => exact absurd (by simp) signed
  | some time =>
      have notPlain : ¬ time.HasPlainYear := by simpa using signed
      rw [Option.map_some, instantOfColumn?, instantOfColumn_signed notPlain]
      rfl

theorem InboxRow.record_ofRecord_signed {record : InboxRecord}
    (signed : ¬ ∀ time ∈ record.times, time.HasPlainYear) :
    (InboxRow.ofRecord record).record = .error (.query "invalid datetime") := by
  rw [InboxRecord.times, List.forall_mem_singleton] at signed
  have seenAt := instantOfColumn_signed signed
  simp [InboxRow.record, InboxRow.ofRecord, seenAt, bind, Except.bind]

/-- The first time with a signed year, in the order of the columns, makes the row unreadable. -/
theorem OutboxRow.record_ofRecord_signed {record : OutboxRecord}
    (signed : ¬ ∀ time ∈ record.times, time.HasPlainYear) :
    (OutboxRow.ofRecord record).record = .error (.query "invalid datetime") := by
  rw [OutboxRecord.forall_times] at signed
  simp only [OutboxRow.record, OutboxRow.ofRecord, bind, Except.bind, attemptsOfColumn_val,
    channelOfColumn_name, statusOfColumn_name]
  by_cases created : record.createdAt.HasPlainYear
  · by_cases updated : record.updatedAt.HasPlainYear
    · simp only [instantOfColumn_toColumn created, instantOfColumn_toColumn updated]
      by_cases lastAttempt : ∀ time, record.lastAttemptAt = some time → time.HasPlainYear
      · have sent : ¬ ∀ time, record.sentAt = some time → time.HasPlainYear := by
          intro sent
          exact signed ⟨created, updated, lastAttempt, sent⟩
        simp only [instantOfColumn?_toColumn lastAttempt, instantOfColumn?_signed sent]
      · simp only [instantOfColumn?_signed lastAttempt]
    · simp only [instantOfColumn_toColumn created, instantOfColumn_signed updated]
  · simp only [instantOfColumn_signed created]

/-! ## Records of both kinds -/

inductive StoredRecord where
  | inbox (record : InboxRecord)
  | outbox (record : OutboxRecord)
  deriving DecidableEq

/-- What a record is looked up by. -/
inductive StoredIdentity where
  | inbox (channel : Channel) (id : String)
  | outbox (channel : Channel) (key : String)
  deriving DecidableEq

def StoredRecord.identity : StoredRecord → StoredIdentity
  | .inbox record => .inbox record.channel record.platformMessageId
  | .outbox record => .outbox record.channel record.idempotencyKey

namespace StoredRecord

def times : StoredRecord → List Instant
  | .inbox record => record.times
  | .outbox record => record.times

def settled : StoredRecord → StoredRecord
  | .inbox record => .inbox record.settled
  | .outbox record => .outbox record.settled

variable (record : StoredRecord)

theorem settled_eq_self_iff :
    record.settled = record ↔ ∀ time ∈ record.times, time.HasProperSecond := by
  cases record with
  | inbox record => simp only [settled, times, inbox.injEq, record.settled_eq_self_iff]
  | outbox record => simp only [settled, times, outbox.injEq, record.settled_eq_self_iff]

/-- All times of a record are read from their stored forms. -/
def Readable : Prop :=
  ∀ time ∈ record.times, time.HasPlainYear

/-- All times of a record are the same when they are read from their stored forms. -/
def Storable : Prop :=
  ∀ time ∈ record.times, time.Storable

theorem storable_iff : record.Storable ↔ record.Readable ∧ record.settled = record := by
  rw [settled_eq_self_iff]
  constructor
  · intro storable
    exact ⟨fun time member => (storable time member).plain,
      fun time member => (storable time member).proper⟩
  · rintro ⟨readable, proper⟩ time member
    exact ⟨readable time member, proper time member⟩

end StoredRecord

namespace Database

def save (database : Database) : StoredRecord → Except StoreError Database
  | .inbox record => RecordStore.saveInbox database record
  | .outbox record => RecordStore.saveOutbox database record

def find (database : Database) : StoredIdentity → Except StoreError (Option StoredRecord)
  | .inbox channel id => (RecordStore.findInbox database channel id).map (·.map .inbox)
  | .outbox channel key => (RecordStore.findOutbox database channel key).map (·.map .outbox)

variable (database : Database)

/-- After a row of the inbox table was written, it is found under its key, and nothing else has
changed. -/
theorem find_putInbox (record : InboxRecord) (identity : StoredIdentity) :
    (database.putInbox (.ofRecord record)).find identity =
      if identity = (StoredRecord.inbox record).identity then
        (InboxRow.ofRecord record).record.map fun found => some (.inbox found)
      else database.find identity := by
  cases identity with
  | inbox channel id =>
      have key : (channel.name, id) = (record.channel.name, record.platformMessageId) ↔
          channel = record.channel ∧ id = record.platformMessageId := by
        rw [Prod.mk.injEq, Channel.name_injective.eq_iff]
      simp only [find, RecordStore.findInbox, putInbox, InboxRow.ofRecord, Table.find?_put, key,
        StoredRecord.identity, StoredIdentity.inbox.injEq]
      split
      next =>
        rw [readRow]
        cases InboxRow.record _ with
        | ok found => rfl
        | error error => rfl
      next => rfl
  | outbox channel key => rfl

/-- After a row of the outbox table was written, it is found under its key, and nothing else has
changed. -/
theorem find_putOutbox (record : OutboxRecord) (identity : StoredIdentity) :
    (database.putOutbox (.ofRecord record)).find identity =
      if identity = (StoredRecord.outbox record).identity then
        (OutboxRow.ofRecord record).record.map fun found => some (.outbox found)
      else database.find identity := by
  cases identity with
  | inbox channel id => rfl
  | outbox channel key =>
      have same : (channel.name, key) = (record.channel.name, record.idempotencyKey) ↔
          channel = record.channel ∧ key = record.idempotencyKey := by
        rw [Prod.mk.injEq, Channel.name_injective.eq_iff]
      simp only [find, RecordStore.findOutbox, putOutbox, OutboxRow.ofRecord, Table.find?_put, same,
        StoredRecord.identity, StoredIdentity.outbox.injEq]
      split
      next =>
        rw [readRow]
        cases OutboxRow.record _ with
        | ok found => rfl
        | error error => rfl
      next => rfl

/-- What a look-up gives right after a record was saved: the settled record if its times can be read,
and a failure if not. -/
theorem find_saved (record : StoredRecord) :
    ∃ next, database.save record = .ok next ∧
      (record.Readable → next.find record.identity = .ok (some record.settled)) ∧
      (¬ record.Readable → next.find record.identity = .error (.query "invalid datetime")) ∧
      ∀ identity, identity ≠ record.identity → next.find identity = database.find identity := by
  cases record with
  | inbox record =>
      refine ⟨database.putInbox (.ofRecord record), rfl, ?_, ?_, ?_⟩
      · intro readable
        rw [find_putInbox, if_pos rfl, InboxRow.record_ofRecord readable]
        rfl
      · intro signed
        rw [find_putInbox, if_pos rfl, InboxRow.record_ofRecord_signed signed]
        rfl
      · intro identity other
        rw [find_putInbox, if_neg other]
  | outbox record =>
      refine ⟨database.putOutbox (.ofRecord record), rfl, ?_, ?_, ?_⟩
      · intro readable
        rw [find_putOutbox, if_pos rfl, OutboxRow.record_ofRecord readable]
        rfl
      · intro signed
        rw [find_putOutbox, if_pos rfl, OutboxRow.record_ofRecord_signed signed]
        rfl
      · intro identity other
        rw [find_putOutbox, if_neg other]

/-- The beginning of the first year with five digits. -/
def tenThousand : Instant :=
  ⟨⟨10000, 1, 1⟩, 0, 0, by decide⟩

/-- Whatever a database holds, it takes any record. It gives the record back, the same in every
field, if and only if each of its times has a year of four digits and does not run on within a
minute. Where years have four digits it gives the settled record, and otherwise the look-up of this
record fails. The answers for all other records stay as they were. -/
theorem given_back_iff_storable (record : StoredRecord) :
    ∃ next, database.save record = .ok next ∧
      (next.find record.identity = .ok (some record) ↔ record.Storable) ∧
      (next.find record.identity = .ok (some record.settled) ↔ record.Readable) ∧
      (next.find record.identity = .error (.query "invalid datetime") ↔ ¬ record.Readable) ∧
      ∀ identity, identity ≠ record.identity → next.find identity = database.find identity := by
  rcases database.find_saved record with ⟨next, saved, back, lost, others⟩
  rw [record.storable_iff]
  by_cases readable : record.Readable
  · have found := back readable
    refine ⟨next, saved, ?_, iff_of_true found readable,
      iff_of_false (by simp [found]) (not_not_intro readable), others⟩
    rw [found, Except.ok.injEq, Option.some.injEq]
    exact (and_iff_right readable).symm
  · have failed := lost readable
    exact ⟨next, saved, iff_of_false (by simp [failed]) fun both => readable both.1,
      iff_of_false (by simp [failed]) readable, iff_of_true failed readable, others⟩

/-- A mark from the year 10000 is taken and can never be looked up. -/
theorem given_back_iff_storable_year_ten_thousand :
    ∃ next, empty.save (.inbox ⟨.telegram, "501", "telegram:chat:42", tenThousand⟩) = .ok next ∧
      next.find (.inbox .telegram "501") = .error (.query "invalid datetime") := by
  rcases given_back_iff_storable empty
    (.inbox ⟨.telegram, "501", "telegram:chat:42", tenThousand⟩) with ⟨next, saved, _, _, lost, _⟩
  have signed : ¬ tenThousand.HasPlainYear := by decide
  exact ⟨next, saved, lost.mpr fun readable => signed (readable _ List.mem_cons_self)⟩

end Database

end ConversationBus
