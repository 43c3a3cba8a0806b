import ConversationBus.Proofs.Store.Columns
import ConversationBus.Proofs.Store.Snapshot
import ConversationBus.Store.Memory

/-!
# The mirror of a store in memory

What a store in memory keeps can be kept as rows of a database. Where the records stand under
their identities and their times can be stored, the database answers every call as the store in
memory does and stays its mirror, and it comes back from a file.
-/

namespace ConversationBus

section Restored

variable {α ρ : Type} {write : α → ρ} {read : ρ → Except StoreError α}

theorem readRow_restored {found : Option α}
    (restored : ∀ record, found = some record → read (write record) = .ok record) :
    Database.readRow read (found.map write) = .ok found := by
  cases found with
  | none => rfl
  | some record => simp [Database.readRow, restored record rfl, Except.map]

theorem mapM_restored {records : List α}
    (restored : ∀ record ∈ records, read (write record) = .ok record) :
    (records.map write).mapM read = .ok records := by
  induction records with
  | nil => rfl
  | cons record records ih =>
      have first := restored record List.mem_cons_self
      have later := ih fun held member => restored held (List.mem_cons_of_mem record member)
      simp [first, later, bind, Except.bind, pure, Except.pure]

end Restored

namespace MemoryStore

/-- A key as it stands in a database. -/
def keyColumns (key : Channel × String) : String × String :=
  (key.1.name, key.2)

theorem keyColumns_injective : Function.Injective keyColumns := by
  rintro ⟨channel, id⟩ ⟨other, otherId⟩ same
  simp only [keyColumns, Prod.mk.injEq] at same
  rw [Channel.name_injective same.1, same.2]

/-- The database with the rows of what is kept in memory. -/
def mirror (store : MemoryStore) : Database where
  inbox := store.inbox.map keyColumns .ofRecord
  outbox := store.outbox.map keyColumns .ofRecord

/-- Records stand under their identities, and their times can be stored. -/
structure WellKept (store : MemoryStore) : Prop where
  inboxKeyed : store.inbox.KeyedBy fun record => (record.channel, record.platformMessageId)
  outboxKeyed : store.outbox.KeyedBy fun record => (record.channel, record.idempotencyKey)
  inboxStorable : ∀ record ∈ store.inbox.values, record.Storable
  outboxStorable : ∀ record ∈ store.outbox.values, record.Storable

theorem wellKept_empty : empty.WellKept where
  inboxKeyed := Table.keyedBy_empty _
  outboxKeyed := Table.keyedBy_empty _
  inboxStorable _ member := nomatch member
  outboxStorable _ member := nomatch member

variable {store : MemoryStore}

def afterInbox (store : MemoryStore) (record : InboxRecord) : MemoryStore :=
  { store with inbox := store.inbox.put (record.channel, record.platformMessageId) record }

def afterOutbox (store : MemoryStore) (record : OutboxRecord) : MemoryStore :=
  { store with outbox := store.outbox.put (record.channel, record.idempotencyKey) record }

namespace WellKept

theorem afterInbox (kept : store.WellKept) {record : InboxRecord} (storable : record.Storable) :
    (store.afterInbox record).WellKept where
  inboxKeyed := kept.inboxKeyed.put record
  outboxKeyed := kept.outboxKeyed
  inboxStorable held member := by
    rcases Table.mem_values_put member with rfl | before
    · exact storable
    · exact kept.inboxStorable held before
  outboxStorable := kept.outboxStorable

theorem afterOutbox (kept : store.WellKept) {record : OutboxRecord} (storable : record.Storable) :
    (store.afterOutbox record).WellKept where
  inboxKeyed := kept.inboxKeyed
  outboxKeyed := kept.outboxKeyed.put record
  inboxStorable := kept.inboxStorable
  outboxStorable held member := by
    rcases Table.mem_values_put member with rfl | before
    · exact storable
    · exact kept.outboxStorable held before

theorem keyed (kept : store.WellKept) : store.mirror.Keyed where
  inbox := kept.inboxKeyed.map keyColumns_injective fun _ => rfl
  outbox := kept.outboxKeyed.map keyColumns_injective fun _ => rfl

theorem findInbox (kept : store.WellKept) (channel : Channel) (id : String) :
    RecordStore.findInbox store.mirror channel id = .ok (store.inbox.find? (channel, id)) := by
  have found := Table.find?_map keyColumns_injective InboxRow.ofRecord store.inbox (channel, id)
  refine (congrArg (Database.readRow InboxRow.record) found).trans (readRow_restored ?_)
  intro record held
  exact InboxRow.record_of_storable (kept.inboxStorable record (Table.mem_of_find? held))

theorem findOutbox (kept : store.WellKept) (channel : Channel) (key : String) :
    RecordStore.findOutbox store.mirror channel key = .ok (store.outbox.find? (channel, key)) := by
  have found := Table.find?_map keyColumns_injective OutboxRow.ofRecord store.outbox (channel, key)
  refine (congrArg (Database.readRow OutboxRow.record) found).trans (readRow_restored ?_)
  intro record held
  exact OutboxRow.record_of_storable (kept.outboxStorable record (Table.mem_of_find? held))

/-- All rows of a mirror can be read, and they hold what is kept in memory. -/
theorem inboxRecords (kept : store.WellKept) :
    store.mirror.inbox.values.mapM InboxRow.record = .ok store.inbox.values := by
  rw [mirror, Table.values_map]
  exact mapM_restored fun record held =>
    InboxRow.record_of_storable (kept.inboxStorable record held)

theorem outboxRecords (kept : store.WellKept) :
    store.mirror.outbox.values.mapM OutboxRow.record = .ok store.outbox.values := by
  rw [mirror, Table.values_map]
  exact mapM_restored fun record held =>
    OutboxRow.record_of_storable (kept.outboxStorable record held)

end WellKept

/-- The rows of a mirror satisfy the constraints of the schema. -/
theorem inboxChecked (store : MemoryStore) :
    ∀ row ∈ store.mirror.inbox.values, checkMember true storedChannels row.channel = .ok () := by
  intro row member
  rw [mirror, Table.values_map] at member
  rcases List.mem_map.mp member with ⟨record, _, rfl⟩
  exact checkMember_channel record.channel

theorem outboxChecked (store : MemoryStore) :
    ∀ row ∈ store.mirror.outbox.values, checkMember true storedChannels row.channel = .ok () ∧
      checkMember true storedStatuses row.status = .ok () := by
  intro row member
  rw [mirror, Table.values_map] at member
  rcases List.mem_map.mp member with ⟨record, _, rfl⟩
  exact ⟨checkMember_channel record.channel, checkMember_status record.status⟩

/-- Saving a record keeps the mirror, whether or not its times can be read again. -/
theorem saveInbox_mirror (store : MemoryStore) (record : InboxRecord) :
    RecordStore.saveInbox store.mirror record = .ok (store.afterInbox record).mirror := by
  have put := Table.put_map keyColumns_injective InboxRow.ofRecord store.inbox
    (record.channel, record.platformMessageId) record
  exact congrArg (fun inbox => Except.ok { store.mirror with inbox }) put

theorem saveOutbox_mirror (store : MemoryStore) (record : OutboxRecord) :
    RecordStore.saveOutbox store.mirror record = .ok (store.afterOutbox record).mirror := by
  have put := Table.put_map keyColumns_injective OutboxRow.ofRecord store.outbox
    (record.channel, record.idempotencyKey) record
  exact congrArg (fun outbox => Except.ok { store.mirror with outbox }) put

end MemoryStore

end ConversationBus
