import ConversationBus.Store.Basic
import ConversationBus.Store.Table

/-!
# The store in memory

Records are kept as they are, and no call fails. What it holds ends with the process.
-/

namespace ConversationBus

/-- Inbox and outbox records under their identities. -/
structure MemoryStore where
  inbox : Table (Channel × String) InboxRecord
  outbox : Table (Channel × String) OutboxRecord
  deriving DecidableEq

namespace MemoryStore

def empty : MemoryStore :=
  ⟨.empty, .empty⟩

instance : RecordStore MemoryStore where
  findInbox store channel id := .ok (store.inbox.find? (channel, id))
  saveInbox store record := .ok { store with
    inbox := store.inbox.put (record.channel, record.platformMessageId) record }
  findOutbox store channel key := .ok (store.outbox.find? (channel, key))
  saveOutbox store record := .ok { store with
    outbox := store.outbox.put (record.channel, record.idempotencyKey) record }

end MemoryStore

end ConversationBus
