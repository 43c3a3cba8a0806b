import ConversationBus.Delivery.Transition
import ConversationBus.Store.Memory

/-!
# What a store holds

A store is looked at through what its look-ups find. All that the delivery layer relies on is that
a call either fails and changes nothing, or goes by what was last saved under an identity. It makes
no difference whether a failure is the store's own or an injected one.
-/

namespace ConversationBus

/-- What look-ups find under each identity. -/
structure Holdings where
  inbox : Channel → String → Option InboxRecord
  outbox : SendIdentity → Option OutboxRecord

namespace Holdings

/-- No look-up finds anything. -/
def empty : Holdings :=
  ⟨fun _ _ => none, fun _ => none⟩

/-- An inbox record is found under its identity. -/
def putInbox (holdings : Holdings) (record : InboxRecord) : Holdings :=
  { holdings with
    inbox := fun channel id =>
      if channel = record.channel ∧ id = record.platformMessageId then some record
      else holdings.inbox channel id }

/-- An outbox record is found under its identity. -/
def putOutbox (holdings : Holdings) (record : OutboxRecord) : Holdings :=
  { holdings with
    outbox := fun identity =>
      if identity = record.identity then some record else holdings.outbox identity }

variable {holdings : Holdings} {inboxRecord : InboxRecord} {outboxRecord : OutboxRecord}

theorem inbox_putInbox (channel : Channel) (id : String) :
    (holdings.putInbox inboxRecord).inbox channel id =
      if channel = inboxRecord.channel ∧ id = inboxRecord.platformMessageId then some inboxRecord
      else holdings.inbox channel id := rfl

theorem outbox_putOutbox (identity : SendIdentity) :
    (holdings.putOutbox outboxRecord).outbox identity =
      if identity = outboxRecord.identity then some outboxRecord
      else holdings.outbox identity := rfl

@[simp] theorem outbox_putOutbox_self :
    (holdings.putOutbox outboxRecord).outbox outboxRecord.identity = some outboxRecord :=
  if_pos rfl

end Holdings

/-- A store whose calls, where they do not fail, find what was last saved. -/
class FaithfulStore (σ : Type) [RecordStore σ] where
  holdings : σ → Holdings
  findInbox_ok : ∀ {store : σ} {channel id found},
    RecordStore.findInbox store channel id = .ok found → found = (holdings store).inbox channel id
  saveInbox_ok : ∀ {store next : σ} {record},
    RecordStore.saveInbox store record = .ok next →
      holdings next = (holdings store).putInbox record
  findOutbox_ok : ∀ {store : σ} {channel key found},
    RecordStore.findOutbox store channel key = .ok found →
      found = (holdings store).outbox ⟨channel, key⟩
  saveOutbox_ok : ∀ {store next : σ} {record},
    RecordStore.saveOutbox store record = .ok next →
      holdings next = (holdings store).putOutbox record

namespace MemoryStore

def holdings (store : MemoryStore) : Holdings where
  inbox channel id := store.inbox.find? (channel, id)
  outbox identity := store.outbox.find? (identity.channel, identity.idempotencyKey)

instance : FaithfulStore MemoryStore where
  holdings := holdings
  findInbox_ok := by
    intro store channel id found answered
    cases answered
    rfl
  saveInbox_ok := by
    intro store next record answered
    cases answered
    simp only [holdings, Holdings.putInbox, Table.find?_put, Prod.mk.injEq]
  findOutbox_ok := by
    intro store channel key found answered
    cases answered
    rfl
  saveOutbox_ok := by
    intro store next record answered
    cases answered
    simp only [holdings, Holdings.putOutbox, Table.find?_put, Prod.mk.injEq,
      OutboxRecord.identity]
    congr 1
    funext identity
    cases identity
    simp only [SendIdentity.mk.injEq]

end MemoryStore

namespace FaultyStore

variable {σ α : Type}

/-- A call either fails and changes nothing, or it is answered by the store. -/
theorem attempt_cases (backing : FaultyStore σ) (call : StoreCall)
    (run : σ → Except StoreError (α × σ)) :
    (∃ error, (backing.attempt call run).1 = .error error ∧
      (backing.attempt call run).2.store = backing.store) ∨
    ∃ answer store, run backing.store = .ok (answer, store) ∧
      (backing.attempt call run).1 = .ok answer ∧ (backing.attempt call run).2.store = store := by
  simp only [attempt]
  split
  next error _ => exact .inl ⟨error, rfl, rfl⟩
  next =>
    split
    next error _ => exact .inl ⟨error, rfl, rfl⟩
    next answer store answered => exact .inr ⟨answer, store, answered, rfl, rfl⟩

/-- A look-up changes nothing, and what it finds is found by the store. -/
theorem attempt_look (backing : FaultyStore σ) (call : StoreCall)
    (look : σ → Except StoreError α) :
    let made := backing.attempt call fun store => (look store).map (·, store)
    made.2.store = backing.store ∧
      ((∃ error, made.1 = .error error) ∨
        ∃ found, look backing.store = .ok found ∧ made.1 = .ok found) := by
  rcases backing.attempt_cases call fun store => (look store).map (·, store) with
    ⟨error, failed, same⟩ | ⟨found, store, answered, told, same⟩
  · exact ⟨same, .inl ⟨error, failed⟩⟩
  · cases looked : look backing.store with
    | error error => simp [looked, Except.map] at answered
    | ok other =>
        simp only [looked, Except.map, Except.ok.injEq, Prod.mk.injEq] at answered
        rcases answered with ⟨rfl, rfl⟩
        exact ⟨same, .inr ⟨other, rfl, told⟩⟩

/-- What is saved is saved by the store, or the call fails and changes nothing. -/
theorem attempt_save (backing : FaultyStore σ) (call : StoreCall)
    (save : σ → Except StoreError σ) :
    let made := backing.attempt call fun store => (save store).map ((), ·)
    (∃ error, made.1 = .error error ∧ made.2.store = backing.store) ∨
      (made.1 = .ok () ∧ save backing.store = .ok made.2.store) := by
  rcases backing.attempt_cases call fun store => (save store).map ((), ·) with
    failed | ⟨⟨⟩, store, answered, told, same⟩
  · exact .inl failed
  · cases done : save backing.store with
    | error error => simp [done, Except.map] at answered
    | ok next =>
        simp only [done, Except.map, Except.ok.injEq, Prod.mk.injEq, true_and] at answered
        exact .inr ⟨told, by rw [same, answered]⟩

end FaultyStore

end ConversationBus
