import ConversationBus.Delivery.Record
import ConversationBus.Store.Error

/-!
# Stores

The interface that the delivery layer needs of a store: look-ups and upserts of inbox and outbox
records by identity. A store can be given failures, one call at a time, to see what a fault does.
-/

namespace ConversationBus

/-- A keeper of inbox and outbox records. A call that fails changes nothing. -/
class RecordStore (σ : Type) where
  findInbox : σ → Channel → String → Except StoreError (Option InboxRecord)
  saveInbox : σ → InboxRecord → Except StoreError σ
  findOutbox : σ → Channel → String → Except StoreError (Option OutboxRecord)
  saveOutbox : σ → OutboxRecord → Except StoreError σ

inductive StoreCall where
  | findInbox
  | saveInbox
  | findOutbox
  | saveOutbox
  deriving DecidableEq, Repr

/-- A store with failures. `fault` says how the call with a given number fails, if it does; such a
call does not reach the store. `made` holds the calls made so far, the last one first. -/
structure FaultyStore (σ : Type) where
  store : σ
  made : List StoreCall
  fault : Nat → StoreCall → Option StoreError

namespace FaultyStore

variable {σ : Type}

/-- A store that never fails by itself. -/
def sound (store : σ) : FaultyStore σ :=
  { store, made := [], fault := fun _ _ => none }

/-- The number of calls of one kind so far. -/
def count (backing : FaultyStore σ) (call : StoreCall) : Nat :=
  backing.made.count call

/-- Makes a call: either its injected failure, or what the store answers. -/
def attempt {α : Type} (backing : FaultyStore σ) (call : StoreCall)
    (run : σ → Except StoreError (α × σ)) : Except StoreError α × FaultyStore σ :=
  let noted := { backing with made := call :: backing.made }
  match backing.fault backing.made.length call with
  | some error => (.error error, noted)
  | none =>
    match run backing.store with
    | .error error => (.error error, noted)
    | .ok (answer, store) => (.ok answer, { noted with store })

variable [RecordStore σ]

def findInbox (backing : FaultyStore σ) (channel : Channel) (id : String) :
    Except StoreError (Option InboxRecord) × FaultyStore σ :=
  backing.attempt .findInbox fun store =>
    (RecordStore.findInbox store channel id).map (·, store)

def saveInbox (backing : FaultyStore σ) (record : InboxRecord) :
    Except StoreError Unit × FaultyStore σ :=
  backing.attempt .saveInbox fun store => (RecordStore.saveInbox store record).map ((), ·)

def findOutbox (backing : FaultyStore σ) (channel : Channel) (key : String) :
    Except StoreError (Option OutboxRecord) × FaultyStore σ :=
  backing.attempt .findOutbox fun store =>
    (RecordStore.findOutbox store channel key).map (·, store)

def saveOutbox (backing : FaultyStore σ) (record : OutboxRecord) :
    Except StoreError Unit × FaultyStore σ :=
  backing.attempt .saveOutbox fun store => (RecordStore.saveOutbox store record).map ((), ·)

end FaultyStore

end ConversationBus
