import ConversationBus.Flow.Basic
import ConversationBus.Store.Basic

/-!
# Surroundings of a flow

Everything that a flow can ask of a store, a bus, a clock and a platform, without concurrency: the
n-th reading of the clock, the answer to the n-th message offered to the bus and the outcome of
the n-th send are given beforehand. What the bus took and how often a send ran is kept.
-/

namespace ConversationBus

/-- Surroundings with given answers, over a store that may fail. -/
structure Surroundings (σ : Type) where
  backing : FaultyStore σ
  /-- What the clock shows at each reading. -/
  clock : Nat → Instant
  readings : Nat
  /-- What the bus answers to each message offered to it. -/
  publisher : Nat → Message → Except BusError Unit
  offers : Nat
  /-- The messages that the bus took. -/
  published : List Message
  /-- How each send ends. -/
  platform : Nat → Except SendFailure SendReceipt
  sends : Nat
  /-- Whether the caller has given up. -/
  cancelled : Bool

namespace Surroundings

variable {σ : Type}

/-- Surroundings with a sound store, a clock that stands still, a bus that takes every message and
a platform that accepts every send. -/
def plain (store : σ) (now : Instant) : Surroundings σ where
  backing := .sound store
  clock _ := now
  readings := 0
  publisher _ _ := .ok ()
  offers := 0
  published := []
  platform _ := .ok ⟨true, false⟩
  sends := 0
  cancelled := false

def offer (world : Surroundings σ) (message : Message) :
    Except BusError Unit × Surroundings σ :=
  let answer := world.publisher world.offers message
  let published := if answer.toBool then world.published ++ [message] else world.published
  (answer, { world with offers := world.offers + 1, published })

/-- Passes a call to the store. -/
def withStore {α : Type} (world : Surroundings σ) (result : α × FaultyStore σ) :
    α × Surroundings σ :=
  (result.1, { world with backing := result.2 })

variable [RecordStore σ]

def answer : Flow.Answering (Surroundings σ)
  | .findInbox channel id, world => world.withStore (world.backing.findInbox channel id)
  | .saveInbox record, world => world.withStore (world.backing.saveInbox record)
  | .findOutbox channel key, world => world.withStore (world.backing.findOutbox channel key)
  | .saveOutbox record, world => world.withStore (world.backing.saveOutbox record)
  | .publish message, world => world.offer message
  | .send, world => (world.platform world.sends, { world with sends := world.sends + 1 })
  | .now, world => (world.clock world.readings, { world with readings := world.readings + 1 })
  | .cancelled, world => (world.cancelled, world)
  | .close, world => (.ok (), world)

def run {α : Type} (world : Surroundings σ) (flow : Flow α) : α × Surroundings σ :=
  flow.run answer world

end Surroundings

end ConversationBus
