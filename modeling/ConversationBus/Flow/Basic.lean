import ConversationBus.Bus.Error
import ConversationBus.Delivery.Transition

/-!
# Flows

An operation of the delivery layer is a flow: a tree of actions, each with one branch for every
answer that the surroundings may give. A flow decides nothing about the store, the bus, the clock
or the platform; it can be run to its end by itself, or one action at a time among others.
-/

namespace ConversationBus

/-- What a platform says about a send that went through. -/
structure SendReceipt where
  accepted : Bool
  deduped : Bool
  deriving DecidableEq, Repr

/-- Why a send did not go through: its causes, from the outermost to the innermost. -/
abbrev SendFailure := List String

/-- What a flow asks of its surroundings. -/
inductive Action where
  | findInbox (channel : Channel) (id : String)
  | saveInbox (record : InboxRecord)
  | findOutbox (channel : Channel) (key : String)
  | saveOutbox (record : OutboxRecord)
  /-- Puts a message on the bus. -/
  | publish (message : Message)
  /-- Hands a send to its platform. -/
  | send
  /-- Reads the clock. -/
  | now
  /-- Asks whether the caller has given up. -/
  | cancelled
  /-- Closes the bus and waits for it to be drained. -/
  | close
  deriving DecidableEq

/-- What the surroundings may answer to an action. -/
@[reducible] def Action.Answer : Action → Type
  | .findInbox .. => Except StoreError (Option InboxRecord)
  | .saveInbox _ => Except StoreError Unit
  | .findOutbox .. => Except StoreError (Option OutboxRecord)
  | .saveOutbox _ => Except StoreError Unit
  | .publish _ => Except BusError Unit
  | .send => Except SendFailure SendReceipt
  | .now => Instant
  | .cancelled => Bool
  | .close => Except BusError Unit

/-- A tree of actions that ends in results. -/
inductive Flow (α : Type) where
  | done (result : α)
  | act (action : Action) (next : action.Answer → Flow α)

namespace Flow

variable {α β ω : Type}

/-- Goes on with the result of a flow. -/
def bind : Flow α → (α → Flow β) → Flow β
  | .done result, rest => rest result
  | .act action next, rest => .act action fun answer => (next answer).bind rest

/-- The flow of one action. -/
def ask (action : Action) : Flow action.Answer :=
  .act action .done

instance : Monad Flow where
  pure := .done
  bind := bind

/-- How surroundings in some state answer each action, and the state they are in after it. -/
abbrev Answering (ω : Type) := (action : Action) → ω → action.Answer × ω

/-- Runs a flow to its end with nothing in between. -/
def run (answering : Answering ω) : Flow α → ω → α × ω
  | .done result, world => (result, world)
  | .act action next, world =>
    let (answer, world) := answering action world
    (next answer).run answering world

/-- Runs one action of a flow, if it has one. -/
def advance (answering : Answering ω) : Flow α → ω → Flow α × ω
  | .done result, world => (.done result, world)
  | .act action next, world =>
    let (answer, world) := answering action world
    (next answer, world)

/-- The result of a flow that has come to its end. -/
def result? : Flow α → Option α
  | .done result => some result
  | .act .. => none

end Flow

end ConversationBus
