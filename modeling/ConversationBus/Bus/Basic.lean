import ConversationBus.Bus.Error
import ConversationBus.Bus.Semaphore
import ConversationBus.Config.Basic

/-!
# The state of a bus

A publish call takes a permit, hands its message to the ingress queue and returns. The dispatcher
moves messages from there to the worker of their conversation, which calls the handler of the
topic on one message after the other. The permit goes with the message and is given back when the
handler has returned. A close call stops new messages and waits until the rest is handled.
-/

namespace ConversationBus

abbrev HandlerId := Nat

/-- How a handler call ends. -/
inductive Outcome where
  | succeeded
  /-- The handler returned an error, given by its causes from the outermost on. -/
  | failed (causes : List String)
  /-- The handler broke off, with a text or with something else. -/
  | broke (text : Option String)
  deriving DecidableEq, Repr

/-- The error text that is reported for an outcome, if it is a failure. -/
def Outcome.failure? : Outcome → Option String
  | .succeeded => none
  | .failed causes => some (": ".intercalate causes)
  | .broke text =>
    some ("handler panicked: " ++ text.getD "non-string panic payload")

/-- A message that takes part of the budget. -/
structure Admitted where
  /-- The call that published it. -/
  call : CallId
  message : Message
  topic : Topic
  deriving DecidableEq

def Admitted.key (admitted : Admitted) : String :=
  admitted.message.conversationKey

/-- What a publish call waits for. -/
inductive PublishStage where
  /-- A permit. -/
  | admission
  /-- Room in the ingress queue; the call has a permit. -/
  | handOff
  deriving DecidableEq, Repr

/-- A publish call that has not returned. -/
structure PublishCall where
  admitted : Admitted
  stage : PublishStage
  /-- The call stands in the row for what it waits for. A call that was put off before it asked
  does not. -/
  inRow : Bool
  /-- The caller has given up. -/
  cancelled : Bool
  deriving DecidableEq

def PublishCall.id (call : PublishCall) : CallId :=
  call.admitted.call

/-- A close call that has not returned. -/
structure CloseCall where
  id : CallId
  /-- The call waits for the dispatcher, not for its turn. -/
  waiting : Bool
  deriving DecidableEq, Repr

/-- A handler at work. -/
structure Running where
  admitted : Admitted
  handler : HandlerId
  deriving DecidableEq

/-- The worker of a conversation. -/
structure Worker where
  key : String
  queue : List Admitted
  running : Option Running
  stopped : Bool
  deriving DecidableEq

inductive Dispatcher where
  /-- Moves messages from the ingress queue to the workers. -/
  | routing
  /-- Waits for the workers to stop. -/
  | draining
  | finished
  deriving DecidableEq, Repr

/-- Who has the receiving end of the error stream. -/
inductive Receiver where
  | unclaimed
  | taken
  | dropped
  deriving DecidableEq, Repr

/-- The stream of reports of failed deliveries. It holds a limited number of them. -/
structure ErrorStream where
  capacity : Nat
  queued : List DeliveryError
  receiver : Receiver
  deriving DecidableEq

/-- What became of the owner's handle of a bus. -/
inductive Handle where
  | held
  /-- Given up, while calls still use it. -/
  | released
  | dropped
  deriving DecidableEq, Repr

/-- The counts that a bus keeps. -/
structure Counters where
  published : Nat
  delivered : Nat
  failed : Nat
  droppedErrors : Nat
  workers : Nat
  deriving DecidableEq, Repr

/-- The state of a bus. -/
structure Bus where
  maxInFlight : Nat
  ingressCapacity : Nat
  handlers : List (Topic × HandlerId)
  /-- No message is taken any more. -/
  closed : Bool
  /-- The name of the next call. -/
  nextCall : CallId
  calls : List PublishCall
  /-- The permits of the budget. -/
  admission : Semaphore
  /-- The free places of the ingress queue. -/
  slots : Semaphore
  ingress : List Admitted
  dispatcher : Dispatcher
  workers : List Worker
  errors : ErrorStream
  /-- The close calls in the order of their turns. -/
  closing : List CloseCall
  /-- No close call has begun to wait for the dispatcher yet. -/
  joinable : Bool
  handle : Handle
  counters : Counters
  deriving DecidableEq

/-- What became of a report. -/
inductive ReportFate where
  | queued
  /-- The stream was full. -/
  | overflowed
  /-- Nobody listens any more. -/
  | unheard
  deriving DecidableEq, Repr

/-- What can be seen of a step of a bus. -/
inductive Event where
  /-- A publish call began. -/
  | called (call : CallId) (message : Message)
  /-- A publish call returned. -/
  | returned (call : CallId) (result : Except BusError Unit)
  /-- A publish call was dropped by its caller while it waited. -/
  | abandoned (call : CallId)
  /-- A message entered the ingress queue. -/
  | queued (admitted : Admitted)
  /-- A handler was called. -/
  | started (running : Running)
  /-- A handler call ended. -/
  | ended (running : Running) (outcome : Outcome)
  /-- A handler call ended with an error that cannot be put into words, which breaks its worker
  off. -/
  | brokenOff (running : Running)
  /-- A message was given up without a handler call, because its worker has broken off. -/
  | dropped (admitted : Admitted)
  /-- A failed delivery was reported. -/
  | reported (report : DeliveryError) (fate : ReportFate)
  /-- The consumer of the error stream got a report. -/
  | received (report : DeliveryError)
  /-- A report was still on the error stream when its receiving end was dropped. -/
  | discarded (report : DeliveryError)
  /-- A close call returned. -/
  | closeReturned (call : CallId)
  /-- A close call was dropped by its caller while it waited, for its turn or for the dispatcher. -/
  | closeAbandoned (call : CloseCall)
  deriving DecidableEq

/-- The greatest number of permits that a semaphore or a queue can be made with. -/
def greatestPermits : Nat := 0x1FFFFFFFFFFFFFFF

/-- Why a bus does not start. -/
inductive StartError where
  /-- The settings make no sense. -/
  | refused (error : BusError)
  /-- A size is beyond what a queue can be made with, which stops the program. -/
  | tooManyPermits
  deriving DecidableEq, Repr

namespace Bus

/-- The bus that settings describe, before the first call. -/
def ofConfig (config : BusConfig) : Bus where
  maxInFlight := config.maxInFlight
  ingressCapacity := config.ingressCapacity
  handlers := []
  closed := false
  nextCall := 0
  calls := []
  admission := .ofPermits config.maxInFlight
  slots := .ofPermits config.ingressCapacity
  ingress := []
  dispatcher := .routing
  workers := []
  errors := { capacity := config.errorBuffer, queued := [], receiver := .unclaimed }
  closing := []
  joinable := true
  handle := .held
  counters := ⟨0, 0, 0, 0, 0⟩

/-- Starts a bus. Neither the budget nor the error stream may be empty. -/
def start (config : BusConfig) : Except StartError Bus :=
  if config.maxInFlight = 0 then
    .error (.refused (.invalidConfig "max_in_flight must be greater than zero"))
  else if config.errorBuffer = 0 then
    .error (.refused (.invalidConfig "error_buffer must be greater than zero"))
  else if greatestPermits < config.maxInFlight ∨ greatestPermits < config.errorBuffer ∨
      greatestPermits < config.ingressCapacity then
    .error .tooManyPermits
  else .ok (ofConfig config)

/-! ## Looking at a bus -/

/-- The worker of a conversation. -/
def worker? (bus : Bus) (key : String) : Option Worker :=
  bus.workers.find? fun worker => worker.key = key

/-- The publish call with a name, while it has not returned. -/
def call? (bus : Bus) (id : CallId) : Option PublishCall :=
  bus.calls.find? fun call => call.id = id

def hasSubscriber (bus : Bus) (topic : Topic) : Bool :=
  (bus.handlers.lookup topic).isSome

/-- The part of the budget that is taken. -/
def inFlight (bus : Bus) : Nat :=
  bus.maxInFlight - bus.admission.free

/-- Nobody can report a failed delivery any more: the bus is closed, the dispatcher is done, and
no close call keeps the stream open. -/
def reportsEnded (bus : Bus) : Bool :=
  bus.closed && bus.dispatcher = .finished && !bus.closing.any (·.waiting)

/-- A line about a bus for diagnostics. -/
def summary (bus : Bus) : String :=
  "Bus \x7b max_in_flight: " ++ toString bus.maxInFlight ++
    ", in_flight: " ++ toString bus.inFlight ++
    ", workers: " ++ toString bus.counters.workers ++
    ", subscribed_topics: " ++ toString bus.handlers.length ++ " \x7d"

end Bus

end ConversationBus
