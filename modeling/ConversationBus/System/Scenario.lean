import ConversationBus.Store.Table
import ConversationBus.System.Basic

/-!
# Scenarios

A system whose handlers follow a script: for each send, whether the handler shows the message,
which gate it waits at, and how it ends. After each step of a scenario the system moves until
nothing can, so that the results of a step are definite.
-/

namespace ConversationBus

/-- What a handler does with a message. -/
structure Script where
  /-- The handler logs the whole message. -/
  shows : Bool
  /-- The handler waits for one permit of this gate. -/
  gate : Option String
  outcome : Outcome
  deriving DecidableEq, Repr

/-- A handler that succeeds at once. -/
def Script.plain : Script :=
  { shows := false, gate := none, outcome := .succeeded }

/-- What a handler logs. -/
inductive LogEntry where
  | started (topic : Topic) (idempotencyKey : String)
  | shown (message : Message)
  | ended (topic : Topic) (idempotencyKey : String)
  deriving DecidableEq

/-- A system with scripted handlers. -/
structure Scenario (σ α : Type) where
  system : System σ α
  /-- The script for each idempotency key. -/
  script : String → Script
  /-- Permits of each gate, and the handler calls that wait for them. -/
  gates : Table String Semaphore
  /-- What handlers logged in the current step, with their conversations. -/
  log : List (String × LogEntry)
  /-- The number of tasks that were begun without a name. -/
  unnamed : Nat
  /-- The number of moves after which a step ends in any case. -/
  patience : Nat

namespace Scenario

variable {σ α : Type}

/-- The scenario over a bus and a store before the first step. -/
def start (bus : Bus) (store : σ) (script : String → Script) (patience : Nat) : Scenario σ α where
  system := { bus, backing := .sound store, clock := default, tasks := [] }
  script
  gates := .empty
  log := []
  unnamed := 0
  patience

/-! ## Gates -/

/-- A gate, which has no permits until some are added. -/
def gate (scenario : Scenario σ α) (name : String) : Semaphore :=
  (scenario.gates.find? name).getD (.ofPermits 0)

def setGate (scenario : Scenario σ α) (name : String) (gate : Semaphore) : Scenario σ α :=
  { scenario with gates := scenario.gates.put name gate }

/-- Lets a handler call wait at a gate. -/
def arrive (gate : Semaphore) (call : CallId) : Semaphore :=
  match gate.request call with
  | (rest, true) => { rest with granted := rest.granted ++ [call] }
  | (row, false) => row

def release (scenario : Scenario σ α) (name : String) (count : Nat) : Scenario σ α :=
  scenario.setGate name (Nat.repeat Semaphore.release count (scenario.gate name))

/-- How a handler call ends, if it does not wait at its gate. -/
def ending (scenario : Scenario σ α) (running : Running) : Option Outcome :=
  let script := scenario.script running.admitted.message.idempotencyKey
  match script.gate with
  | none => some script.outcome
  | some name =>
    if running.admitted.call ∈ (scenario.gate name).granted then some script.outcome else none

/-! ## Handlers -/

/-- Appends to the log of a conversation. -/
def write (scenario : Scenario σ α) (admitted : Admitted) (entries : List LogEntry) :
    Scenario σ α :=
  { scenario with log := scenario.log ++ entries.map (admitted.key, ·) }

/-- Lets the handlers act on an event. -/
def absorb (scenario : Scenario σ α) (event : Event) : Scenario σ α :=
  match event with
  | .started running =>
    let message := running.admitted.message
    let script := scenario.script message.idempotencyKey
    let scenario := scenario.write running.admitted
      (.started running.admitted.topic message.idempotencyKey ::
        if script.shows then [.shown message] else [])
    match script.gate with
    | none => scenario
    | some name => scenario.setGate name (arrive (scenario.gate name) running.admitted.call)
  | .ended running _ =>
    let message := running.admitted.message
    let scenario := scenario.write running.admitted
      [.ended running.admitted.topic message.idempotencyKey]
    match (scenario.script message.idempotencyKey).gate with
    | none => scenario
    | some name =>
      let gate := scenario.gate name
      scenario.setGate name ((gate.collect? running.admitted.call).getD gate)
  | _ => scenario

variable [RecordStore σ]

/-- Moves on until nothing can, or until the given number of moves is made. -/
def settleIn : Nat → Scenario σ α → Scenario σ α
  | 0, scenario => scenario
  | moves + 1, scenario =>
    match scenario.system.next? scenario.ending with
    | none => scenario
    | some (system, events) => (events.foldl absorb { scenario with system }).settleIn moves

/-- Moves on until nothing can. -/
def settle (scenario : Scenario σ α) : Scenario σ α :=
  scenario.settleIn scenario.patience

/-! ## Steps -/

omit [RecordStore σ] in
/-- Begins a step at a time, with an empty log. -/
def beginStep (scenario : Scenario σ α) (now : Instant) : Scenario σ α :=
  { scenario with system := { scenario.system with clock := now }, log := [] }

omit [RecordStore σ] in
/-- Begins a task. One that is given no name goes by its number. -/
def beginTask (scenario : Scenario σ α) (name : Option String) (cancelled : Bool)
    (flow : Flow α) : String × Scenario σ α :=
  let (name, unnamed) := match name with
    | some name => (name, scenario.unnamed)
    | none => ("#" ++ toString (scenario.unnamed + 1), scenario.unnamed + 1)
  let task := Task.begin name cancelled flow
  (name, { scenario with
    system := { scenario.system with tasks := scenario.system.tasks ++ [task] }, unnamed })

omit [RecordStore σ] in
/-- The place of a task. -/
def taskIndex? (scenario : Scenario σ α) (name : String) : Option Nat :=
  scenario.system.tasks.findIdx? fun task => task.name = name

omit [RecordStore σ] in
/-- The results of the tasks that have come to their ends, and the scenario without them. -/
def collect (scenario : Scenario σ α) : List (String × α) × Scenario σ α :=
  let tasks := scenario.system.tasks
  (tasks.filterMap fun task => task.flow.result?.map (task.name, ·),
    { scenario with
      system := { scenario.system with
        tasks := tasks.filter fun task => task.flow.result?.isNone } })

omit [RecordStore σ] in
/-- Receives all reports that are on the error stream. -/
def receiveAll (scenario : Scenario σ α) : List DeliveryError × Scenario σ α :=
  let bus := scenario.system.bus
  let received := Nat.repeat
    (fun (reports, bus) => match bus.receive with
      | some (bus, [.received report]) => (reports ++ [report], bus)
      | _ => (reports, bus))
    bus.errors.queued.length (([] : List DeliveryError), bus)
  (received.1, { scenario with system := { scenario.system with bus := received.2 } })

end Scenario

end ConversationBus
