import ConversationBus.Bus.Step
import ConversationBus.Flow.Basic
import ConversationBus.Store.Basic

/-!
# Tasks over a bus and a store

A system is a bus, a store and a number of tasks, each of which runs a flow. The tasks, the
dispatcher and the workers move in any order in which their moves are possible; a flow that waits
for the bus moves on when its call returns.
-/

namespace ConversationBus

/-- A flow on its way. -/
structure Task (α : Type) where
  name : String
  flow : Flow α
  /-- The bus call that the flow waits for. -/
  pending : Option CallId
  /-- The caller has given up. -/
  cancelled : Bool

namespace Task

variable {α : Type}

def begin (name : String) (cancelled : Bool) (flow : Flow α) : Task α :=
  { name, flow, pending := none, cancelled }

/-- The task after an answer. -/
def goOn (task : Task α) (flow : Flow α) : Task α :=
  { task with flow, pending := none }

end Task

/-- What the events say about the result of a publish call. -/
def publishResult? (call : CallId) : List Event → Option (Except BusError Unit)
  | [] => none
  | .returned other result :: rest =>
    if other = call then some result else publishResult? call rest
  | _ :: rest => publishResult? call rest

/-- Whether the events say that a close call returned. -/
def closeReturned (call : CallId) : List Event → Bool
  | [] => false
  | .closeReturned other :: rest => other = call || closeReturned call rest
  | _ :: rest => closeReturned call rest

/-- A bus, a store, a clock and tasks. -/
structure System (σ α : Type) where
  bus : Bus
  backing : FaultyStore σ
  clock : Instant
  tasks : List (Task α)

/-- A move of a system. -/
inductive Move where
  /-- A task takes its next action, or goes on with its bus call. A publish call may be put off. -/
  | task (index : Nat) (putOff : Option PublishStage)
  /-- The bus takes a step of its own. -/
  | bus (step : Bus.Step)

namespace System

variable {σ α : Type}

/-- Puts a task back that has moved. -/
def putTask (system : System σ α) (index : Nat) (task : Task α) : System σ α :=
  { system with tasks := system.tasks.set index task }

/-- Goes on with a task that waits for a publish call. -/
def afterPublish (system : System σ α) (index : Nat) (task : Task α) (call : CallId)
    (next : Except BusError Unit → Flow α) (result : Bus × List Event) :
    System σ α × List Event :=
  let (bus, events) := result
  let task := match publishResult? call events with
    | some answer => task.goOn (next answer)
    | none => { task with pending := some call }
  ({ system with bus }.putTask index task, events)

/-- Goes on with a task that waits for a close call. -/
def afterClose (system : System σ α) (index : Nat) (task : Task α) (call : CallId)
    (next : Except BusError Unit → Flow α) (result : Bus × List Event) :
    System σ α × List Event :=
  let (bus, events) := result
  let task :=
    if closeReturned call events then task.goOn (next (.ok ()))
    else { task with pending := some call }
  ({ system with bus }.putTask index task, events)

/-- Goes on with a task that got an answer from the store. -/
def afterStore {β : Type} (system : System σ α) (index : Nat) (task : Task α)
    (next : β → Flow α) (result : β × FaultyStore σ) : System σ α × List Event :=
  let (answer, backing) := result
  ({ system with backing }.putTask index (task.goOn (next answer)), [])

variable [RecordStore σ]

def moveTask (system : System σ α) (index : Nat) (putOff : Option PublishStage) :
    Option (System σ α × List Event) := do
  let task ← system.tasks[index]?
  match task.flow with
  | .done _ => none
  | .act (.findInbox channel id) next =>
    some (system.afterStore index task next (system.backing.findInbox channel id))
  | .act (.saveInbox record) next =>
    some (system.afterStore index task next (system.backing.saveInbox record))
  | .act (.findOutbox channel key) next =>
    some (system.afterStore index task next (system.backing.findOutbox channel key))
  | .act (.saveOutbox record) next =>
    some (system.afterStore index task next (system.backing.saveOutbox record))
  | .act (.publish message) next =>
    match task.pending with
    | none =>
      (system.bus.step? (.publish message task.cancelled putOff)).map
        (system.afterPublish index task system.bus.nextCall next)
    | some call =>
      (system.bus.step? (.resume call putOff)).map (system.afterPublish index task call next)
  | .act .close next =>
    match task.pending with
    | none =>
      (system.bus.step? .close).map (system.afterClose index task system.bus.nextCall next)
    | some call =>
      (system.bus.step? (.resumeClose call)).map (system.afterClose index task call next)
  | .act .send _ => none
  | .act .now next => some (system.putTask index (task.goOn (next system.clock)), [])
  | .act .cancelled next => some (system.putTask index (task.goOn (next task.cancelled)), [])

def move? (system : System σ α) : Move → Option (System σ α × List Event)
  | .task index putOff => system.moveTask index putOff
  | .bus step =>
    (system.bus.step? step).map fun (bus, events) => ({ system with bus }, events)

omit [RecordStore σ] in
/-- Lets the caller of a task give up. -/
def cancelTask (system : System σ α) (index : Nat) : System σ α :=
  match system.tasks[index]? with
  | none => system
  | some task =>
    let system := system.putTask index { task with cancelled := true }
    match task.pending with
    | none => system
    | some call => { system with bus := system.bus.cancel call }

omit [RecordStore σ] in
/-- Drops a task, with the bus call that it waits for. -/
def abortTask (system : System σ α) (index : Nat) : System σ α :=
  match system.tasks[index]? with
  | none => system
  | some task =>
    let system := { system with tasks := system.tasks.eraseIdx index }
    match task.pending with
    | none => system
    | some call =>
      { system with bus := ((system.bus.abandon call).getD system.bus).abandonClose call }

/-! ## Running on -/

omit [RecordStore σ] in
/-- The moves of a worker, where `ending` says which handler calls end now and how. -/
def workerMoves (now : Instant) (ending : Running → Option Outcome) (worker : Worker) :
    List Move :=
  match worker.running with
  | some running =>
    match ending running with
    | some outcome => [.bus (.finish worker.key outcome now)]
    | none => []
  | none => [.bus (.begin worker.key now), .bus (.retire worker.key)]

omit [RecordStore σ] in
/-- The moves that are tried, in this order: tasks, the dispatcher, workers, and the end. No call is
put off. -/
def candidates (system : System σ α) (ending : Running → Option Outcome) : List Move :=
  (List.range system.tasks.length).map (.task · none) ++ [.bus (.route system.clock)] ++
    system.bus.workers.flatMap (workerMoves system.clock ending) ++
    [.bus .drain, .bus .halt, .bus .drop]

def next? (system : System σ α) (ending : Running → Option Outcome) :
    Option (System σ α × List Event) :=
  (system.candidates ending).findSome? system.move?

end System

end ConversationBus
