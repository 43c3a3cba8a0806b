import ConversationBus.Bus.Basic

/-!
# The steps of a bus

Callers, the dispatcher and the workers act on the state in steps, in any order in which the steps
are possible. What a step shows to the outside is told as events.
-/

namespace ConversationBus.Bus

/-! ## Subscribing -/

/-- Makes a handler the one of a topic. -/
def subscribe (bus : Bus) (topic : String) (handler : HandlerId) : Except BusError Bus :=
  match resolveTopic topic with
  | .error error => .error (.invalid error)
  | .ok topic =>
    if bus.closed then .error .closed
    else if bus.hasSubscriber topic then .error (.topicAlreadyHandled topic.name)
    else .ok { bus with handlers := bus.handlers ++ [(topic, handler)] }

/-! ## Publishing -/

/-- Checks that the bus takes a message, and finds its topic. -/
def accept (bus : Bus) (message : Message) : Except BusError Topic :=
  match message.validate with
  | .error error => .error (.invalid error)
  | .ok topic =>
    if bus.closed then .error .closed
    else if bus.hasSubscriber topic then .ok topic
    else .error (.noSubscriber topic.name)

/-- Puts a message with its permit and its place into the ingress queue, which ends its call. -/
def enqueue (bus : Bus) (admitted : Admitted) : Bus × List Event :=
  ({ bus with
      ingress := bus.ingress ++ [admitted]
      counters := { bus.counters with published := bus.counters.published + 1 } },
    [.queued admitted, .returned admitted.call (.ok ())])

/-- Leaves a publish call to wait. -/
def suspend (bus : Bus) (call : PublishCall) : Bus :=
  { bus with calls := bus.calls ++ [call] }

/-- Hands over a message with its permit, or waits for a place. -/
def handOff (bus : Bus) (admitted : Admitted) : Bus × List Event :=
  match bus.slots.request admitted.call with
  | (slots, true) => { bus with slots }.enqueue admitted
  | (slots, false) => ({ bus with slots }.suspend ⟨admitted, .handOff, true, false⟩, [])

/-- Goes on with a message that has its permit, unless the call is put off before the hand-off. -/
def proceed (bus : Bus) (admitted : Admitted) (putOff : Option PublishStage) : Bus × List Event :=
  if putOff = some .handOff then (bus.suspend ⟨admitted, .handOff, false, false⟩, [])
  else bus.handOff admitted

/-- Takes a permit for a message, or waits for one. -/
def enter (bus : Bus) (admitted : Admitted) (putOff : Option PublishStage) : Bus × List Event :=
  match bus.admission.request admitted.call with
  | (admission, true) => { bus with admission }.proceed admitted putOff
  | (admission, false) => ({ bus with admission }.suspend ⟨admitted, .admission, true, false⟩, [])

/-- Begins a publish call. Where tasks take turns, the call may be put off at one of its waits
before it asks for what it needs there. -/
def publish (bus : Bus) (message : Message) (cancelled : Bool) (putOff : Option PublishStage) :
    Bus × List Event :=
  let call := bus.nextCall
  let bus := { bus with nextCall := call + 1 }
  match bus.accept message with
  | .error error => (bus, [.called call message, .returned call (.error error)])
  | .ok topic =>
    if putOff = some .admission then
      (bus.suspend ⟨⟨call, message, topic⟩, .admission, false, cancelled⟩, [.called call message])
    else if cancelled then (bus, [.called call message, .returned call (.error .cancelled)])
    else
      let (bus, events) := bus.enter ⟨call, message, topic⟩ putOff
      (bus, .called call message :: events)

/-- Tells a publish call that its caller has given up. -/
def cancel (bus : Bus) (id : CallId) : Bus :=
  { bus with
    calls := bus.calls.map fun call =>
      if call.id = id then { call with cancelled := true } else call }

/-- Takes a publish call off the list of those that wait. -/
def removeCall (bus : Bus) (id : CallId) : Bus :=
  { bus with calls := bus.calls.filter fun call => call.id ≠ id }

/-- Ends a publish call that waits. What it holds is given back, and its message is gone. -/
def withdraw (bus : Bus) (call : PublishCall) : Bus :=
  let bus := bus.removeCall call.id
  match call.stage with
  | .admission => { bus with admission := bus.admission.withdraw call.id }
  | .handOff =>
    { bus with slots := bus.slots.withdraw call.id, admission := bus.admission.release }

/-- Goes on with a publish call: the closing of the bus comes first, the caller's giving up second,
and what the call waits for third. A call that was put off asks for it now. -/
def resume (bus : Bus) (id : CallId) (putOff : Option PublishStage) :
    Option (Bus × List Event) := do
  let call ← bus.call? id
  if bus.closed then some (bus.withdraw call, [.returned id (.error .closed)])
  else if call.cancelled then some (bus.withdraw call, [.returned id (.error .cancelled)])
  else match call.stage, call.inRow with
    | .admission, false => some ((bus.removeCall id).enter call.admitted putOff)
    | .admission, true => do
      let admission ← bus.admission.collect? id
      some (({ bus with admission }.removeCall id).proceed call.admitted putOff)
    | .handOff, false => some ((bus.removeCall id).handOff call.admitted)
    | .handOff, true => do
      let slots ← bus.slots.collect? id
      some (({ bus with slots }.removeCall id).enqueue call.admitted)

/-- Ends a publish call that its caller does not wait for any more. -/
def abandon (bus : Bus) (id : CallId) : Option Bus :=
  (bus.call? id).map bus.withdraw

/-! ## Reporting -/

/-- Reports a failed delivery, if there is room on the error stream. -/
def report (bus : Bus) (report : DeliveryError) : Bus × List Event :=
  let bus := { bus with counters := { bus.counters with failed := bus.counters.failed + 1 } }
  if bus.errors.receiver = .dropped then (bus, [.reported report .unheard])
  else if bus.errors.queued.length < bus.errors.capacity then
    ({ bus with errors := { bus.errors with queued := bus.errors.queued ++ [report] } },
      [.reported report .queued])
  else
    ({ bus with
        counters := { bus.counters with droppedErrors := bus.counters.droppedErrors + 1 } },
      [.reported report .overflowed])

/-- Takes the receiving end of the error stream, which can be done once. -/
def takeErrors (bus : Bus) : Option Bus :=
  if bus.errors.receiver = .unclaimed then
    some { bus with errors := { bus.errors with receiver := .taken } }
  else none

def receive (bus : Bus) : Option (Bus × List Event) :=
  if bus.errors.receiver = .taken then
    match bus.errors.queued with
    | [] => none
    | report :: queued =>
      some ({ bus with errors := { bus.errors with queued } }, [.received report])
  else none

def dropReceiver (bus : Bus) : Bus × List Event :=
  ({ bus with errors := { bus.errors with receiver := .dropped, queued := [] } },
    bus.errors.queued.map .discarded)

/-- Lets the consumer drop the receiving end of the error stream. -/
def dropErrors (bus : Bus) : Option (Bus × List Event) :=
  if bus.errors.receiver = .taken then some bus.dropReceiver else none

/-! ## Dispatching -/

/-- Puts a worker in place of the one of its conversation. -/
def setWorker (bus : Bus) (worker : Worker) : Bus :=
  { bus with
    workers := bus.workers.map fun other => if other.key = worker.key then worker else other }

def releasePermit (bus : Bus) : Bus :=
  { bus with admission := bus.admission.release }

/-- Hands a message to the worker of its conversation. The first message of a conversation starts
its worker. -/
def assign (bus : Bus) (admitted : Admitted) (now : Instant) : Bus × List Event :=
  match bus.worker? admitted.key with
  | none =>
    ({ bus with
        workers := bus.workers ++ [⟨admitted.key, [admitted], none, false⟩]
        counters := { bus.counters with workers := bus.counters.workers + 1 } }, [])
  | some worker =>
    if worker.stopped then
      let others := bus.workers.filter fun other => other.key ≠ worker.key
      let (bus, events) := { bus with workers := others }.releasePermit.report
        ⟨admitted.message, "conversation worker is not running", .dispatch, now⟩
      (bus, .dropped admitted :: events)
    else (bus.setWorker { worker with queue := worker.queue ++ [admitted] }, [])

/-- Moves the oldest message of the ingress queue to its worker. -/
def route (bus : Bus) (now : Instant) : Option (Bus × List Event) :=
  match bus.dispatcher, bus.ingress with
  | .routing, admitted :: ingress =>
    some ({ bus with ingress, slots := bus.slots.release }.assign admitted now)
  | _, _ => none

/-- Ends the routing, when no message can come any more. -/
def drain (bus : Bus) : Option Bus :=
  if bus.dispatcher = .routing ∧ bus.closed ∧ bus.calls = [] ∧ bus.ingress = [] then
    some { bus with dispatcher := .draining }
  else none

/-- Ends the dispatcher, when all workers have stopped. -/
def halt (bus : Bus) : Option Bus :=
  if bus.dispatcher = .draining ∧ bus.workers.all (·.stopped) then
    some { bus with dispatcher := .finished }
  else none

/-! ## Handling -/

/-- Ends the handling of a message: its permit is given back, and the outcome is counted. -/
def conclude (bus : Bus) (admitted : Admitted) (failure : Option String) (now : Instant) :
    Bus × List Event :=
  let bus := bus.releasePermit
  match failure with
  | none =>
    ({ bus with counters := { bus.counters with delivered := bus.counters.delivered + 1 } }, [])
  | some error => bus.report ⟨admitted.message, error, .handler, now⟩

/-- Lets a worker take its next message and call the handler. -/
def begin (bus : Bus) (key : String) (now : Instant) : Option (Bus × List Event) := do
  let worker ← bus.worker? key
  match worker.running, worker.queue with
  | none, admitted :: queue =>
    match bus.handlers.lookup admitted.topic with
    | some handler =>
      let running : Running := ⟨admitted, handler⟩
      some (bus.setWorker { worker with queue, running := some running }, [.started running])
    | none =>
      some ((bus.setWorker { worker with queue }).conclude admitted
        (some s!"no handler registered for topic '{admitted.topic.name}'") now)
  | _, _ => none

/-- Ends a handler call. -/
def finish (bus : Bus) (key : String) (outcome : Outcome) (now : Instant) :
    Option (Bus × List Event) := do
  let worker ← bus.worker? key
  let running ← worker.running
  let (bus, events) :=
    (bus.setWorker { worker with running := none }).conclude running.admitted outcome.failure? now
  some (bus, .ended running outcome :: events)

/-- Breaks a worker off at the end of a handler call that failed with an error which cannot be put
into words. The worker drops the messages that it has, with their permits. -/
def breakOff (bus : Bus) (key : String) : Option (Bus × List Event) := do
  let worker ← bus.worker? key
  let running ← worker.running
  some ({ bus.setWorker { worker with queue := [], running := none, stopped := true } with
      admission := Nat.repeat Semaphore.release (worker.queue.length + 1) bus.admission },
    .brokenOff running :: worker.queue.map .dropped)

/-- Stops a worker that has nothing to do and will get nothing any more. -/
def retire (bus : Bus) (key : String) : Option Bus := do
  let worker ← bus.worker? key
  if bus.dispatcher = .draining ∧ worker.running = none ∧ worker.queue = [] ∧
      worker.stopped = false then
    some (bus.setWorker { worker with stopped := true })
  else none

/-! ## Closing -/

/-- Goes on with a close call when it has its turn. It closes the bus; the first one then waits for
the dispatcher. -/
def resumeClose (bus : Bus) (id : CallId) : Option (Bus × List Event) :=
  match bus.closing with
  | [] => none
  | head :: rest =>
    if head.id ≠ id then none
    else if head.waiting then
      if bus.dispatcher = .finished then
        some ({ bus with closing := rest }, [.closeReturned id])
      else none
    else
      let closed := { bus with closed := true, joinable := false }
      if bus.joinable ∧ bus.dispatcher ≠ .finished then
        some ({ closed with closing := ⟨id, true⟩ :: rest }, [])
      else some ({ closed with closing := rest }, [.closeReturned id])

/-- Begins a close call, which joins the row of those that wait for their turn. -/
def close (bus : Bus) : Bus × List Event :=
  let call := bus.nextCall
  let bus : Bus := { bus with nextCall := call + 1, closing := bus.closing ++ [⟨call, false⟩] }
  (bus.resumeClose call).getD (bus, [])

/-- The close calls with a name. There is at most one. -/
def closeCalls (bus : Bus) (id : CallId) : List CloseCall :=
  bus.closing.filter fun call => call.id = id

/-- Ends a close call that its caller does not wait for any more. What it has done stays done. -/
def abandonClose (bus : Bus) (id : CallId) : Bus :=
  { bus with closing := bus.closing.filter fun call => call.id ≠ id }

/-- Gives up the owner's handle. -/
def letGo (bus : Bus) : Bus :=
  if bus.handle = .held then { bus with handle := .released } else bus

/-- Drops a bus that was given up, once no call uses it. It is closed without waiting, and an
error stream that nobody took has nobody to listen to it. -/
def drop (bus : Bus) : Option (Bus × List Event) :=
  if bus.handle = .released ∧ bus.calls = [] ∧ bus.closing = [] then
    let bus := { bus with closed := true, handle := .dropped }
    some (if bus.errors.receiver = .unclaimed then bus.dropReceiver else (bus, []))
  else none

/-! ## All steps -/

inductive Step where
  | subscribe (topic : String) (handler : HandlerId)
  | publish (message : Message) (cancelled : Bool) (putOff : Option PublishStage)
  | cancel (call : CallId)
  | resume (call : CallId) (putOff : Option PublishStage)
  | abandon (call : CallId)
  | close
  | resumeClose (call : CallId)
  | abandonClose (call : CallId)
  | route (now : Instant)
  | begin (key : String) (now : Instant)
  | finish (key : String) (outcome : Outcome) (now : Instant)
  | drain
  | retire (key : String)
  | halt
  | takeErrors
  | receive
  | dropErrors
  | letGo
  | drop

/-- A step without events. -/
def quietly (bus : Bus) : Bus × List Event :=
  (bus, [])

/-- Lets a caller use the handle of the bus, while it is held. -/
def whileHeld (bus : Bus) (result : Option (Bus × List Event)) : Option (Bus × List Event) :=
  if bus.handle = .held then result else none

def step? (bus : Bus) : Step → Option (Bus × List Event)
  | .subscribe topic handler =>
    bus.whileHeld <| match bus.subscribe topic handler with
      | .ok next => some next.quietly
      | .error _ => some bus.quietly
  | .publish message cancelled putOff =>
    bus.whileHeld (some (bus.publish message cancelled putOff))
  | .cancel call => some (bus.cancel call).quietly
  | .resume call putOff => bus.resume call putOff
  | .abandon call => (bus.abandon call).map fun next => (next, [.abandoned call])
  | .close => bus.whileHeld (some bus.close)
  | .resumeClose call => bus.resumeClose call
  | .abandonClose call => some (bus.abandonClose call, (bus.closeCalls call).map .closeAbandoned)
  | .route now => bus.route now
  | .begin key now => bus.begin key now
  | .finish key outcome now => bus.finish key outcome now
  | .drain => bus.drain.map quietly
  | .retire key => (bus.retire key).map quietly
  | .halt => bus.halt.map quietly
  | .takeErrors => bus.takeErrors.map quietly
  | .receive => bus.receive
  | .dropErrors => bus.dropErrors
  | .letGo => some bus.letGo.quietly
  | .drop => bus.drop

end ConversationBus.Bus
