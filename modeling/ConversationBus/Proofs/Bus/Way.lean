import ConversationBus.Proofs.Bus.Order

/-!
# Ways that end no handler call

Publish calls, the dispatcher and workers that begin with a message go on without any handler having
to return. Such steps leave the handler calls that run alone, and they break no worker off.
-/

namespace ConversationBus.Bus

/-! ## Kinds of steps -/

def Step.routes : Step → Bool
  | .route _ => true
  | _ => false

/-- The dispatcher moves a message, or the worker of one conversation begins with one. -/
def Step.serves (key : String) : Step → Bool
  | .route _ => true
  | .begin own _ => own = key
  | _ => false

/-- The dispatcher moves a message, or a publish call that waits goes on. -/
def Step.brings : Step → Bool
  | .route _ | .resume _ _ => true
  | _ => false

/-- A message comes a step further, and no handler call ends. -/
def Step.onward : Step → Bool
  | .publish .. | .resume .. | .route .. | .begin .. => true
  | _ => false

/-- Steps of one kind lead from one state to another. -/
inductive Way (kind : Step → Bool) : Bus → List Event → Bus → Prop where
  | refl (bus : Bus) : Way kind bus [] bus
  | head {bus next : Bus} {step : Step} {result : Bus × List Event} {trace : List Event}
      (fits : kind step = true) (taken : bus.step? step = some result)
      (rest : Way kind result.1 trace next) : Way kind bus (result.2 ++ trace) next

variable {config : BusConfig} {bus mid next : Bus} {result : Bus × List Event}
  {admitted : Admitted} {rest : List Admitted} {key : String} {kind : Step → Bool}
  {trace later : List Event}

namespace Way

theorem append (first : Way kind bus trace mid) (rest : Way kind mid later next) :
    Way kind bus (trace ++ later) next := by
  induction first with
  | refl => exact rest
  | head fits taken _ ih =>
      rw [List.append_assoc]
      exact .head fits taken (ih rest)

theorem mono {wider : Step → Bool} (way : Way kind bus trace next)
    (widens : ∀ step, kind step = true → wider step = true) : Way wider bus trace next := by
  induction way with
  | refl => exact .refl _
  | head fits taken _ ih => exact .head (widens _ fits) taken ih

theorem run (way : Way kind bus trace next) : Run bus trace next := by
  induction way with
  | refl => exact .refl _
  | head _ taken _ ih => exact ((Run.refl _).tail taken).append ih

theorem sound (way : Way kind bus trace next) (sound : Sound config bus) : Sound config next := by
  induction way with
  | refl => exact sound
  | head _ taken _ ih => exact ih (sound.step taken)

end Way

theorem Step.serves_of_routes (key : String) (step : Step) (routes : step.routes = true) :
    step.serves key = true := by
  cases step with
  | route => rfl
  | _ => cases routes

theorem Step.onward_of_serves (step : Step) (serves : step.serves key = true) :
    step.onward = true := by
  cases step with
  | route | begin => rfl
  | _ => cases serves

theorem Step.onward_of_brings (step : Step) (brings : step.brings = true) :
    step.onward = true := by
  cases step with
  | route | resume => rfl
  | _ => cases brings

/-! ## The state of a conversation -/

/-- The messages of a conversation that were accepted and not begun with, the oldest first. -/
def waitingFor (bus : Bus) (key : String) : List Admitted :=
  waitingAt (bus.worker? key) ++ ofKey key bus.ingress

/-- The handler call of a conversation, if one is running. -/
def runningFor (bus : Bus) (key : String) : Option Running :=
  (bus.worker? key).bind Worker.running

/-- The worker of a conversation has broken off, at an error that cannot be put into words. In no
other way does a worker stop while the dispatcher routes. -/
def BrokenOff (bus : Bus) (key : String) : Prop :=
  bus.dispatcher = .routing ∧ ∃ worker, bus.worker? key = some worker ∧ worker.stopped = true

/-- A handler call that runs is the only reason why a worker does not begin with a message. -/
theorem runningFor_of_worker {worker : Worker} (found : bus.worker? key = some worker) :
    bus.runningFor key = worker.running := by
  rw [runningFor, found, Option.bind_some]

theorem Run.not_brokenOff (run : Run bus trace next) (started : Bus.start config = .ok bus)
    (key : String) : ¬ next.BrokenOff key := by
  rintro ⟨routing, worker, found, stopped⟩
  have awake := (run.regular_of_start started).awake routing worker (worker?_some found).1
  simp [awake] at stopped

/-! ## The dispatcher -/

/-- Where the dispatcher routes and a message is in the ingress queue, it can move this message. -/
theorem route_possible (routing : bus.dispatcher = .routing)
    (first : bus.ingress = admitted :: rest) :
    ∃ result, bus.step? (.route .epoch) = some result := by
  simp [step?, route, routing, first]

/-- The worker of a conversation after the dispatcher has moved a message of it: a new one, or the
one that was there with the message, or none where that one had stopped. -/
def workerAfter (worker : Option Worker) (admitted : Admitted) : Option Worker :=
  match worker with
  | none => some ⟨admitted.key, [admitted], none, false⟩
  | some worker =>
    if worker.stopped then none else some { worker with queue := worker.queue ++ [admitted] }

theorem workerAfter_awake {worker : Worker} (awake : worker.stopped = false) :
    workerAfter (some worker) admitted =
      some { worker with queue := worker.queue ++ [admitted] } :=
  if_neg (by simp [awake])

theorem workerAfter_stopped {worker : Worker} (stopped : worker.stopped = true) :
    workerAfter (some worker) admitted = none :=
  if_pos stopped

/-- A worker that has a message from the dispatcher has not stopped. -/
theorem awake_of_workerAfter {worker : Option Worker} {after : Worker}
    (found : workerAfter worker admitted = some after) : after.stopped = false := by
  cases worker with
  | none =>
      cases found
      rfl
  | some worker =>
      cases stopped : worker.stopped with
      | true =>
          rw [workerAfter_stopped stopped] at found
          cases found
      | false =>
          rw [workerAfter_awake stopped] at found
          cases found
          exact stopped

/-- What changes when the dispatcher moves a message. -/
structure Moved (bus next : Bus) (admitted : Admitted) (rest : List Admitted) : Prop where
  routed : bus.dispatcher = .routing
  ingress : next.ingress = rest
  dispatcher : next.dispatcher = .routing
  calls : next.calls = bus.calls
  slots : next.slots = bus.slots.release
  closed : next.closed = bus.closed
  handle : next.handle = bus.handle
  handlers : next.handlers = bus.handlers
  free : bus.admission.free ≤ next.admission.free
  worker : ∀ key, next.worker? key =
    if key = admitted.key then workerAfter (bus.worker? admitted.key) admitted else bus.worker? key

theorem Routed.moved (routed : Routed bus result) (first : bus.ingress = admitted :: rest) :
    Moved bus result.1 admitted rest := by
  cases routed with
  | hired routing same absent =>
      cases same.symm.trans first
      refine ⟨routing, rfl, routing, rfl, rfl, rfl, rfl, rfl, Nat.le_refl _, ?_⟩
      rw [absent]
      exact worker?_append ⟨admitted.key, [admitted], none, false⟩ absent rfl
  | @assigned _ _ worker routing same found awake =>
      cases same.symm.trans first
      refine ⟨routing, rfl, routing, rfl, rfl, rfl, rfl, rfl, Nat.le_refl _, ?_⟩
      have present : { bus with ingress := rest, slots := bus.slots.release }.worker?
          admitted.key = some worker := found
      rw [found, workerAfter_awake awake]
      exact worker?_setWorker present { worker with queue := worker.queue ++ [admitted] }
        (worker?_some found).2
  | rejected rejected =>
      cases rejected with
      | @intro _ _ worker _ _ _ now routing same found stopped =>
          cases same.symm.trans first
          refine ⟨routing, rfl, routing, rfl, rfl, rfl, rfl, rfl, Semaphore.free_le_release _, ?_⟩
          rw [found, workerAfter_stopped stopped]
          exact worker?_filter_ne admitted.key rfl

theorem Routed.exists_first (routed : Routed bus result) :
    ∃ admitted rest, bus.ingress = admitted :: rest := by
  cases routed with
  | hired _ first | assigned _ first => exact ⟨_, _, first⟩
  | rejected rejected =>
      cases rejected with
      | intro _ _ first => exact ⟨_, _, first⟩

/-! ## What such steps leave alone -/

/-- The handler calls that run go on, no worker has broken off, and the bus is as open as before. -/
structure Undisturbed (bus next : Bus) : Prop where
  closed : next.closed = bus.closed
  handle : next.handle = bus.handle
  handlers : next.handlers = bus.handlers
  running : ∀ key running, bus.runningFor key = some running → next.runningFor key = some running
  intact : ∀ key, next.BrokenOff key → bus.BrokenOff key

namespace Undisturbed

theorem refl (bus : Bus) : Undisturbed bus bus :=
  ⟨rfl, rfl, rfl, fun _ _ running => running, fun _ broken => broken⟩

theorem trans (first : Undisturbed bus mid) (rest : Undisturbed mid next) :
    Undisturbed bus next where
  closed := rest.closed.trans first.closed
  handle := rest.handle.trans first.handle
  handlers := rest.handlers.trans first.handlers
  running := fun key running busy => rest.running key running (first.running key running busy)
  intact := fun key broken => first.intact key (rest.intact key broken)

theorem of_workers (closed : next.closed = bus.closed) (handle : next.handle = bus.handle)
    (handlers : next.handlers = bus.handlers) (dispatcher : next.dispatcher = bus.dispatcher)
    (workers : next.workers = bus.workers) : Undisturbed bus next where
  closed := closed
  handle := handle
  handlers := handlers
  running := by
    intro key running busy
    rwa [runningFor, worker?, workers]
  intact := by
    intro key broken
    rwa [BrokenOff, worker?, dispatcher, workers] at broken

end Undisturbed

theorem Publishing.undisturbed (publishing : Publishing bus result) :
    Undisturbed bus result.1 := by
  cases publishing with
  | intro => exact .of_workers rfl rfl rfl rfl rfl

/-- A worker that is changed and goes on with its handler call disturbs nobody. -/
theorem undisturbed_setWorker {old new : Worker} (found : bus.worker? key = some old)
    (same : new.key = key)
    (running : ∀ running, old.running = some running → new.running = some running)
    (stopped : new.stopped = old.stopped) : Undisturbed bus (bus.setWorker new) where
  closed := rfl
  handle := rfl
  handlers := rfl
  running := by
    intro other call busy
    rw [runningFor, worker?_setWorker found new same other]
    split
    next equal =>
      subst equal
      rw [runningFor_of_worker found] at busy
      exact running call busy
    next => exact busy
  intact := by
    intro other broken
    rcases broken with ⟨routing, worker, present, ended⟩
    rw [worker?_setWorker found new same other] at present
    split at present
    next equal =>
      cases present
      exact ⟨routing, old, equal ▸ found, stopped ▸ ended⟩
    next => exact ⟨routing, worker, present, ended⟩

theorem Moved.undisturbed (moved : Moved bus next admitted rest) (books : Books config bus 0 0) :
    Undisturbed bus next where
  closed := moved.closed
  handle := moved.handle
  handlers := moved.handlers
  running := by
    intro key running busy
    rw [runningFor, moved.worker]
    split
    next same =>
      subst same
      rcases Option.bind_eq_some_iff.mp busy with ⟨worker, found, atHandler⟩
      cases stopped : worker.stopped with
      | true =>
          have idle := (books.idle_of_stopped (worker?_some found).1 stopped).2
          cases idle.symm.trans atHandler
      | false =>
          rw [found, workerAfter_awake stopped]
          exact atHandler
    next => exact busy
  intact := by
    rintro key ⟨_, worker, found, stopped⟩
    rw [moved.worker] at found
    split at found
    next => simp [awake_of_workerAfter found] at stopped
    next => exact ⟨moved.routed, worker, found, stopped⟩

theorem begin_undisturbed (sound : Sound config bus) {now : Instant}
    (begun : bus.begin key now = some result) : Undisturbed bus result.1 := by
  rcases begin_some sound.served.queued begun with
    ⟨worker, admitted, queue, handler, found, idle, first, known, rfl⟩
  exact undisturbed_setWorker found (worker?_some found).2 (by simp [idle]) rfl

/-- A way on which no handler call ends disturbs nobody. -/
theorem Way.undisturbed (way : Way kind bus trace next) (sound : Sound config bus)
    (onward : ∀ step, kind step = true → step.onward = true) : Undisturbed bus next := by
  induction way with
  | refl => exact .refl _
  | @head bus next step result trace fits taken _ ih =>
      have others := ih (sound.step taken)
      have further := onward step fits
      cases step with
      | publish message cancelled putOff =>
          rcases whileHeld_some taken with ⟨_, taken⟩
          cases taken
          obtain ⟨mid, events, equal, publishing⟩ := publish_publishing bus message cancelled putOff
          rw [equal] at others
          exact publishing.undisturbed.trans others
      | resume call putOff => exact (resume_publishing taken).undisturbed.trans others
      | route now =>
          have routed := route_routed taken
          rcases routed.exists_first with ⟨admitted, rest, first⟩
          exact ((routed.moved first).undisturbed sound.toBooks).trans others
      | begin key now => exact (begin_undisturbed sound taken).trans others
      | _ => cases further

end ConversationBus.Bus
