import ConversationBus.Proofs.Bus.Change

/-!
# A sound bus

Every message on its way is valid, has a handler and is with the worker of its conversation. The
dispatcher goes on to drain only when no message can come any more, and it finishes only when all
workers have stopped. This holds also where workers break off. Where none does, every worker is
there until the dispatcher drains.
-/

namespace ConversationBus

def Admitted.Valid (admitted : Admitted) : Prop :=
  admitted.message.validate = .ok admitted.topic

/-- A worker has messages of its own conversation only. -/
structure Worker.AtHome (worker : Worker) : Prop where
  queue : ∀ admitted ∈ worker.queue, admitted.key = worker.key
  running : ∀ running, worker.running = some running → running.admitted.key = worker.key

namespace Worker.AtHome

variable {worker : Worker} {admitted : Admitted} {queue : List Admitted}

theorem queued (home : worker.AtHome) (own : admitted.key = worker.key) :
    Worker.AtHome { worker with queue := worker.queue ++ [admitted] } where
  queue := List.forall_mem_append.mpr ⟨home.queue, List.forall_mem_singleton.mpr own⟩
  running := home.running

theorem began (home : worker.AtHome) (first : worker.queue = admitted :: queue)
    (handler : HandlerId) :
    Worker.AtHome { worker with queue, running := some ⟨admitted, handler⟩ } where
  queue := fun other member => home.queue other (first ▸ List.mem_cons_of_mem _ member)
  running := by
    rintro _ ⟨rfl⟩
    exact home.queue admitted (first ▸ List.mem_cons_self)

theorem done (home : worker.AtHome) : Worker.AtHome { worker with running := none } where
  queue := home.queue
  running := by simp

end Worker.AtHome

namespace Bus

variable {config : BusConfig} {bus next : Bus} {result : Bus × List Event} {admitted : Admitted}
  {property : Admitted → Prop} {key : String}

/-! ## The messages of a bus -/

/-- All messages that a bus has are of one kind. -/
structure Throughout (bus : Bus) (property : Admitted → Prop) : Prop where
  calls : ∀ call ∈ bus.calls, property call.admitted
  ingress : ∀ admitted ∈ bus.ingress, property admitted
  queued : ∀ worker ∈ bus.workers, ∀ admitted ∈ worker.queue, property admitted
  running : ∀ worker ∈ bus.workers, ∀ running, worker.running = some running →
    property running.admitted

namespace Throughout

theorem ofConfig (config : BusConfig) (property : Admitted → Prop) :
    Throughout (ofConfig config) property :=
  ⟨by simp [Bus.ofConfig], by simp [Bus.ofConfig], by simp [Bus.ofConfig],
    by simp [Bus.ofConfig]⟩

theorem mono {weaker : Admitted → Prop} (throughout : Throughout bus property)
    (weakens : ∀ admitted, property admitted → weaker admitted) : Throughout bus weaker where
  calls := fun call member => weakens _ (throughout.calls call member)
  ingress := fun admitted member => weakens _ (throughout.ingress admitted member)
  queued := fun worker member admitted queued =>
    weakens _ (throughout.queued worker member admitted queued)
  running := fun worker member running busy =>
    weakens _ (throughout.running worker member running busy)

/-- A worker is changed, and has only such messages afterwards. -/
theorem setWorker (throughout : Throughout bus property) (new : Worker)
    (queued : ∀ admitted ∈ new.queue, property admitted)
    (running : ∀ running, new.running = some running → property running.admitted) :
    Throughout (bus.setWorker new) property where
  calls := throughout.calls
  ingress := throughout.ingress
  queued := by
    intro worker member
    rcases List.mem_map.mp member with ⟨old, present, rfl⟩
    split
    next => exact queued
    next => exact throughout.queued old present
  running := by
    intro worker member
    rcases List.mem_map.mp member with ⟨old, present, rfl⟩
    split
    next => exact running
    next => exact throughout.running old present

theorem removeCall (throughout : Throughout bus property) (id : CallId) :
    Throughout (bus.removeCall id) property :=
  { throughout with
    calls := fun call member => throughout.calls call (List.mem_of_mem_filter member) }

end Throughout

theorem Brought.throughout (brought : Brought bus admitted result)
    (throughout : Throughout bus property) (new : property admitted) :
    Throughout result.1 property := by
  cases brought with
  | queued =>
      exact { throughout with
        ingress := List.forall_mem_append.mpr
          ⟨throughout.ingress, List.forall_mem_singleton.mpr new⟩ }
  | waits =>
      exact { throughout with
        calls := List.forall_mem_append.mpr
          ⟨throughout.calls, List.forall_mem_singleton.mpr new⟩ }

/-- The messages of a bus stay of one kind while those that it takes are. -/
theorem Change.throughout (change : Change bus result) (throughout : Throughout bus property)
    (new : ∀ message topic, bus.accept message = .ok topic →
      .called bus.nextCall message ∈ result.2 → property ⟨bus.nextCall, message, topic⟩) :
    Throughout result.1 property := by
  cases change with
  | aside moved =>
      cases moved
      exact { throughout with }
  | closing moved =>
      cases moved.closes
      exact { throughout with }
  | cancelled id =>
      exact { throughout with
        calls := by
          intro call member
          rcases List.mem_map.mp member with ⟨old, present, rfl⟩
          have kept := throughout.calls old present
          split
          next => exact kept
          next => exact kept }
  | refused | drained | halted => exact { throughout with }
  | entered accepted brought =>
      exact brought.throughout { throughout with } (new _ _ accepted List.mem_cons_self)
  | resumed member going brought =>
      exact brought.throughout (throughout.removeCall _) (throughout.calls _ member)
  | withdrawn => exact { throughout.removeCall _ with }
  | hired routing first absent =>
      have both := throughout.ingress
      rw [first, List.forall_mem_cons] at both
      exact { throughout with
        ingress := both.2
        queued := List.forall_mem_append.mpr ⟨throughout.queued,
          List.forall_mem_singleton.mpr (List.forall_mem_singleton.mpr both.1)⟩
        running := List.forall_mem_append.mpr ⟨throughout.running,
          List.forall_mem_singleton.mpr (by simp)⟩ }
  | @assigned admitted ingress worker routing first found =>
      have both := throughout.ingress
      rw [first, List.forall_mem_cons] at both
      have member := (worker?_some found).1
      have taken : Throughout { bus with ingress, slots := bus.slots.release } property :=
        { throughout with ingress := both.2 }
      exact taken.setWorker { worker with queue := worker.queue ++ [admitted] }
        (List.forall_mem_append.mpr
          ⟨throughout.queued worker member, List.forall_mem_singleton.mpr both.1⟩)
        (throughout.running worker member)
  | started found idle first served =>
      have both := throughout.queued _ (worker?_some found).1
      rw [first, List.forall_mem_cons] at both
      refine throughout.setWorker _ both.2 ?_
      rintro _ ⟨rfl⟩
      exact both.1
  | @finished key worker running outcome _ _ droppedErrors errors _ found busy counted silent =>
      have queued := throughout.queued worker (worker?_some found).1
      have changed := throughout.setWorker { worker with running := none } queued (by simp)
      exact { changed with }
  | retired draining found idle empty =>
      exact throughout.setWorker _ (by simp [empty]) (by simp [idle])

theorem Rejected.throughout (rejected : Rejected bus result)
    (throughout : Throughout bus property) : Throughout result.1 property := by
  cases rejected with
  | intro now routing first found stopped =>
      have both := throughout.ingress
      rw [first, List.forall_mem_cons] at both
      exact { throughout with
        ingress := both.2
        queued := fun worker member => throughout.queued worker (List.mem_of_mem_filter member)
        running := fun worker member =>
          throughout.running worker (List.mem_of_mem_filter member) }

theorem Broken.throughout (broken : Broken bus result) (throughout : Throughout bus property) :
    Throughout result.1 property := by
  cases broken with
  | @intro key worker running admission found busy =>
      have changed := throughout.setWorker
        { worker with queue := [], running := none, stopped := true } (by simp) (by simp)
      exact { changed with }

/-! ## The workers of a bus -/

/-- A changed worker is at home like all others if it is so itself. -/
theorem atHome_setWorker {new : Worker} (others : ∀ worker ∈ bus.workers, worker.AtHome)
    (home : new.AtHome) : ∀ worker ∈ (bus.setWorker new).workers, worker.AtHome := by
  intro worker member
  rcases List.mem_map.mp member with ⟨other, present, rfl⟩
  split
  next => exact home
  next => exact others other present

theorem Brought.workers (brought : Brought bus admitted result) :
    result.1.workers = bus.workers := by
  cases brought with
  | queued | waits => rfl

theorem Change.atHome (change : Change bus result)
    (home : ∀ worker ∈ bus.workers, worker.AtHome) : ∀ worker ∈ result.1.workers, worker.AtHome := by
  cases change with
  | aside moved =>
      cases moved
      exact home
  | closing moved =>
      cases moved.closes
      exact home
  | cancelled | refused | withdrawn | drained | halted => exact home
  | entered _ brought | resumed _ _ brought => exact brought.workers ▸ home
  | @hired admitted =>
      have newcomer : Worker.AtHome ⟨admitted.key, [admitted], none, false⟩ :=
        ⟨by simp, by simp⟩
      exact List.forall_mem_append.mpr ⟨home, List.forall_mem_singleton.mpr newcomer⟩
  | assigned routing first found =>
      rcases worker?_some found with ⟨member, same⟩
      exact atHome_setWorker home ((home _ member).queued same.symm)
  | started found idle first =>
      exact atHome_setWorker home ((home _ (worker?_some found).1).began first _)
  | finished _ _ _ found =>
      exact atHome_setWorker home (home _ (worker?_some found).1).done
  | retired draining found =>
      have kept := home _ (worker?_some found).1
      exact atHome_setWorker home ⟨kept.queue, kept.running⟩

theorem Rejected.atHome (rejected : Rejected bus result)
    (home : ∀ worker ∈ bus.workers, worker.AtHome) : ∀ worker ∈ result.1.workers, worker.AtHome := by
  cases rejected with
  | intro => exact fun worker member => home worker (List.mem_of_mem_filter member)

theorem Broken.atHome (broken : Broken bus result)
    (home : ∀ worker ∈ bus.workers, worker.AtHome) : ∀ worker ∈ result.1.workers, worker.AtHome := by
  cases broken with
  | intro => exact atHome_setWorker home ⟨by simp, by simp⟩

/-! ## A sound bus -/

/-- The invariant of a bus, whether or not workers have broken off. -/
structure Sound (config : BusConfig) (bus : Bus) : Prop extends Books config bus 0 0 where
  valid : bus.Throughout Admitted.Valid
  served : bus.Throughout fun admitted => bus.hasSubscriber admitted.topic
  home : ∀ worker ∈ bus.workers, worker.AtHome
  /-- The dispatcher goes on to drain only when no message can come any more. -/
  cleared : bus.dispatcher ≠ .routing → bus.closed = true ∧ bus.calls = [] ∧ bus.ingress = []
  /-- It finishes only when all workers have stopped. -/
  rested : bus.dispatcher = .finished → ∀ worker ∈ bus.workers, worker.stopped = true

theorem ofConfig_sound (config : BusConfig) : Sound config (ofConfig config) where
  toBooks := .ofConfig config
  valid := .ofConfig config _
  served := .ofConfig config _
  home := by simp [ofConfig]
  cleared := by simp [ofConfig]
  rested := by simp [ofConfig]

theorem Sound.routing (sound : Sound config bus) (going : bus.closed = false) :
    bus.dispatcher = .routing := by
  by_contra past
  simp [(sound.cleared past).1] at going

/-- Workers that have all stopped stay so when one is changed. -/
theorem stopped_setWorker {new : Worker} (stopped : ∀ worker ∈ bus.workers, worker.stopped = true)
    (same : new.stopped = true) :
    ∀ worker ∈ (bus.setWorker new).workers, worker.stopped = true := by
  intro worker member
  rcases List.mem_map.mp member with ⟨old, present, rfl⟩
  split
  next => exact same
  next => exact stopped old present

/-- A message that its publish call brings goes to a bus that routes. -/
theorem Brought.routing (brought : Brought bus admitted result) :
    result.1.dispatcher = bus.dispatcher ∧ result.1.handlers = bus.handlers := by
  cases brought with
  | queued | waits => exact ⟨rfl, rfl⟩

theorem Change.longer (change : Change bus result) : bus.handlers <+: result.1.handlers := by
  cases change with
  | aside moved =>
      cases moved with
      | intro grown => exact grown
  | closing moved =>
      cases moved.closes
      exact List.prefix_rfl
  | entered accepted brought => exact brought.routing.2 ▸ List.prefix_rfl
  | resumed member going brought => exact brought.routing.2 ▸ List.prefix_rfl
  | _ => exact List.prefix_rfl

/-- A change leaves nothing behind the dispatcher's back. -/
theorem Change.cleared (change : Change bus result) (sound : Sound config bus)
    (past : result.1.dispatcher ≠ .routing) :
    result.1.closed = true ∧ result.1.calls = [] ∧ result.1.ingress = [] := by
  cases change with
  | aside moved =>
      cases moved with
      | intro _ kept => exact ⟨kept (sound.cleared past).1, (sound.cleared past).2⟩
  | closing moved =>
      cases moved.closes with
      | intro _ kept => exact ⟨kept (sound.cleared past).1, (sound.cleared past).2⟩
  | cancelled id =>
      rcases sound.cleared past with ⟨closed, returned, empty⟩
      exact ⟨closed, by simp [quietly, cancel, returned], empty⟩
  | refused | started | finished | retired => exact sound.cleared past
  | entered accepted brought =>
      rw [brought.routing.1] at past
      exact absurd (sound.routing (accept_ok accepted).2.1) past
  | resumed member going brought =>
      rw [brought.routing.1] at past
      exact absurd (sound.routing going) past
  | withdrawn admission slots member =>
      simp [(sound.cleared past).2.1] at member
  | hired routing | assigned routing => exact absurd routing past
  | drained routing closed returned empty => exact ⟨closed, returned, empty⟩
  | halted draining => exact sound.cleared (by simp [draining])

theorem Change.rested (change : Change bus result) (sound : Sound config bus)
    (finished : result.1.dispatcher = .finished) :
    ∀ worker ∈ result.1.workers, worker.stopped = true := by
  cases change with
  | aside moved =>
      cases moved
      exact sound.rested finished
  | closing moved =>
      cases moved.closes
      exact sound.rested finished
  | cancelled | refused | withdrawn => exact sound.rested finished
  | entered accepted brought =>
      rw [brought.routing.1] at finished
      simp [sound.routing (accept_ok accepted).2.1] at finished
  | resumed member going brought =>
      rw [brought.routing.1] at finished
      simp [removeCall, sound.routing going] at finished
  | hired routing | assigned routing => simp [routing, setWorker] at finished
  | started found | finished _ _ _ found =>
      have stopped := sound.rested finished _ (worker?_some found).1
      exact stopped_setWorker (sound.rested finished) stopped
  | drained => cases finished
  | retired => exact stopped_setWorker (sound.rested finished) rfl
  | halted draining stopped => exact stopped

theorem mem_setWorker {new worker : Worker} (member : worker ∈ (bus.setWorker new).workers) :
    worker = new ∨ worker ∈ bus.workers := by
  rcases List.mem_map.mp member with ⟨old, present, rfl⟩
  split
  next => exact .inl rfl
  next => exact .inr present

/-- No change makes a worker stop while the dispatcher routes. -/
theorem Change.stopped_before (change : Change bus result)
    (routing : result.1.dispatcher = .routing) {worker : Worker}
    (member : worker ∈ result.1.workers) (stopped : worker.stopped = true) :
    bus.dispatcher = .routing ∧
      ∃ old ∈ bus.workers, old.key = worker.key ∧ old.stopped = true := by
  have kept (still : bus.dispatcher = .routing) (present : worker ∈ bus.workers) :
      bus.dispatcher = .routing ∧
        ∃ old ∈ bus.workers, old.key = worker.key ∧ old.stopped = true :=
    ⟨still, worker, present, rfl, stopped⟩
  have changed {key : String} {new old : Worker} (still : bus.dispatcher = .routing)
      (found : bus.worker? key = some old) (inside : worker ∈ (bus.setWorker new).workers)
      (same : new.key = old.key) (alike : new.stopped = old.stopped) :
      bus.dispatcher = .routing ∧
        ∃ old ∈ bus.workers, old.key = worker.key ∧ old.stopped = true := by
    rcases mem_setWorker inside with rfl | present
    · exact ⟨still, old, (worker?_some found).1, same.symm, alike ▸ stopped⟩
    · exact kept still present
  cases change with
  | aside moved =>
      cases moved
      exact kept routing member
  | closing moved =>
      cases moved.closes
      exact kept routing member
  | cancelled | refused | withdrawn => exact kept routing member
  | entered _ brought | resumed _ _ brought =>
      rw [brought.routing.1] at routing
      rw [brought.workers] at member
      exact kept routing member
  | hired still =>
      rcases List.mem_append.mp member with present | new
      · exact kept still present
      · rw [List.mem_singleton.mp new] at stopped
        cases stopped
  | assigned still _ found => exact changed still found member rfl rfl
  | started found | finished _ _ _ found => exact changed routing found member rfl rfl
  | drained | halted => cases routing
  | retired draining => cases draining.symm.trans routing

theorem Change.sound (change : Change bus result) (sound : Sound config bus)
    (books : Books config result.1 0 0) : Sound config result.1 where
  toBooks := books
  valid := change.throughout sound.valid fun _ _ accepted _ => (accept_ok accepted).1
  served := by
    apply (change.throughout sound.served fun _ _ accepted _ => (accept_ok accepted).2.2).mono
    exact fun admitted served => hasSubscriber_of_longer change.longer served
  home := change.atHome sound.home
  cleared := change.cleared sound
  rested := change.rested sound

theorem Rejected.sound (rejected : Rejected bus result) (sound : Sound config bus)
    (books : Books config result.1 0 0) : Sound config result.1 := by
  have valid := rejected.throughout sound.valid
  have served := rejected.throughout sound.served
  have home := rejected.atHome sound.home
  cases rejected with
  | intro now routing =>
      exact {
        toBooks := books
        valid
        served := { served with }
        home
        cleared := fun past => absurd routing past
        rested := fun finished => absurd (routing.symm.trans finished) (by decide) }

theorem Broken.sound (broken : Broken bus result) (sound : Sound config bus)
    (books : Books config result.1 0 0) : Sound config result.1 := by
  have valid := broken.throughout sound.valid
  have served := broken.throughout sound.served
  have home := broken.atHome sound.home
  cases broken with
  | intro =>
      exact {
        toBooks := books
        valid
        served := { served with }
        home
        cleared := sound.cleared
        rested := fun finished => stopped_setWorker (sound.rested finished) rfl }

/-- Every step of a sound bus is one of the changes, unless it comes upon a worker that has broken
off. -/
theorem Sound.change_or_rejected (sound : Sound config bus) {step : Step}
    (taken : bus.step? step = some result) : Change bus result ∨ Rejected bus result :=
  step_change_or_rejected sound.served.queued taken

theorem Sound.step (sound : Sound config bus) {step : Step}
    (taken : bus.step? step = some result) : Sound config result.1 := by
  have books := sound.toBooks.step taken
  rcases sound.change_or_rejected taken with change | rejected
  · exact change.sound sound books
  · exact rejected.sound sound books

theorem Sound.breakOff (sound : Sound config bus) (broken : bus.breakOff key = some result) :
    Sound config result.1 :=
  (breakOff_broken broken).sound sound (sound.toBooks.breakOff broken)

/-! ## A regular bus -/

/-- The invariant of a bus no worker of which has broken off: all workers are there until the
dispatcher drains. -/
structure Regular (config : BusConfig) (bus : Bus) : Prop extends Sound config bus where
  awake : bus.dispatcher = .routing → ∀ worker ∈ bus.workers, worker.stopped = false

theorem ofConfig_regular (config : BusConfig) : Regular config (ofConfig config) where
  toSound := ofConfig_sound config
  awake := by simp [ofConfig]

theorem Rejected.not_regular (rejected : Rejected bus result) : ¬ Regular config bus := by
  intro regular
  cases rejected with
  | intro now routing first found stopped =>
      have awake := regular.awake routing _ (worker?_some found).1
      simp [awake] at stopped

theorem step_change (regular : Regular config bus) {step : Step}
    (taken : bus.step? step = some result) : Change bus result :=
  (regular.change_or_rejected taken).resolve_right fun rejected => rejected.not_regular regular

theorem Change.awake (change : Change bus result) (regular : Regular config bus)
    (routing : result.1.dispatcher = .routing) :
    ∀ worker ∈ result.1.workers, worker.stopped = false := by
  intro worker member
  by_contra stopped
  rcases change.stopped_before routing member (by simpa using stopped) with
    ⟨still, old, present, _, ended⟩
  simp [regular.awake still old present] at ended

theorem Regular.step (regular : Regular config bus) {step : Step}
    (taken : bus.step? step = some result) : Regular config result.1 where
  toSound := regular.toSound.step taken
  awake := (step_change regular taken).awake regular

/-! ## A sound bus at rest -/

theorem Books.idle_of_stopped {permits places : Nat} (books : Books config bus permits places)
    {worker : Worker} (member : worker ∈ bus.workers) (stopped : worker.stopped = true) :
    worker.queue = [] ∧ worker.running = none := by
  have nothing := books.stopped worker member stopped
  simpa [Worker.load] using nothing

theorem loadOf_eq_zero {workers : List Worker}
    (idle : ∀ worker ∈ workers, worker.queue = [] ∧ worker.running = none) :
    loadOf workers = 0 := by
  rw [loadOf, List.sum_eq_zero_iff_forall_eq_nat]
  intro load member
  rcases List.mem_map.mp member with ⟨worker, present, rfl⟩
  rcases idle worker present with ⟨queue, running⟩
  simp [Worker.load, queue, running]

theorem Books.all_free (books : Books config bus 0 0) (returned : bus.calls = [])
    (empty : bus.ingress = [])
    (idle : ∀ worker ∈ bus.workers, worker.queue = [] ∧ worker.running = none) :
    bus.admission.free = bus.maxInFlight := by
  have serves := books.admission
  have budget := books.budget
  rw [returned] at serves budget
  rw [serves.free_eq_permits, books.limit, ← budget, empty, loadOf_eq_zero idle]
  rfl

/-- The dispatcher has finished, and nothing is on its way. -/
structure AtRest (bus : Bus) : Prop where
  finished : bus.dispatcher = .finished
  closed : bus.closed = true
  returned : bus.calls = []
  empty : bus.ingress = []
  idle : ∀ worker ∈ bus.workers,
    worker.stopped = true ∧ worker.queue = [] ∧ worker.running = none

theorem Sound.at_rest (sound : Sound config bus) (finished : bus.dispatcher = .finished) :
    AtRest bus := by
  rcases sound.cleared (by simp [finished]) with ⟨closed, returned, empty⟩
  refine ⟨finished, closed, returned, empty, ?_⟩
  intro worker member
  have stopped := sound.rested finished worker member
  exact ⟨stopped, sound.idle_of_stopped member stopped⟩

/-- The changes of a bus at rest. -/
inductive Idling (bus : Bus) : Bus × List Event → Prop where
  | aside {result : Bus × List Event} (moved : Aside bus result) : Idling bus result
  | closing {result : Bus × List Event} (moved : Closing bus result) : Idling bus result
  | cancelled (id : CallId) : Idling bus (bus.cancel id).quietly
  | refused (message : Message) (error : BusError) :
      Idling bus ({ bus with nextCall := bus.nextCall + 1 },
        [.called bus.nextCall message, .returned bus.nextCall (.error error)])

/-- A bus at rest takes no message, and neither the dispatcher nor a worker does anything. -/
theorem Change.idling (change : Change bus result) (rest : AtRest bus) : Idling bus result := by
  cases change with
  | aside moved => exact .aside moved
  | closing moved => exact .closing moved
  | cancelled id => exact .cancelled id
  | refused message error => exact .refused message error
  | entered accepted =>
      rcases accept_ok accepted with ⟨_, going, _⟩
      simp [rest.closed] at going
  | resumed member | withdrawn _ _ member => simp [rest.returned] at member
  | hired routing | assigned routing | drained routing => simp [rest.finished] at routing
  | started found _ first =>
      rcases rest.idle _ (worker?_some found).1 with ⟨_, queue, _⟩
      simp [queue] at first
  | finished _ _ _ found busy =>
      rcases rest.idle _ (worker?_some found).1 with ⟨_, _, running⟩
      simp [running] at busy
  | retired draining | halted draining => simp [rest.finished] at draining

end Bus

end ConversationBus
