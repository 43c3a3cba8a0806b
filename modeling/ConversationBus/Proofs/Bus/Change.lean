import ConversationBus.Proofs.Bus.Books

/-!
# What a step changes

The steps of a bus come down to a short list of changes, which the invariants go through case by
case. Two more come with workers that break off: what becomes of such a worker and its messages, and
what becomes of the next message of its conversation.
-/

namespace ConversationBus.Bus

variable {config : BusConfig} {bus next : Bus} {result : Bus × List Event} {admitted : Admitted}

/-! ## Handlers -/

/-- Handlers that are added leave the others in place. -/
theorem lookup_of_longer {handlers grown : List (Topic × HandlerId)} (longer : handlers <+: grown)
    {topic : Topic} {handler : HandlerId} (found : handlers.lookup topic = some handler) :
    grown.lookup topic = some handler := by
  rcases longer with ⟨added, rfl⟩
  rw [List.lookup_append, found, Option.some_or]

theorem hasSubscriber_of_longer {topic : Topic} (longer : bus.handlers <+: next.handlers)
    (served : bus.hasSubscriber topic) : next.hasSubscriber topic := by
  rcases Option.isSome_iff_exists.mp served with ⟨handler, found⟩
  exact Option.isSome_iff_exists.mpr ⟨handler, lookup_of_longer longer found⟩

/-- A message is taken only while the bus is open, and only if its topic has a handler. -/
theorem accept_ok {message : Message} {topic : Topic} (accepted : bus.accept message = .ok topic) :
    message.validate = .ok topic ∧ bus.closed = false ∧ bus.hasSubscriber topic = true := by
  simp only [accept] at accepted
  split at accepted
  next => cases accepted
  next topic valid =>
    split at accepted
    next => cases accepted
    next going =>
      split at accepted
      next served =>
        cases accepted
        exact ⟨valid, by simpa using going, served⟩
      next => cases accepted

/-! ## The list of changes -/

/-- What becomes of a message that its publish call brings: it enters the ingress queue, or the call
waits. -/
inductive Brought (bus : Bus) (admitted : Admitted) : Bus × List Event → Prop where
  | queued (admission slots : Semaphore) :
      Brought bus admitted ({ bus with admission, slots }.enqueue admitted)
  | waits (admission slots : Semaphore) (stage : PublishStage) (inRow cancelled : Bool) :
      Brought bus admitted
        ({ bus with admission, slots }.suspend ⟨admitted, stage, inRow, cancelled⟩, [])

theorem handOff_brought : Brought bus admitted (bus.handOff admitted) := by
  simp only [handOff]
  split
  next slots _ => exact .queued bus.admission slots
  next slots _ => exact .waits bus.admission slots ..

theorem proceed_brought {putOff : Option PublishStage} :
    Brought bus admitted (bus.proceed admitted putOff) := by
  simp only [proceed]
  split
  next => exact .waits bus.admission bus.slots ..
  next => exact handOff_brought

theorem Brought.of_semaphores (admission slots : Semaphore)
    (brought : Brought { bus with admission, slots } admitted result) :
    Brought bus admitted result := by
  cases brought with
  | queued => exact .queued ..
  | waits => exact .waits ..

theorem enter_brought {putOff : Option PublishStage} :
    Brought bus admitted (bus.enter admitted putOff) := by
  simp only [enter]
  split
  next admission _ => exact .of_semaphores _ bus.slots proceed_brought
  next admission _ => exact .waits admission bus.slots ..

/-- A step of a publish call touches nothing but what publish calls deal with. -/
inductive Publishing (bus : Bus) : Bus × List Event → Prop where
  | intro {nextCall : CallId} {calls : List PublishCall} {admission slots : Semaphore}
      {ingress : List Admitted} {published : Nat} {events : List Event}
      (silent : ∀ event ∈ events, event.ofPublishing) :
      Publishing bus
        ({ bus with
            nextCall, calls, admission, slots, ingress
            counters := { bus.counters with published } }, events)

theorem Brought.publishing (brought : Brought bus admitted result) : Publishing bus result := by
  cases brought with
  | queued => exact .intro (by simp [Event.ofPublishing])
  | waits => exact .intro (by simp)

/-- What publish calls deal with does not matter to what they touch. -/
theorem Publishing.of_calls {nextCall : CallId} {calls : List PublishCall}
    {admission slots : Semaphore}
    (publishing : Publishing { bus with nextCall, calls, admission, slots } result) :
    Publishing bus result := by
  cases publishing with
  | intro silent => exact .intro silent

/-- The beginning of a publish call is seen first. -/
theorem publish_publishing (bus : Bus) (message : Message) (cancelled : Bool)
    (putOff : Option PublishStage) : ∃ next events,
      bus.publish message cancelled putOff = (next, .called bus.nextCall message :: events) ∧
        Publishing bus (next, events) := by
  simp only [publish]
  split
  next => exact ⟨_, _, rfl, .intro (by simp [Event.ofPublishing])⟩
  next =>
    split
    next => exact ⟨_, _, rfl, .intro (by simp)⟩
    next =>
      split
      next => exact ⟨_, _, rfl, .intro (by simp [Event.ofPublishing])⟩
      next => exact ⟨_, _, rfl, .of_calls enter_brought.publishing⟩

theorem withdraw_publishing {events : List Event} (call : PublishCall)
    (silent : ∀ event ∈ events, event.ofPublishing) :
    Publishing bus (bus.withdraw call, events) := by
  simp only [withdraw]
  split
  next => exact .intro silent
  next => exact .intro silent

theorem resume_publishing {id : CallId} {putOff : Option PublishStage}
    (resumed : bus.resume id putOff = some result) : Publishing bus result := by
  cases resume_resumed resumed with
  | ended => exact withdraw_publishing _ (by simp [Event.ofPublishing])
  | entering => exact .of_calls enter_brought.publishing
  | permitted => exact .of_calls proceed_brought.publishing
  | handing => exact .of_calls handOff_brought.publishing
  | placed => exact .intro (by simp [Event.ofPublishing])

/-- The changes that the steps of a bus come down to, as long as no worker has broken off. -/
inductive Change (bus : Bus) : Bus × List Event → Prop where
  | aside {result : Bus × List Event} (moved : Aside bus result) : Change bus result
  | closing {result : Bus × List Event} (moved : Closing bus result) : Change bus result
  /-- A caller gives up on its publish call. -/
  | cancelled (id : CallId) : Change bus (bus.cancel id).quietly
  /-- A publish call ends at once. -/
  | refused (message : Message) (error : BusError) :
      Change bus ({ bus with nextCall := bus.nextCall + 1 },
        [.called bus.nextCall message, .returned bus.nextCall (.error error)])
  /-- A publish call begins with a message that the bus takes. -/
  | entered {message : Message} {topic : Topic} {result : Bus × List Event}
      (accepted : bus.accept message = .ok topic)
      (brought : Brought { bus with nextCall := bus.nextCall + 1 }
        ⟨bus.nextCall, message, topic⟩ result) :
      Change bus (result.1, .called bus.nextCall message :: result.2)
  /-- A publish call that waited goes on. -/
  | resumed {call : PublishCall} {result : Bus × List Event} (member : call ∈ bus.calls)
      (going : bus.closed = false)
      (brought : Brought (bus.removeCall call.id) call.admitted result) : Change bus result
  /-- A publish call that waited ends without having handed over its message. -/
  | withdrawn {call : PublishCall} {event : Event} (admission slots : Semaphore)
      (member : call ∈ bus.calls)
      (last : event = .abandoned call.id ∨ ∃ error, event = .returned call.id (.error error)) :
      Change bus ({ bus.removeCall call.id with admission, slots }, [event])
  /-- The first message of a conversation starts its worker. -/
  | hired {admitted : Admitted} {ingress : List Admitted} (routing : bus.dispatcher = .routing)
      (first : bus.ingress = admitted :: ingress) (absent : bus.worker? admitted.key = none) :
      Change bus
        ({ bus with
            ingress
            slots := bus.slots.release
            workers := bus.workers ++ [⟨admitted.key, [admitted], none, false⟩]
            counters := { bus.counters with workers := bus.counters.workers + 1 } }, [])
  | assigned {admitted : Admitted} {ingress : List Admitted} {worker : Worker}
      (routing : bus.dispatcher = .routing) (first : bus.ingress = admitted :: ingress)
      (found : bus.worker? admitted.key = some worker) :
      Change bus
        ({ bus with ingress, slots := bus.slots.release }.setWorker
          { worker with queue := worker.queue ++ [admitted] }, [])
  | started {key : String} {worker : Worker} {admitted : Admitted} {queue : List Admitted}
      {handler : HandlerId} (found : bus.worker? key = some worker) (idle : worker.running = none)
      (first : worker.queue = admitted :: queue)
      (served : bus.handlers.lookup admitted.topic = some handler) :
      Change bus
        (bus.setWorker { worker with queue, running := some ⟨admitted, handler⟩ },
          [.started ⟨admitted, handler⟩])
  | finished {key : String} {worker : Worker} {running : Running} (outcome : Outcome)
      {delivered failed : Nat} (droppedErrors : Nat) (errors : ErrorStream) {reports : List Event}
      (found : bus.worker? key = some worker) (busy : worker.running = some running)
      (counted : delivered + failed = bus.counters.delivered + bus.counters.failed + 1)
      (silent : ∀ event ∈ reports, ∃ report fate, event = .reported report fate) :
      Change bus
        ({ bus.setWorker { worker with running := none } with
            admission := bus.admission.release
            counters := { bus.counters with delivered, failed, droppedErrors }
            errors }, .ended running outcome :: reports)
  | drained (routing : bus.dispatcher = .routing) (closed : bus.closed = true)
      (returned : bus.calls = []) (empty : bus.ingress = []) :
      Change bus (quietly { bus with dispatcher := .draining })
  | retired {key : String} {worker : Worker} (draining : bus.dispatcher = .draining)
      (found : bus.worker? key = some worker) (idle : worker.running = none)
      (empty : worker.queue = []) :
      Change bus (bus.setWorker { worker with stopped := true }).quietly
  | halted (draining : bus.dispatcher = .draining)
      (stopped : ∀ worker ∈ bus.workers, worker.stopped = true) :
      Change bus (quietly { bus with dispatcher := .finished })

/-! ## Every step is one of these changes -/

theorem publish_change (bus : Bus) (message : Message) (cancelled : Bool)
    (putOff : Option PublishStage) : Change bus (bus.publish message cancelled putOff) := by
  simp only [publish]
  split
  next error _ => exact .refused message error
  next topic accepted =>
    -- The name of the next call has no part in whether a message is taken.
    have accepted : bus.accept message = .ok topic := accepted
    split
    next => exact .entered accepted (.waits bus.admission bus.slots .admission false cancelled)
    next =>
      split
      next => exact .refused message .cancelled
      next => exact .entered accepted enter_brought

theorem withdraw_change {call : PublishCall} {event : Event} (member : call ∈ bus.calls)
    (last : event = .abandoned call.id ∨ ∃ error, event = .returned call.id (.error error)) :
    Change bus (bus.withdraw call, [event]) := by
  simp only [withdraw]
  split
  next => exact .withdrawn _ bus.slots member last
  next => exact .withdrawn _ _ member last

theorem resume_change {id : CallId} {putOff : Option PublishStage}
    (resumed : bus.resume id putOff = some result) : Change bus result := by
  cases resume_resumed resumed with
  | ended member reason => exact withdraw_change member (.inr ⟨_, rfl⟩)
  | entering member going => exact .resumed member going enter_brought
  | permitted member going collected =>
      exact .resumed member going (.of_semaphores _ bus.slots proceed_brought)
  | handing member going => exact .resumed member going handOff_brought
  | placed member going collected => exact .resumed member going (.queued bus.admission _)

/-- A message comes for a worker that has broken off: it is reported as not delivered, and the next
message of its conversation gets a new worker. -/
inductive Rejected (bus : Bus) : Bus × List Event → Prop where
  | intro {admitted : Admitted} {ingress : List Admitted} {worker : Worker}
      {droppedErrors : Nat} {errors : ErrorStream} {fate : ReportFate} (now : Instant)
      (routing : bus.dispatcher = .routing) (first : bus.ingress = admitted :: ingress)
      (found : bus.worker? admitted.key = some worker) (stopped : worker.stopped = true) :
      Rejected bus
        ({ bus with
            ingress
            slots := bus.slots.release
            admission := bus.admission.release
            workers := bus.workers.filter fun other => other.key ≠ admitted.key
            counters := { bus.counters with failed := bus.counters.failed + 1, droppedErrors }
            errors },
          [.dropped admitted,
            .reported ⟨admitted.message, "conversation worker is not running", .dispatch, now⟩ fate])

/-- A worker breaks off at the end of its handler call and drops the messages in its queue. -/
inductive Broken (bus : Bus) : Bus × List Event → Prop where
  | intro {key : String} {worker : Worker} {running : Running} (admission : Semaphore)
      (found : bus.worker? key = some worker) (busy : worker.running = some running) :
      Broken bus
        ({ bus.setWorker { worker with queue := [], running := none, stopped := true } with
            admission },
          .brokenOff running :: worker.queue.map .dropped)

theorem breakOff_broken {key : String} (broken : bus.breakOff key = some result) :
    Broken bus result := by
  simp only [breakOff, Option.bind_eq_bind, Option.bind_eq_some_iff] at broken
  rcases broken with ⟨worker, found, running, busy, broken⟩
  cases broken
  exact .intro _ found busy

/-- What the dispatcher can do with the oldest message of the ingress queue. -/
inductive Routed (bus : Bus) : Bus × List Event → Prop where
  | hired {admitted : Admitted} {ingress : List Admitted} (routing : bus.dispatcher = .routing)
      (first : bus.ingress = admitted :: ingress) (absent : bus.worker? admitted.key = none) :
      Routed bus
        ({ bus with
            ingress
            slots := bus.slots.release
            workers := bus.workers ++ [⟨admitted.key, [admitted], none, false⟩]
            counters := { bus.counters with workers := bus.counters.workers + 1 } }, [])
  | assigned {admitted : Admitted} {ingress : List Admitted} {worker : Worker}
      (routing : bus.dispatcher = .routing) (first : bus.ingress = admitted :: ingress)
      (found : bus.worker? admitted.key = some worker) (awake : worker.stopped = false) :
      Routed bus
        ({ bus with ingress, slots := bus.slots.release }.setWorker
          { worker with queue := worker.queue ++ [admitted] }, [])
  | rejected {result : Bus × List Event} (rejected : Rejected bus result) : Routed bus result

theorem route_routed {now : Instant} (routed : bus.route now = some result) :
    Routed bus result := by
  simp only [route] at routed
  split at routed
  next admitted ingress routing first =>
    cases routed
    simp only [assign]
    split
    next absent => exact .hired routing first absent
    next worker found =>
      split
      next stopped =>
        obtain ⟨_, _, _, equal⟩ := report_eq (releasePermit { bus with
          ingress, slots := bus.slots.release
          workers := bus.workers.filter fun other => other.key ≠ worker.key })
          ⟨admitted.message, "conversation worker is not running", .dispatch, now⟩
        rw [equal, (worker?_some found).2]
        exact .rejected (.intro now routing first found stopped)
      next awake => exact .assigned routing first found (by simpa using awake)
  next => cases routed

theorem Routed.change_or_rejected (routed : Routed bus result) :
    Change bus result ∨ Rejected bus result := by
  cases routed with
  | hired routing first absent => exact .inl (.hired routing first absent)
  | assigned routing first found => exact .inl (.assigned routing first found)
  | rejected rejected => exact .inr rejected

theorem begin_some
    (served : ∀ worker ∈ bus.workers, ∀ admitted ∈ worker.queue, bus.hasSubscriber admitted.topic)
    {key : String} {now : Instant} (begun : bus.begin key now = some result) :
    ∃ worker admitted queue handler, bus.worker? key = some worker ∧ worker.running = none ∧
      worker.queue = admitted :: queue ∧ bus.handlers.lookup admitted.topic = some handler ∧
      result = (bus.setWorker { worker with queue, running := some ⟨admitted, handler⟩ },
        [.started ⟨admitted, handler⟩]) := by
  simp only [begin, Option.bind_eq_bind, Option.bind_eq_some_iff] at begun
  rcases begun with ⟨worker, found, begun⟩
  split at begun
  next admitted queue idle first =>
    split at begun
    next handler known =>
      cases begun
      exact ⟨worker, admitted, queue, handler, found, idle, first, known, rfl⟩
    next unknown =>
      have known := served worker (worker?_some found).1 admitted (by simp [first])
      simp [hasSubscriber, unknown] at known
  next => cases begun

theorem begin_change
    (served : ∀ worker ∈ bus.workers, ∀ admitted ∈ worker.queue, bus.hasSubscriber admitted.topic)
    {key : String} {now : Instant} (begun : bus.begin key now = some result) :
    Change bus result := by
  rcases begin_some served begun with ⟨_, _, _, _, found, idle, first, known, rfl⟩
  exact .started found idle first known

theorem finish_change {key : String} {outcome : Outcome} {now : Instant}
    (finished : bus.finish key outcome now = some result) : Change bus result := by
  simp only [finish, Option.bind_eq_bind, Option.bind_eq_some_iff] at finished
  rcases finished with ⟨worker, found, running, busy, finished⟩
  cases finished
  obtain ⟨_, _, droppedErrors, errors, _, equal, counted, silent⟩ :=
    conclude_eq (bus.setWorker { worker with running := none }) running.admitted
      outcome.failure? now
  rw [equal]
  exact .finished outcome droppedErrors errors found busy counted silent

theorem retire_change {key : String} (retired : bus.retire key = some next) :
    Change bus next.quietly := by
  simp only [retire, Option.bind_eq_bind, Option.bind_eq_some_iff] at retired
  rcases retired with ⟨worker, found, retired⟩
  split at retired
  next done =>
    cases retired
    exact .retired done.1 found done.2.1 done.2.2.1
  next => cases retired

theorem drain_change (drained : bus.drain = some next) : Change bus next.quietly := by
  simp only [drain] at drained
  split at drained
  next done =>
    cases drained
    exact .drained done.1 done.2.1 done.2.2.1 done.2.2.2
  next => cases drained

theorem halt_change (halted : bus.halt = some next) : Change bus next.quietly := by
  simp only [halt] at halted
  split at halted
  next done =>
    cases halted
    exact .halted done.1 (by simpa using done.2)
  next => cases halted

/-- Where every message that a worker has goes to a handler, each step is one of the changes, unless
it comes upon a worker that has broken off. -/
theorem step_change_or_rejected
    (served : ∀ worker ∈ bus.workers, ∀ admitted ∈ worker.queue, bus.hasSubscriber admitted.topic)
    {step : Step} (taken : bus.step? step = some result) :
    Change bus result ∨ Rejected bus result := by
  cases step with
  | subscribe topic handler =>
      rcases whileHeld_some taken with ⟨_, taken⟩
      split at taken
      next subscribed =>
        cases taken
        exact .inl (.aside (subscribe_aside subscribed))
      next =>
        cases taken
        exact .inl (.aside .refl)
  | publish message cancelled putOff =>
      rcases whileHeld_some taken with ⟨_, taken⟩
      cases taken
      exact .inl (publish_change bus message cancelled putOff)
  | cancel call =>
      cases taken
      exact .inl (.cancelled call)
  | resume call putOff => exact .inl (resume_change taken)
  | abandon call =>
      simp only [step?, abandon, Option.map_map, Option.map_eq_some_iff] at taken
      rcases taken with ⟨found, present, rfl⟩
      rcases call?_some present with ⟨member, rfl⟩
      exact .inl (withdraw_change member (.inl rfl))
  | close =>
      rcases whileHeld_some taken with ⟨_, taken⟩
      cases taken
      exact .inl (.closing (close_closing bus))
  | resumeClose call => exact .inl (.closing (.resumed (resumeClose_turn taken)))
  | abandonClose call =>
      cases taken
      exact .inl (.closing (.abandoned call))
  | route now => exact (route_routed taken).change_or_rejected
  | begin key now => exact .inl (begin_change served taken)
  | finish key outcome now => exact .inl (finish_change taken)
  | drain =>
      rcases Option.map_eq_some_iff.mp taken with ⟨next, drained, rfl⟩
      exact .inl (drain_change drained)
  | retire key =>
      rcases Option.map_eq_some_iff.mp taken with ⟨next, retired, rfl⟩
      exact .inl (retire_change retired)
  | halt =>
      rcases Option.map_eq_some_iff.mp taken with ⟨next, halted, rfl⟩
      exact .inl (halt_change halted)
  | takeErrors =>
      rcases Option.map_eq_some_iff.mp taken with ⟨next, claimed, rfl⟩
      exact .inl (.aside (takeErrors_aside claimed))
  | receive => exact .inl (.aside (receive_aside taken))
  | dropErrors => exact .inl (.aside (dropErrors_aside taken))
  | letGo =>
      cases taken
      exact .inl (.aside letGo_aside)
  | drop => exact .inl (.aside (drop_aside taken))

end ConversationBus.Bus
