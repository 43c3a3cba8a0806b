import ConversationBus.Proofs.Bus.Work
import ConversationBus.Proofs.Replay.Tally

/-!
# The only caller of a bus

A replay is the only caller of its bus, which has a handler for each topic. What becomes of its
publish calls and of its close call is told here, step by step: the bus answers as expected, and a
call that waits has less before it after each step.
-/

namespace ConversationBus

namespace Bus

/-- A bus that is open, with the given publish calls and no close call. -/
structure Open (bus : Bus) (calls : List PublishCall) : Prop where
  closed : bus.closed = false
  calls : bus.calls = calls
  closing : bus.closing = []
  joinable : bus.joinable = true

/-- A bus whose handle is held, that has a handler for each topic and no reports. -/
structure Equipped (bus : Bus) : Prop where
  handle : bus.handle = .held
  served : ∀ topic, bus.hasSubscriber topic = true
  unreported : bus.errors.queued = []

/-- A step of a publish call, which touches nothing but what publish calls deal with. -/
structure Calling (bus : Bus) (result : Bus × List Event) : Prop where
  same : result.1 = { bus with
    nextCall := result.1.nextCall, calls := result.1.calls, admission := result.1.admission
    slots := result.1.slots, ingress := result.1.ingress, counters := result.1.counters }
  quiet : ∀ event ∈ result.2,
    event.started? = none ∧ event.ended? = none ∧ ∀ report, event ≠ .received report
  brought : result.1.ingress.length = bus.ingress.length + (queuedIn result.2).length

/-- What a step of a publish call comes to for its caller: an answer as expected, with which the
message is queued or is gone, or a wait with less before it. -/
inductive Coming (id : CallId) (message : Message) (cancelled : Bool) (bound : Nat)
    (result : Bus × List Event) : Prop where
  | answered (answer : Except BusError Unit) (done : result.1.calls = [])
      (told : publishResult? id result.2 = some answer)
      (expected : Exchange.Expected cancelled ⟨.publish message, answer⟩)
      (queued : (queuedIn result.2).map Admitted.message =
        (Exchange.taken? ⟨.publish message, answer⟩).toList)
  | waits (call : PublishCall) (alone : result.1.calls = [call])
      (told : publishResult? id result.2 = none) (own : call.id = id)
      (same : call.admitted.message = message) (given : call.cancelled = cancelled)
      (less : call.rank < bound) (queued : queuedIn result.2 = [])

variable {bus : Bus} {result : Bus × List Event} {admitted : Admitted} {bound : Nat}
  {message : Message} {id : CallId} {cancelled : Bool} {putOff : Option PublishStage}

/-! ## Publish calls -/

theorem Brought.calling (brought : Brought bus admitted result) : Calling bus result := by
  cases brought with
  | queued =>
      refine ⟨rfl, ?_, ?_⟩
      · simp [enqueue, Event.started?, Event.ended?]
      · simp [enqueue, Event.queued?]
  | waits => exact ⟨rfl, by simp, by simp [suspend]⟩

theorem expected_ok {topic : Topic} (valid : message.validate = .ok topic) (cancelled : Bool) :
    Exchange.Expected cancelled ⟨.publish message, .ok ()⟩ := by
  simp [Exchange.Expected, valid]

theorem expected_cancelled {topic : Topic} (valid : message.validate = .ok topic) :
    Exchange.Expected true ⟨.publish message, .error .cancelled⟩ := by
  simp [Exchange.Expected, valid]

/-- A message that goes on is queued, or its call waits. -/
theorem Brought.coming (brought : Brought bus admitted result) (alone : bus.calls = [])
    (valid : admitted.Valid) (sooner : Sooner bus bound result) :
    Coming admitted.call admitted.message false bound result := by
  cases brought with
  | queued =>
      refine .answered (.ok ()) alone ?_ (expected_ok valid false) ?_
      · simp [enqueue, publishResult?]
      · simp [enqueue, Event.queued?, Exchange.taken?]
  | waits admission slots stage inRow cancelled =>
      have member : ⟨admitted, stage, inRow, cancelled⟩ ∈
          ({ bus with admission, slots }.suspend ⟨admitted, stage, inRow, cancelled⟩).calls := by
        simp [suspend]
      rcases sooner _ member with old | ⟨less, going⟩
      · simp [alone] at old
      · exact .waits ⟨admitted, stage, inRow, cancelled⟩ (by simp [suspend, alone]) rfl rfl rfl going
          less rfl

/-- That a call began is no answer. -/
theorem Coming.called (coming : Coming id message cancelled bound result) (call : CallId) :
    Coming id message cancelled bound (result.1, .called call message :: result.2) := by
  cases coming with
  | answered answer done told expected queued => exact .answered answer done told expected queued
  | waits call alone told own same given less queued =>
      exact .waits call alone told own same given less queued

theorem Calling.called {call : CallId}
    (calling : Calling { bus with nextCall := call + 1 } result) :
    Calling bus (result.1, .called call message :: result.2) where
  same := calling.same
  quiet := List.forall_mem_cons.mpr ⟨⟨rfl, rfl, by simp⟩, calling.quiet⟩
  brought := calling.brought

theorem Coming.mono {greater : Nat} (coming : Coming id message cancelled bound result)
    (less : bound ≤ greater) : Coming id message cancelled greater result := by
  cases coming with
  | answered answer done told expected queued => exact .answered answer done told expected queued
  | waits call alone told own same given fewer queued =>
      exact .waits call alone told own same given (Nat.lt_of_lt_of_le fewer less) queued

theorem coming_refused {next : Bus} {events : List Event} (error : BusError)
    (done : next.calls = []) (told : publishResult? id events = some (.error error))
    (none : queuedIn events = [])
    (expected : Exchange.Expected cancelled ⟨.publish message, .error error⟩) :
    Coming id message cancelled bound (next, events) :=
  .answered (.error error) done told expected (by simp [none, Exchange.taken?])

/-- An open bus with a handler for each topic refuses only what is not valid. -/
theorem accept_error {calls : List PublishCall} {error : BusError} (going : Open bus calls)
    (equipped : Equipped bus) (refused : bus.accept message = .error error) :
    ∃ reason, message.validate = .error reason ∧ error = .invalid reason := by
  simp only [accept] at refused
  split at refused
  next reason invalid =>
    cases refused
    exact ⟨reason, invalid, rfl⟩
  next topic valid => simp [going.closed, equipped.served] at refused

/-- A publish call begins on an open bus with a handler for each topic. -/
theorem publish_coming (free : Open bus []) (equipped : Equipped bus) (message : Message)
    (cancelled : Bool) (putOff : Option PublishStage) :
    Calling bus (bus.publish message cancelled putOff) ∧
      Coming bus.nextCall message cancelled 5 (bus.publish message cancelled putOff) := by
  simp only [publish]
  split
  next error refused =>
    rcases accept_error free equipped refused with ⟨reason, invalid, rfl⟩
    refine ⟨⟨rfl, by simp [Event.started?, Event.ended?], by simp [Event.queued?]⟩, ?_⟩
    refine coming_refused (.invalid reason) free.calls ?_ rfl ?_
    · simp [publishResult?]
    · simp [Exchange.Expected, invalid]
  next topic accepted =>
    have valid : message.validate = .ok topic := (accept_ok accepted).1
    split
    next =>
      refine ⟨⟨rfl, by simp [Event.started?, Event.ended?], by simp [suspend, Event.queued?]⟩, ?_⟩
      exact .waits ⟨⟨bus.nextCall, message, topic⟩, .admission, false, cancelled⟩
        (by simp [suspend, free.calls]) rfl rfl rfl rfl (Nat.lt_succ_self _) rfl
    next =>
      split
      next given =>
        subst given
        refine ⟨⟨rfl, by simp [Event.started?, Event.ended?], by simp [Event.queued?]⟩, ?_⟩
        refine coming_refused .cancelled free.calls ?_ rfl (expected_cancelled valid)
        simp [publishResult?]
      next going =>
        obtain rfl : cancelled = false := by simpa using going
        have brought : Brought { bus with nextCall := bus.nextCall + 1 }
          ⟨bus.nextCall, message, topic⟩ (enter _ _ putOff) := enter_brought
        have sooner := enter_sooner { bus with nextCall := bus.nextCall + 1 }
          ⟨bus.nextCall, message, topic⟩ putOff
        have coming := (brought.coming free.calls valid sooner).mono (Nat.le_succ 4)
        exact ⟨brought.calling.called, coming.called bus.nextCall⟩

/-- A call that gives up leaves the rows of the semaphores, and nothing else changes. -/
theorem withdraw_eq (bus : Bus) (call : PublishCall) :
    ∃ admission slots, bus.withdraw call = { bus.removeCall call.id with admission, slots } := by
  simp only [withdraw]
  split
  next => exact ⟨_, bus.slots, rfl⟩
  next => exact ⟨_, _, rfl⟩

theorem resume_coming {call : PublishCall} (alone : Open bus [call])
    (valid : bus.Throughout Admitted.Valid)
    (resumed : bus.resume call.id putOff = some result) :
    Calling bus result ∧
      Coming call.id call.admitted.message call.cancelled call.rank result := by
  have only : ∀ other ∈ bus.calls, other = call := by
    simp [alone.calls]
  have gone : (bus.removeCall call.id).calls = [] := by
    simp [removeCall, alone.calls]
  have valid := valid.calls call (by simp [alone.calls])
  generalize named : call.id = id at resumed
  cases resume_resumed resumed with
  | @ended other error member reason =>
      cases only other member
      rcases reason with ⟨closed, _⟩ | ⟨_, given, rfl⟩
      · simp [alone.closed] at closed
      · rcases withdraw_eq bus call with ⟨admission, slots, same⟩
        rw [given, same]
        refine ⟨⟨rfl, by simp [Event.started?, Event.ended?], rfl⟩, ?_⟩
        refine coming_refused .cancelled gone ?_ rfl (expected_cancelled valid)
        simp [publishResult?]
  | @entering admitted member going =>
      cases only _ member
      have brought : Brought (bus.removeCall admitted.call) admitted (enter _ _ putOff) :=
        enter_brought
      have sooner := enter_sooner (bus.removeCall admitted.call) admitted putOff
      exact ⟨{ brought.calling with }, brought.coming gone valid sooner⟩
  | @permitted admitted admission member going collected =>
      cases only _ member
      have brought : Brought ({ bus with admission }.removeCall admitted.call) admitted
        (proceed _ _ putOff) := proceed_brought
      have sooner := proceed_sooner ({ bus with admission }.removeCall admitted.call) admitted putOff
      exact ⟨{ brought.calling with }, brought.coming gone valid sooner⟩
  | @handing admitted member going =>
      cases only _ member
      have brought : Brought (bus.removeCall admitted.call) admitted _ := handOff_brought
      have sooner := handOff_sooner (bus.removeCall admitted.call) admitted
      exact ⟨{ brought.calling with }, brought.coming gone valid sooner⟩
  | @placed admitted slots member going collected =>
      cases only _ member
      have brought : Brought ({ bus with slots }.removeCall admitted.call) admitted _ :=
        .queued bus.admission slots
      have sooner : Sooner ({ bus with slots }.removeCall admitted.call) 1
          (({ bus with slots }.removeCall admitted.call).enqueue admitted) :=
        fun call member => .inl member
      exact ⟨{ brought.calling with }, brought.coming gone valid sooner⟩

/-- Each message that is queued is work for the dispatcher and its worker. -/
theorem Calling.work (calling : Calling bus result) :
    result.1.work = bus.work + 4 * (queuedIn result.2).length := by
  have brought := calling.brought
  rw [calling.same] at brought ⊢
  simp only [Bus.work] at brought ⊢
  omega

/-! ## The close call -/

/-- The close call of an open bus waits for the dispatcher. -/
theorem step?_close (equipped : Equipped bus) (free : Open bus [])
    (routing : bus.dispatcher = .routing) :
    bus.step? .close = some ({ bus with
      nextCall := bus.nextCall + 1, closed := true, joinable := false
      closing := [⟨bus.nextCall, true⟩] }, []) := by
  simp [step?, whileHeld, equipped.handle, close, resumeClose, free.closing, free.joinable, routing]

/-- The close call returns when the dispatcher has finished. -/
theorem resumeClose_alone (alone : bus.closing = [⟨id, true⟩])
    (returned : bus.resumeClose id = some result) :
    bus.dispatcher = .finished ∧ result = ({ bus with closing := [] }, [.closeReturned id]) := by
  simp only [resumeClose, alone, ne_eq, not_true_eq_false, if_false, if_true] at returned
  split at returned
  next finished =>
    cases returned
    exact ⟨finished, rfl⟩
  next => cases returned

/-! ## At the outset -/

theorem subscribeAll_subscribed (held : bus.handle = .held) (going : bus.closed = false) :
    Subscribed bus Topic.all (Replay.subscribeAll bus) := by
  rw [Replay.subscribeAll]
  generalize Topic.all = topics
  induction topics generalizing bus with
  | nil => exact ⟨rfl, List.prefix_rfl, by simp, .refl bus⟩
  | cons topic topics ih =>
      have first := subscribe_subscribed held going topic bus.handlers.length
      refine first.trans (ih ?_ ?_)
      · rw [first.same]
        exact held
      · rw [first.same]
        exact going

/-- A replay begins on an open bus with a handler for each topic. -/
theorem outset {config : BusConfig} (started : Bus.start config = .ok bus) {made : Bus}
    (same : (Replay.subscribeAll bus).takeErrors.getD (Replay.subscribeAll bus) = made) :
    Run bus [] made ∧ made.Open [] ∧ made.Equipped ∧ made.work = 2 := by
  cases start_ofConfig started
  have subscribed : Subscribed (ofConfig config) Topic.all (Replay.subscribeAll (ofConfig config)) :=
    subscribeAll_subscribed rfl rfl
  generalize Replay.subscribeAll (ofConfig config) = next at subscribed same
  have unclaimed : next.errors.receiver = .unclaimed := by
    rw [subscribed.same]
    rfl
  have taken : next.step? .takeErrors =
      some (quietly { next with errors := { next.errors with receiver := .taken } }) := by
    simp [step?, takeErrors, unclaimed]
  have claimed : { next with errors := { next.errors with receiver := .taken } } = made := by
    rw [← same]
    simp [takeErrors, unclaimed]
  subst claimed
  refine ⟨subscribed.run.tail taken, ?_, ⟨?_, ?_, ?_⟩, ?_⟩
  · rw [subscribed.same]
    exact ⟨rfl, rfl, rfl, rfl⟩
  · rw [subscribed.same]
    rfl
  · exact fun topic => subscribed.served topic (mem_allTopics topic)
  · rw [subscribed.same]
    rfl
  · rw [subscribed.same]
    rfl

end Bus

end ConversationBus
