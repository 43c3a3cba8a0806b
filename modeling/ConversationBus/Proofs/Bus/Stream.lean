import ConversationBus.Proofs.Bus.Run

/-!
# The error stream

The reports that leave the error stream, followed by those on it, are the reports that were on it
before, followed by those that entered it: none is lost, none comes twice, and they keep their
order. Once nobody can report any more, what is on the stream is all that its consumer will get.
-/

namespace ConversationBus

/-- The report that an event puts on the error stream. -/
def Event.arriving? : Event → Option DeliveryError
  | .reported report .queued => some report
  | _ => none

/-- The report that an event takes off the error stream. -/
def Event.leaving? : Event → Option DeliveryError
  | .received report => some report
  | .discarded report => some report
  | _ => none

/-- The reports that came on the error stream, in this order. -/
def arrivedIn (trace : List Event) : List DeliveryError :=
  trace.filterMap Event.arriving?

/-- The reports that left the error stream, in this order. -/
def leftIn (trace : List Event) : List DeliveryError :=
  trace.filterMap Event.leaving?

/-- Whether an event is about a report. -/
def Event.ofReport : Event → Bool
  | .reported _ _ | .received _ | .discarded _ => true
  | _ => false

theorem Event.off_stream {event : Event} (other : event.ofReport = false) :
    event.arriving? = none ∧ event.leaving? = none := by
  cases event with
  | reported | received | discarded => cases other
  | _ => exact ⟨rfl, rfl⟩

section Views

variable {before after events : List Event}

@[simp] theorem arrivedIn_append :
    arrivedIn (before ++ after) = arrivedIn before ++ arrivedIn after :=
  List.filterMap_append

@[simp] theorem leftIn_append : leftIn (before ++ after) = leftIn before ++ leftIn after :=
  List.filterMap_append

@[simp] theorem arrivedIn_cons (event : Event) :
    arrivedIn (event :: events) = event.arriving?.toList ++ arrivedIn events :=
  filterMap_eq_toList ..

@[simp] theorem leftIn_cons (event : Event) :
    leftIn (event :: events) = event.leaving?.toList ++ leftIn events :=
  filterMap_eq_toList ..

@[simp] theorem arrivedIn_nil : arrivedIn [] = [] := rfl

@[simp] theorem leftIn_nil : leftIn [] = [] := rfl

theorem Event.ofReport_of_closing {event : Event} (closing : event.ofClosing) :
    event.ofReport = false := by
  cases event with
  | closeReturned | closeAbandoned => rfl
  | _ => cases closing

theorem arrivedIn_of_others (others : ∀ event ∈ events, event.ofReport = false) :
    arrivedIn events = [] :=
  List.filterMap_eq_nil_iff.mpr fun event member => (Event.off_stream (others event member)).1

theorem leftIn_of_others (others : ∀ event ∈ events, event.ofReport = false) :
    leftIn events = [] :=
  List.filterMap_eq_nil_iff.mpr fun event member => (Event.off_stream (others event member)).2

end Views

namespace Bus

variable {config : BusConfig} {bus next : Bus} {result : Bus × List Event} {admitted : Admitted}
  {trace : List Event}

/-! ## Every step keeps the reports together -/

/-- The reports that leave the stream, followed by those on it, are those that were on it before,
followed by those that enter it. -/
def Streams (bus : Bus) (result : Bus × List Event) : Prop :=
  leftIn result.2 ++ result.1.errors.queued = bus.errors.queued ++ arrivedIn result.2

theorem streams_of_same (same : result.1.errors = bus.errors)
    (others : ∀ event ∈ result.2, event.ofReport = false) : Streams bus result := by
  simp only [Streams, same, arrivedIn_of_others others, leftIn_of_others others, List.append_nil,
    List.nil_append]

/-- An event that is not about a report may be told before. -/
theorem Streams.after {event : Event} (streams : Streams bus result)
    (other : event.ofReport = false) : Streams bus (result.1, event :: result.2) := by
  simpa [Streams, Event.off_stream other] using streams

theorem report_streams (same : next.errors = bus.errors) (report : DeliveryError) :
    Streams bus (next.report report) := by
  simp only [Bus.report]
  split
  next => simp [Streams, same, Event.arriving?, Event.leaving?]
  next =>
    split
    next => simp [Streams, same, Event.arriving?, Event.leaving?]
    next => simp [Streams, same, Event.arriving?, Event.leaving?]

theorem conclude_streams (same : next.errors = bus.errors) (admitted : Admitted)
    (failure : Option String) (now : Instant) :
    Streams bus (next.conclude admitted failure now) := by
  cases failure with
  | none => exact streams_of_same same (by simp [conclude])
  | some error =>
      have kept : next.releasePermit.errors = bus.errors := same
      exact report_streams kept _

theorem dropReceiver_streams (bus : Bus) : Streams bus bus.dropReceiver := by
  have left : leftIn (bus.errors.queued.map .discarded) = bus.errors.queued := by
    simp [leftIn, List.filterMap_map, Function.comp_def, Event.leaving?]
  have arrived : arrivedIn (bus.errors.queued.map .discarded) = [] := by
    simp [arrivedIn, Event.arriving?]
  simp only [Streams, dropReceiver, left, arrived, List.append_nil]

theorem route_streams {now : Instant} (routed : bus.route now = some result) :
    Streams bus result := by
  simp only [route] at routed
  split at routed
  next admitted ingress _ _ =>
    cases routed
    simp only [assign]
    split
    next => exact streams_of_same rfl (by simp)
    next =>
      split
      next =>
        apply Streams.after
        · exact report_streams rfl _
        · rfl
      next => exact streams_of_same rfl (by simp)
  next => cases routed

theorem begin_streams {key : String} {now : Instant} (begun : bus.begin key now = some result) :
    Streams bus result := by
  simp only [begin, Option.bind_eq_bind, Option.bind_eq_some_iff] at begun
  rcases begun with ⟨worker, _, begun⟩
  split at begun
  next admitted queue _ _ =>
    split at begun
    next =>
      cases begun
      exact streams_of_same rfl (by simp [Event.ofReport])
    next =>
      cases begun
      exact conclude_streams rfl ..
  next => cases begun

theorem finish_streams {key : String} {outcome : Outcome} {now : Instant}
    (finished : bus.finish key outcome now = some result) : Streams bus result := by
  simp only [finish, Option.bind_eq_bind, Option.bind_eq_some_iff] at finished
  rcases finished with ⟨worker, _, running, _, finished⟩
  cases finished
  apply Streams.after
  · exact conclude_streams rfl ..
  · rfl

theorem takeErrors_streams (claimed : bus.takeErrors = some next) : Streams bus next.quietly := by
  simp only [Bus.takeErrors] at claimed
  split at claimed <;> cases claimed
  simp [Streams, quietly]

theorem receive_streams (received : bus.receive = some result) : Streams bus result := by
  simp only [Bus.receive] at received
  repeat' split at received
  all_goals cases received
  next first => simp [Streams, first, Event.leaving?, Event.arriving?]

theorem dropErrors_streams (dropped : bus.dropErrors = some result) : Streams bus result := by
  simp only [Bus.dropErrors] at dropped
  split at dropped <;> cases dropped
  exact dropReceiver_streams bus

theorem drop_streams (dropped : bus.drop = some result) : Streams bus result := by
  simp only [Bus.drop] at dropped
  repeat' split at dropped
  all_goals cases dropped
  · exact dropReceiver_streams { bus with closed := true, handle := .dropped }
  · exact streams_of_same rfl (by simp)

/-! ## Steps that have nothing to do with reports -/

/-- What leaves the error stream and the counts of outcomes as they are, and tells neither of a
report nor of the end of a handler call. -/
structure OffStream (bus : Bus) (result : Bus × List Event) : Prop where
  errors : result.1.errors = bus.errors
  delivered : result.1.counters.delivered = bus.counters.delivered
  failed : result.1.counters.failed = bus.counters.failed
  droppedErrors : result.1.counters.droppedErrors = bus.counters.droppedErrors
  silent : ∀ event ∈ result.2, event.ofReport = false ∧ event.ended? = none

theorem OffStream.streams (off : OffStream bus result) : Streams bus result :=
  streams_of_same off.errors fun event member => (off.silent event member).1

/-- An event that is not about a report or an outcome may be told before. -/
theorem OffStream.after {event : Event} (off : OffStream bus result)
    (silent : event.ofReport = false ∧ event.ended? = none) :
    OffStream bus (result.1, event :: result.2) :=
  { off with silent := List.forall_mem_cons.mpr ⟨silent, off.silent⟩ }

/-- What is not seen and leaves the error stream and the counters as they are. -/
theorem quiet_offStream (errors : next.errors = bus.errors)
    (counters : next.counters = bus.counters) : OffStream bus next.quietly :=
  ⟨errors, congrArg _ counters, congrArg _ counters, congrArg _ counters, by simp [quietly]⟩

theorem Publishing.offStream (publishing : Publishing bus result) : OffStream bus result := by
  cases publishing with
  | intro silent =>
      refine ⟨rfl, rfl, rfl, rfl, fun event member => ?_⟩
      have publishing := silent event member
      cases event with
      | returned | abandoned | queued => exact ⟨rfl, rfl⟩
      | _ => cases publishing

theorem Closing.offStream (moved : Closing bus result) : OffStream bus result := by
  cases moved.closes with
  | intro _ _ silent =>
      refine ⟨rfl, rfl, rfl, rfl, fun event member => ?_⟩
      have closing := silent event member
      cases event with
      | closeReturned | closeAbandoned => exact ⟨rfl, rfl⟩
      | _ => cases closing

theorem subscribe_offStream {topic : String} {handler : HandlerId}
    (subscribed : bus.subscribe topic handler = .ok next) : OffStream bus next.quietly := by
  simp only [subscribe] at subscribed
  repeat' split at subscribed
  all_goals cases subscribed
  exact quiet_offStream rfl rfl

theorem retire_offStream {key : String} (retired : bus.retire key = some next) :
    OffStream bus next.quietly := by
  simp only [retire, Option.bind_eq_bind, Option.bind_eq_some_iff] at retired
  rcases retired with ⟨worker, _, retired⟩
  split at retired <;> cases retired
  exact quiet_offStream rfl rfl

/-- Whether a step may end a handler call, report a failure, or use the error stream. -/
def Step.reporting : Step → Bool
  | .route _ | .begin .. | .finish .. | .takeErrors | .receive | .dropErrors | .drop => true
  | _ => false

theorem step_offStream {step : Step} (taken : bus.step? step = some result)
    (other : step.reporting = false) : OffStream bus result := by
  cases step with
  | subscribe topic handler =>
      rcases whileHeld_some taken with ⟨_, taken⟩
      split at taken
      next subscribed =>
        cases taken
        exact subscribe_offStream subscribed
      next =>
        cases taken
        exact quiet_offStream rfl rfl
  | publish message cancelled putOff =>
      rcases whileHeld_some taken with ⟨_, taken⟩
      cases taken
      obtain ⟨next, events, equal, publishing⟩ := publish_publishing bus message cancelled putOff
      rw [equal]
      exact publishing.offStream.after ⟨rfl, rfl⟩
  | cancel call =>
      cases taken
      exact quiet_offStream rfl rfl
  | resume call putOff => exact (resume_publishing taken).offStream
  | abandon call =>
      simp only [step?, abandon, Option.map_map, Option.map_eq_some_iff] at taken
      rcases taken with ⟨found, _, rfl⟩
      exact (withdraw_publishing found (by simp [Event.ofPublishing])).offStream
  | close =>
      rcases whileHeld_some taken with ⟨_, taken⟩
      cases taken
      exact (close_closing bus).offStream
  | resumeClose call => exact Closing.offStream (.resumed (resumeClose_turn taken))
  | abandonClose call =>
      cases taken
      exact Closing.offStream (.abandoned call)
  | drain =>
      rcases Option.map_eq_some_iff.mp taken with ⟨next, drained, rfl⟩
      simp only [Bus.drain] at drained
      split at drained <;> cases drained
      exact quiet_offStream rfl rfl
  | retire key =>
      rcases Option.map_eq_some_iff.mp taken with ⟨next, retired, rfl⟩
      exact retire_offStream retired
  | halt =>
      rcases Option.map_eq_some_iff.mp taken with ⟨next, halted, rfl⟩
      simp only [Bus.halt] at halted
      split at halted <;> cases halted
      exact quiet_offStream rfl rfl
  | letGo =>
      cases taken
      simp only [letGo]
      split
      next => exact quiet_offStream rfl rfl
      next => exact quiet_offStream rfl rfl
  | _ => cases other

theorem step_streams {step : Step} (taken : bus.step? step = some result) :
    Streams bus result := by
  cases step with
  | route now => exact route_streams taken
  | begin key now => exact begin_streams taken
  | finish key outcome now => exact finish_streams taken
  | takeErrors =>
      rcases Option.map_eq_some_iff.mp taken with ⟨next, claimed, rfl⟩
      exact takeErrors_streams claimed
  | receive => exact receive_streams taken
  | dropErrors => exact dropErrors_streams taken
  | drop => exact drop_streams taken
  | _ => exact (step_offStream taken rfl).streams

/-- A worker that breaks off has nothing to do with the stream. -/
theorem Broken.streams (broken : Broken bus result) : Streams bus result := by
  cases broken with
  | intro => exact streams_of_same rfl (by simp [Event.ofReport])

/-- Along a course, the reports that left the stream, followed by those on it, are those that were
on it at the beginning, followed by those that entered it. -/
theorem Course.streams (course : Course bus trace next) :
    leftIn trace ++ next.errors.queued = bus.errors.queued ++ arrivedIn trace := by
  induction course with
  | refl => simp
  | @tail mid trace result course advance ih =>
      have last : leftIn result.2 ++ result.1.errors.queued =
          mid.errors.queued ++ arrivedIn result.2 := by
        cases advance with
        | step taken => exact step_streams taken
        | brokenOff broken => exact (breakOff_broken broken).streams
      rw [leftIn_append, arrivedIn_append, List.append_assoc, last, ← List.append_assoc, ih,
        List.append_assoc]

end Bus

end ConversationBus
