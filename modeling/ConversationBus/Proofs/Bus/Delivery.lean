import ConversationBus.Proofs.Bus.Order

/-!
# Every message once

A message is passed to a handler at most once and only after it entered the ingress queue, which is
what its publish call returns. When the dispatcher has finished, each such message has been handled
to the end, and the counters say so.
-/

namespace ConversationBus.Bus

variable {config : BusConfig} {bus next : Bus} {result : Bus × List Event} {admitted : Admitted}
  {trace : List Event}

/-! ## Counters -/

/-- The counters say how many messages entered the ingress queue and how many were handled. -/
structure Counted (bus : Bus) (trace : List Event) : Prop where
  published : bus.counters.published = (queuedIn trace).length
  handled : bus.counters.delivered + bus.counters.failed = (endedIn trace).length

theorem Counted.beside {events : List Event} (counted : Counted bus trace)
    (silent : ∀ event ∈ events, event.beside)
    (published : next.counters.published = bus.counters.published)
    (handled : next.counters.delivered + next.counters.failed =
      bus.counters.delivered + bus.counters.failed) : Counted next (trace ++ events) := by
  rcases views_of_beside silent with ⟨queued, _, ended⟩
  constructor
  · rw [published, queuedIn_append, queued, List.append_nil, counted.published]
  · rw [handled, endedIn_append, ended, List.append_nil, counted.handled]

theorem Brought.counted (brought : Brought bus admitted result) (counted : Counted bus trace) :
    Counted result.1 (trace ++ result.2) := by
  cases brought with
  | queued =>
      constructor
      · simp [enqueue, Event.queued?, counted.published]
      · simp [enqueue, Event.ended?, counted.handled]
  | waits => exact counted.beside (by simp) rfl rfl

theorem Change.counted (change : Change bus result) (counted : Counted bus trace) :
    Counted result.1 (trace ++ result.2) := by
  cases change with
  | aside moved =>
      cases moved with
      | intro _ _ silent =>
          exact counted.beside (fun event member => beside_of_stream (silent event member)) rfl rfl
  | closing moved =>
      cases moved.closes with
      | intro _ _ silent =>
          exact counted.beside (fun event member => beside_of_closing (silent event member)) rfl rfl
  | cancelled | hired | assigned | drained | retired | halted =>
      exact counted.beside (by simp [quietly]) rfl rfl
  | refused message error =>
      exact counted.beside (by simp [Event.beside, Event.queued?, Event.gone?, Event.ended?])
        rfl rfl
  | @entered message topic result accepted brought =>
      have begun : Counted { bus with nextCall := bus.nextCall + 1 }
          (trace ++ [.called bus.nextCall message]) :=
        counted.beside (beside_of_called _ _) rfl rfl
      simpa using brought.counted begun
  | @resumed call _ member going brought =>
      have removed : Counted (bus.removeCall call.id) trace := ⟨counted.published, counted.handled⟩
      exact brought.counted removed
  | withdrawn admission slots member last =>
      exact counted.beside (by simpa using beside_of_last last) rfl rfl
  | started found idle first served =>
      constructor
      · simp [Event.queued?, setWorker, counted.published]
      · simp [Event.ended?, setWorker, counted.handled]
  | @finished own worker running outcome _ _ _ _ reports found busy total silent =>
      rcases views_of_beside (beside_of_reports silent) with ⟨queued, _, ended⟩
      constructor
      · simp [Event.queued?, queued, counted.published]
      · simp [Event.ended?, ended, ← counted.handled, total]

theorem Run.counted (run : Run bus trace next) (started : Bus.start config = .ok bus) :
    Counted next trace :=
  run.invariant Counted started ⟨rfl, rfl⟩ fun _ _ _ _ change counted => change.counted counted

/-! ## One message, one place -/

/-- Every call puts at most one message into the ingress queue. -/
theorem Run.queued_nodup (run : Run bus trace next) (started : Bus.start config = .ok bus) :
    ((queuedIn trace).map Admitted.call).Nodup := by
  rw [List.nodup_iff_count_le_one]
  intro id
  have told := run.course.story started id
  have once := told.length_queuedIn_le
  rw [← filter_queuedIn, ← List.countP_eq_length_filter] at once
  rw [List.count_eq_countP, List.countP_map]
  exact once

/-- A message is passed to a handler at most as often as it entered the ingress queue. -/
theorem Run.started_count_le (run : Run bus trace next) (started : Bus.start config = .ok bus)
    (admitted : Admitted) : (startedIn trace).count admitted ≤ (queuedIn trace).count admitted := by
  rw [← count_ofKey, ← count_ofKey admitted (queuedIn trace),
    (run.line started admitted.key).1, List.append_assoc, List.count_append]
  exact Nat.le_add_right _ _

theorem Run.queued_of_started (run : Run bus trace next) (started : Bus.start config = .ok bus)
    (member : admitted ∈ startedIn trace) : admitted ∈ queuedIn trace := by
  have some := List.count_pos_iff.mpr member
  exact List.count_pos_iff.mp (Nat.lt_of_lt_of_le some (run.started_count_le started admitted))

theorem Run.started_nodup (run : Run bus trace next) (started : Bus.start config = .ok bus) :
    ((startedIn trace).map Admitted.call).Nodup := by
  have queued := run.queued_nodup started
  have once : (startedIn trace).Nodup := by
    rw [List.nodup_iff_count_le_one]
    intro admitted
    have most := List.nodup_iff_count_le_one.mp (.of_map _ queued) admitted
    exact Nat.le_trans (run.started_count_le started admitted) most
  apply once.map_on
  intro first firstMember second secondMember same
  exact List.inj_on_of_nodup_map queued (run.queued_of_started started firstMember)
    (run.queued_of_started started secondMember) same

/-! ## When the dispatcher has finished -/

/-- All messages that entered the ingress queue have been handled then, each once. -/
theorem Run.settled (run : Run bus trace next) (started : Bus.start config = .ok bus)
    (finished : next.dispatcher = .finished) :
    (startedIn trace).Perm (queuedIn trace) ∧ (endedIn trace).Perm (queuedIn trace) := by
  have regular := run.regular_of_start started
  have rest := regular.at_rest finished
  have views (key : String) :
      waitingAt (next.worker? key) = [] ∧ handledAt (next.worker? key) = [] := by
    cases found : next.worker? key with
    | none => exact ⟨rfl, rfl⟩
    | some worker =>
        rcases rest.idle worker (worker?_some found).1 with ⟨_, queue, running⟩
        simp [queue, running]
  have lines (key : String) : ofKey key (queuedIn trace) = ofKey key (startedIn trace) ∧
      ofKey key (startedIn trace) = ofKey key (endedIn trace) := by
    rcases views key with ⟨waiting, handled⟩
    rcases run.line started key with ⟨queued, begun⟩
    exact ⟨by simpa [waiting, rest.empty] using queued, by simpa [handled] using begun⟩
  constructor
  · rw [List.perm_iff_count]
    intro admitted
    rw [← count_ofKey, ← (lines admitted.key).1, count_ofKey]
  · rw [List.perm_iff_count]
    intro admitted
    rw [← count_ofKey, ← (lines admitted.key).2, ← (lines admitted.key).1, count_ofKey]

theorem Run.count_settled {call : CallId} (run : Run bus trace next)
    (started : Bus.start config = .ok bus) (finished : next.dispatcher = .finished)
    (returned : .returned call (.ok ()) ∈ trace) :
    ((startedIn trace).map Admitted.call).count call = 1 ∧
      ((endedIn trace).map Admitted.call).count call = 1 := by
  rcases run.settled started finished with ⟨begun, ended⟩
  have member := (run.course.returned_iff started).mp returned
  have once := List.count_eq_one_of_mem (run.queued_nodup started) member
  exact ⟨(begun.map _).count_eq call ▸ once, (ended.map _).count_eq call ▸ once⟩

/-! ## Exactly once -/

/-- Messages are delivered once, as they were published, and none is lost. -/
structure ExactlyOnce (bus : Bus) (trace : List Event) : Prop where
  /-- No message is passed to a handler twice. -/
  once : ((startedIn trace).map Admitted.call).Nodup
  /-- What is passed to a handler entered the ingress queue before, and is what its publish call
  began with. -/
  asPublished : ∀ before running after, trace = before ++ .started running :: after →
    running.admitted ∈ queuedIn before ∧
      ∀ message, .called running.admitted.call message ∈ before ↔ message = running.admitted.message
  /-- A publish call returns without an error just if its message entered the ingress queue. -/
  accepted : ∀ call,
    .returned call (.ok ()) ∈ trace ↔ call ∈ (queuedIn trace).map Admitted.call
  /-- A publish call that returned with an error or was dropped leaves no message behind. -/
  refused : ∀ call, (.abandoned call ∈ trace ∨ ∃ error, .returned call (.error error) ∈ trace) →
    call ∉ (startedIn trace).map Admitted.call
  /-- When the dispatcher has finished, each message that was accepted has been passed to a handler
  once and handled to the end once, and the counters agree. -/
  settled : bus.dispatcher = .finished →
    (∀ call, .returned call (.ok ()) ∈ trace →
      ((startedIn trace).map Admitted.call).count call = 1 ∧
        ((endedIn trace).map Admitted.call).count call = 1) ∧
      bus.counters.published = bus.counters.delivered + bus.counters.failed

/-- The messages of a bus are delivered once, in every run. -/
theorem delivered_exactly_once (started : Bus.start config = .ok bus)
    (run : Run bus trace next) : ExactlyOnce next trace where
  once := run.started_nodup started
  asPublished := by
    intro before running after split
    rcases run.course.line_at_start started split with ⟨mid, queue, course, _, line⟩
    have queued : running.admitted ∈ queuedIn before := by
      apply List.mem_of_mem_filter
      rw [← ofKey, line]
      simp
    exact ⟨queued, fun message => course.called_iff started queued⟩
  accepted := fun call => run.course.returned_iff started
  refused := by
    intro call failed begun
    rcases List.mem_map.mp begun with ⟨admitted, member, rfl⟩
    exact run.course.not_queued_of_failed started failed (run.queued_of_started started member)
  settled := by
    intro finished
    have counted := run.counted started
    refine ⟨fun call returned => run.count_settled started finished returned, ?_⟩
    rw [counted.published, counted.handled, (run.settled started finished).2.length_eq]

/-- One message is handled by a handler that breaks off, one publish call is cancelled and one
dropped while they wait, and the bus is closed. -/
theorem delivered_exactly_once_of_three :
    ∃ config bus trace next, Bus.start config = .ok bus ∧ Run bus trace next ∧
      .returned 0 (.ok ()) ∈ trace ∧ .returned 1 (.error .cancelled) ∈ trace ∧
      .abandoned 2 ∈ trace ∧ next.dispatcher = .finished ∧ ExactlyOnce next trace := by
  let config : BusConfig := { BusConfig.standard with maxInFlight := 1 }
  have possible : ((ofConfig config).steps? [.subscribe "dm-checkin" 0,
      .publish (emptyNudge "slack:dm:7" "first") false none,
      .publish (emptyNudge "slack:dm:8" "second") false none,
      .publish (emptyNudge "slack:dm:9" "third") false none, .cancel 1, .resume 1 none, .abandon 2,
      .route .epoch, .begin "slack:dm:7" .epoch, .close, .finish "slack:dm:7" (.broke none) .epoch,
      .drain, .retire "slack:dm:7", .halt, .resumeClose 3]).map (fun result =>
        (decide (.returned 0 (.ok ()) ∈ result.2),
          decide (.returned 1 (.error .cancelled) ∈ result.2),
          decide (.abandoned 2 ∈ result.2), result.1.dispatcher)) =
      some (true, true, true, .finished) := by
    decide +kernel
  rcases Option.map_eq_some_iff.mp possible with ⟨⟨next, trace⟩, taken, seen⟩
  simp only [Prod.mk.injEq, decide_eq_true_eq] at seen
  rcases seen with ⟨accepted, cancelled, abandoned, finished⟩
  have started : Bus.start config = .ok (ofConfig config) := rfl
  have run := run_of_steps taken
  exact ⟨config, _, trace, next, started, run, accepted, cancelled, abandoned, finished,
    delivered_exactly_once started run⟩

end ConversationBus.Bus
