import ConversationBus.Proofs.Bus.Budget
import ConversationBus.Proofs.Bus.Delivery

/-!
# What the return of a close call means

A close call that returns leaves a bus on which all is handled and nothing goes on any more, with
one exception. The first close call alone waits for the dispatcher. When its caller drops it, nobody
can wait any more, and every later close call returns at once, whatever is still to be handled.
-/

namespace ConversationBus.Bus

variable {config : BusConfig} {bus mid next : Bus} {result : Bus × List Event}
  {trace events : List Event}

/-! ## A bus at rest -/

/-- All that was accepted is handled, and the dispatcher and the workers are done. -/
structure Drained (bus : Bus) (trace : List Event) : Prop where
  handled : ∀ call, .returned call (.ok ()) ∈ trace →
    ((endedIn trace).map Admitted.call).count call = 1
  idle : ∀ worker ∈ bus.workers,
    worker.stopped = true ∧ worker.queue = [] ∧ worker.running = none
  finished : bus.dispatcher = .finished
  free : bus.admission.free = bus.maxInFlight

/-- Nothing that is counted differs between two states of a bus, and the second one takes no message
and no handler. -/
structure Sealed (bus next : Bus) : Prop where
  counters : next.counters = bus.counters
  permits : next.admission = bus.admission
  handlers : next.handlers = bus.handlers
  publish : ∀ message topic cancelled putOff, message.validate = .ok topic →
    (next.publish message cancelled putOff).2 =
      [.called next.nextCall message, .returned next.nextCall (.error .closed)]
  subscribe : ∀ name topic handler, resolveTopic name = .ok topic →
    next.subscribe name handler = .error .closed

theorem Regular.all_free (regular : Regular config bus) (finished : bus.dispatcher = .finished) :
    bus.admission.free = bus.maxInFlight := by
  have rest := regular.at_rest finished
  exact regular.toBooks.all_free rest.returned rest.empty
    fun worker member => (rest.idle worker member).2

theorem Run.drained (run : Run bus trace next) (started : Bus.start config = .ok bus)
    (finished : next.dispatcher = .finished) : Drained next trace where
  handled := fun _ returned => (run.count_settled started finished returned).2
  idle := ((run.regular_of_start started).at_rest finished).idle
  finished := finished
  free := (run.regular_of_start started).all_free finished

/-- When the dispatcher has finished, a change leaves alone what is counted. -/
theorem Change.at_rest (change : Change bus result) (regular : Regular config bus)
    (finished : bus.dispatcher = .finished) :
    result.1.dispatcher = .finished ∧ result.1.counters = bus.counters ∧
      result.1.admission = bus.admission ∧ result.1.handlers = bus.handlers := by
  have rest := regular.at_rest finished
  cases change.idling rest with
  | aside moved =>
      cases moved with
      | intro _ _ _ fixed => exact ⟨finished, rfl, rfl, fixed rest.closed⟩
  | closing moved =>
      cases moved.closes with
      | intro => exact ⟨finished, rfl, rfl, rfl⟩
  | cancelled | refused => exact ⟨finished, rfl, rfl, rfl⟩

theorem publish_closed (closed : bus.closed = true) {message : Message} {topic : Topic}
    (valid : message.validate = .ok topic) (cancelled : Bool) (putOff : Option PublishStage) :
    (bus.publish message cancelled putOff).2 =
      [.called bus.nextCall message, .returned bus.nextCall (.error .closed)] := by
  have refused : accept { bus with nextCall := bus.nextCall + 1 } message = .error .closed := by
    simp [accept, valid, closed]
  simp [publish, refused]

theorem subscribe_closed (closed : bus.closed = true) {name : String} {topic : Topic}
    (known : resolveTopic name = .ok topic) (handler : HandlerId) :
    bus.subscribe name handler = .error .closed := by
  simp [subscribe, known, closed]

/-- From the end of the dispatcher on, nothing goes on. -/
theorem Run.sealed (run : Run bus trace next) (regular : Regular config bus)
    (finished : bus.dispatcher = .finished) : next.dispatcher = .finished ∧ Sealed bus next := by
  have kept : next.dispatcher = .finished ∧ next.counters = bus.counters ∧
      next.admission = bus.admission ∧ next.handlers = bus.handlers := by
    induction run with
    | refl => exact ⟨finished, rfl, rfl, rfl⟩
    | tail run taken ih =>
        rcases ih with ⟨finished, counters, permits, handlers⟩
        have regular := run.regular regular
        rcases (step_change regular taken).at_rest regular finished with ⟨done, same⟩
        exact ⟨done, same.1.trans counters, same.2.1.trans permits, same.2.2.trans handlers⟩
  rcases kept with ⟨done, counters, permits, handlers⟩
  have closed := ((run.regular regular).cleared (by simp [done])).1
  exact ⟨done, {
    counters
    permits
    handlers
    publish := fun _ _ cancelled putOff valid => publish_closed closed valid cancelled putOff
    subscribe := fun _ _ handler known => subscribe_closed closed known handler }⟩

/-! ## The turns of close calls -/

/-- The first close call that has its turn takes it upon itself to wait for the dispatcher, and
stands in front of all others until the dispatcher has finished or its caller drops it. -/
structure Turns (bus : Bus) (trace : List Event) : Prop where
  /-- Behind the first call of the row nobody waits for the dispatcher. -/
  behind : ∀ call ∈ bus.closing.tail, call.waiting = false
  untouched : bus.joinable = true → ∀ call ∈ bus.closing, call.waiting = false
  /-- Somebody waits for the dispatcher, or has done so. -/
  owed : bus.joinable = false → bus.dispatcher ≠ .finished →
    (∃ call ∈ bus.closing, call.waiting = true) ∨ ∃ id, .closeAbandoned ⟨id, true⟩ ∈ trace
  /-- When a call that waited was dropped, nobody waits any more. -/
  forgotten : (∃ id, .closeAbandoned ⟨id, true⟩ ∈ trace) →
    bus.joinable = false ∧ ∀ call ∈ bus.closing, call.waiting = false

/-- The row does not notice what is not about close calls. -/
theorem Turns.of_same (turns : Turns bus trace) (closing : next.closing = bus.closing)
    (joinable : next.joinable = bus.joinable)
    (finished : bus.dispatcher = .finished → next.dispatcher = .finished)
    (silent : ∀ event ∈ events, event.ofClosing = false) : Turns next (trace ++ events) where
  behind := closing ▸ turns.behind
  untouched := by
    rw [closing, joinable]
    exact turns.untouched
  owed := by
    rw [closing, joinable]
    intro taken going
    rcases turns.owed taken fun done => going (finished done) with waits | ⟨id, dropped⟩
    · exact .inl waits
    · exact .inr ⟨id, List.mem_append_left _ dropped⟩
  forgotten := by
    rw [closing, joinable]
    rintro ⟨id, dropped⟩
    rcases List.mem_append.mp dropped with old | new
    · exact turns.forgotten ⟨id, old⟩
    · cases silent _ new

theorem Turns.joinRow (turns : Turns bus trace) : Turns bus.joinRow trace where
  behind := by
    intro call member
    cases row : bus.closing with
    | nil => simp [Bus.joinRow, row] at member
    | cons head rest =>
        have others := turns.behind
        simp only [Bus.joinRow, row, List.cons_append, List.tail_cons, List.mem_append,
          List.mem_singleton] at member others
        rcases member with old | rfl
        · exact others call old
        · rfl
  untouched := by
    intro joinable call member
    rcases List.mem_append.mp member with old | new
    · exact turns.untouched joinable call old
    · rw [List.mem_singleton.mp new]
  owed := by
    intro taken going
    rcases turns.owed taken going with ⟨call, member, waits⟩ | dropped
    · exact .inl ⟨call, List.mem_append_left _ member, waits⟩
    · exact .inr dropped
  forgotten := by
    intro dropped
    rcases turns.forgotten dropped with ⟨taken, nobody⟩
    refine ⟨taken, ?_⟩
    intro call member
    rcases List.mem_append.mp member with old | new
    · exact nobody call old
    · rw [List.mem_singleton.mp new]

theorem Turn.turns {id : CallId} (turn : Turn bus id result) (turns : Turns bus trace) :
    Turns result.1 (trace ++ result.2) := by
  rcases turns with ⟨behind, untouched, owed, forgotten⟩
  cases turn with
  | returned first waiting finished =>
      rw [first] at behind untouched forgotten
      exact {
        behind := fun other member => behind other (List.mem_of_mem_tail member)
        untouched := fun joinable other member =>
          untouched joinable other (List.mem_cons_of_mem _ member)
        owed := fun _ going => absurd finished going
        forgotten := by
          simp only [List.mem_append, List.mem_singleton, reduceCtorEq, or_false]
          intro dropped
          rcases forgotten dropped with ⟨taken, nobody⟩
          exact ⟨taken, fun other member => nobody other (List.mem_cons_of_mem _ member)⟩ }
  | waits first fresh joinable going =>
      rw [first] at behind
      exact {
        behind
        untouched := by simp
        owed := fun _ _ => .inl ⟨_, List.mem_cons_self, rfl⟩
        forgotten := by
          rw [List.append_nil]
          intro dropped
          simp [(forgotten dropped).1] at joinable }
  | passes first fresh nothing =>
      rw [first] at behind owed forgotten
      exact {
        behind := fun other member => behind other (List.mem_of_mem_tail member)
        untouched := by simp
        owed := by
          intro _ going
          rcases owed (nothing going) going with ⟨other, member, waits⟩ | ⟨id, dropped⟩
          · rcases List.mem_cons.mp member with rfl | later
            · simp [fresh] at waits
            · simp [behind other later] at waits
          · exact .inr ⟨id, List.mem_append_left _ dropped⟩
        forgotten := by
          simp only [List.mem_append, List.mem_singleton, reduceCtorEq, or_false]
          intro dropped
          exact ⟨trivial, fun other member =>
            (forgotten dropped).2 other (List.mem_cons_of_mem _ member)⟩ }

/-- A call that was dropped while it waited was the first of the row. -/
theorem Turns.abandonClose (turns : Turns bus trace) (id : CallId) :
    Turns (bus.abandonClose id) (trace ++ (bus.closeCalls id).map .closeAbandoned) where
  behind := by
    intro call member
    cases row : bus.closing with
    | nil => simp [Bus.abandonClose, row] at member
    | cons head rest =>
        have others := turns.behind
        rw [row] at others
        apply others call
        simp only [Bus.abandonClose, row, List.filter_cons] at member
        split at member
        next => exact List.mem_of_mem_filter member
        next => exact List.mem_of_mem_filter (List.mem_of_mem_tail member)
  untouched := fun joinable call member =>
    turns.untouched joinable call (List.mem_of_mem_filter member)
  owed := by
    intro taken going
    rcases turns.owed taken going with ⟨⟨other, waiting⟩, member, waits⟩ | ⟨other, dropped⟩
    · cases waits
      by_cases same : other = id
      · refine .inr ⟨other, List.mem_append_right _ (List.mem_map_of_mem ?_)⟩
        exact List.mem_filter.mpr ⟨member, by simpa using same⟩
      · exact .inl ⟨_, List.mem_filter.mpr ⟨member, by simpa using same⟩, rfl⟩
    · exact .inr ⟨other, List.mem_append_left _ dropped⟩
  forgotten := by
    rintro ⟨other, dropped⟩
    rcases List.mem_append.mp dropped with old | new
    · rcases turns.forgotten ⟨other, old⟩ with ⟨taken, nobody⟩
      exact ⟨taken, fun call member => nobody call (List.mem_of_mem_filter member)⟩
    · rcases List.mem_map.mp new with ⟨dropped, chosen, same⟩
      cases same
      rcases List.mem_filter.mp chosen with ⟨member, named⟩
      obtain rfl : other = id := by simpa using named
      have taken : bus.joinable = false := by
        by_contra fresh
        simpa using turns.untouched (by simpa using fresh) _ member
      refine ⟨taken, ?_⟩
      intro call kept
      rcases List.mem_filter.mp kept with ⟨present, apart⟩
      have behind := turns.behind
      cases row : bus.closing with
      | nil => simp [row] at present
      | cons head rest =>
          rw [row] at member present behind
          rcases List.mem_cons.mp member with rfl | later
          · rcases List.mem_cons.mp present with rfl | later
            · simp at apart
            · exact behind call later
          · simpa using behind _ later

theorem Closing.turns (moved : Closing bus result) (turns : Turns bus trace) :
    Turns result.1 (trace ++ result.2) := by
  cases moved with
  | joined => simpa using turns.joinRow
  | began turn => exact turn.turns turns.joinRow
  | resumed turn => exact turn.turns turns
  | abandoned id => exact turns.abandonClose id

theorem Change.turns (change : Change bus result) (turns : Turns bus trace) :
    Turns result.1 (trace ++ result.2) := by
  cases change with
  | aside moved =>
      cases moved with
      | intro _ _ silent =>
          refine turns.of_same rfl rfl id ?_
          intro event member
          cases event with
          | received | discarded => rfl
          | _ => cases silent _ member
  | closing moved => exact moved.turns turns
  | cancelled | hired | assigned | retired => exact turns.of_same rfl rfl id (by simp [quietly])
  | refused | started => exact turns.of_same rfl rfl id (by simp [Event.ofClosing])
  | entered accepted brought =>
      cases brought with
      | queued => exact turns.of_same rfl rfl id (by simp [enqueue, Event.ofClosing])
      | waits => exact turns.of_same rfl rfl id (by simp [Event.ofClosing])
  | resumed member going brought =>
      cases brought with
      | queued => exact turns.of_same rfl rfl id (by simp [enqueue, Event.ofClosing])
      | waits => exact turns.of_same rfl rfl id (by simp)
  | withdrawn admission slots member last =>
      refine turns.of_same rfl rfl id ?_
      intro event present
      rw [List.mem_singleton.mp present]
      rcases last with rfl | ⟨error, rfl⟩
      · rfl
      · rfl
  | finished outcome droppedErrors errors found busy counted silent =>
      refine turns.of_same rfl rfl id ?_
      intro event member
      rcases List.mem_cons.mp member with rfl | reported
      · rfl
      · rcases silent event reported with ⟨report, fate, rfl⟩
        rfl
  | drained routing =>
      exact turns.of_same rfl rfl (by simp [routing]) (by simp [quietly])
  | halted => exact turns.of_same rfl rfl (fun _ => rfl) (by simp [quietly])

theorem Run.turns (run : Run bus trace next) (started : Bus.start config = .ok bus) :
    Turns next trace := by
  refine run.invariant Turns started ?_ fun _ _ _ _ change turns => change.turns turns
  exact {
    behind := by simp [ofConfig]
    untouched := by simp [ofConfig]
    owed := by simp [ofConfig]
    forgotten := by simp }

/-! ## The return of a close call -/

/-- Nobody can wait for the dispatcher any more although it has not finished: the close call that
waited for it was dropped. -/
def Forgotten (bus : Bus) (trace : List Event) : Prop :=
  (∃ id, .closeAbandoned ⟨id, true⟩ ∈ trace) ∧ bus.dispatcher ≠ .finished

/-- A close call that returns has waited, or there was nothing that it could have waited for. -/
theorem Turn.of_closeReturned {id other : CallId} (turn : Turn bus id result)
    (turns : Turns bus trace) (seen : .closeReturned other ∈ result.2) :
    result.1.dispatcher = bus.dispatcher ∧
      (bus.dispatcher = .finished ∨ Forgotten bus trace) := by
  cases turn with
  | returned first waiting finished => exact ⟨rfl, .inl finished⟩
  | waits => cases seen
  | passes first fresh nothing =>
      refine ⟨rfl, ?_⟩
      by_cases going : bus.dispatcher = .finished
      · exact .inl going
      · have behind := turns.behind
        rw [first] at behind
        rcases turns.owed (nothing going) going with ⟨call, member, waits⟩ | dropped
        · rw [first] at member
          rcases List.mem_cons.mp member with rfl | later
          · simp [fresh] at waits
          · simp [behind call later] at waits
        · exact .inr ⟨dropped, going⟩

theorem Change.of_closeReturned {id : CallId} (change : Change bus result)
    (turns : Turns bus trace) (seen : .closeReturned id ∈ result.2) :
    result.1.dispatcher = bus.dispatcher ∧
      (bus.dispatcher = .finished ∨ Forgotten bus trace) := by
  cases change with
  | closing moved =>
      cases moved with
      | joined => cases seen
      | began turn => exact turn.of_closeReturned turns.joinRow seen
      | resumed turn => exact turn.of_closeReturned turns seen
      | abandoned => simp at seen
  | aside moved =>
      cases moved with
      | intro _ _ silent => cases silent _ seen
  | cancelled | hired | assigned | drained | retired | halted => cases seen
  | refused | started => simp at seen
  | entered accepted brought =>
      cases brought with
      | queued | waits => simp [enqueue] at seen
  | resumed member going brought =>
      cases brought with
      | queued => simp [enqueue] at seen
      | waits => cases seen
  | withdrawn admission slots member last =>
      rcases last with rfl | ⟨error, rfl⟩
      · simp at seen
      · simp at seen
  | finished outcome droppedErrors errors found busy counted silent =>
      rcases List.mem_cons.mp seen with same | reported
      · cases same
      · rcases silent _ reported with ⟨_, _, same⟩
        cases same

/-- In a run, a close call that returns leaves a bus on which all is handled and nothing is counted
any more, unless the wait for the dispatcher was forgotten. Once it is, every close call returns at
its turn. A worker that breaks off is left out here: no run has one, and where there is one, the
messages that are given up with it have not been handled when the close call returns. -/
theorem close_returns_drained_iff (started : Bus.start config = .ok bus)
    (run : Run bus trace mid) :
    (∀ step result id, mid.step? step = some result → .closeReturned id ∈ result.2 →
      ((Drained result.1 (trace ++ result.2) ∧
        ∀ later next, Run result.1 later next → Sealed result.1 next) ↔ ¬ Forgotten mid trace)) ∧
    (Forgotten mid trace → ∀ call rest, mid.closing = call :: rest →
      ∃ next, mid.step? (.resumeClose call.id) = some (next, [.closeReturned call.id])) := by
  have regular := run.regular_of_start started
  have turns := run.turns started
  constructor
  · intro step result id taken seen
    rcases (step_change regular taken).of_closeReturned turns seen with ⟨same, reason⟩
    constructor
    · rintro ⟨drained, _⟩ ⟨_, going⟩
      exact going (same.symm.trans drained.finished)
    · intro remembered
      have finished := same.trans (reason.resolve_right remembered)
      have drained := (run.tail taken).drained started finished
      exact ⟨drained, fun _ _ later => (later.sealed (regular.step taken) finished).2⟩
  · rintro ⟨dropped, going⟩ call rest first
    rcases turns.forgotten dropped with ⟨taken, nobody⟩
    have fresh := nobody call (first ▸ List.mem_cons_self)
    exact ⟨_, by simp [step?, resumeClose, first, fresh, taken]; rfl⟩

/-- The first close call is dropped while a handler is at work. The second one returns at once. -/
theorem close_returns_undrained :
    ∃ bus mid trace result, Bus.start .standard = .ok bus ∧ Run bus trace mid ∧
      Forgotten mid trace ∧ mid.step? .close = some result ∧ .closeReturned 2 ∈ result.2 ∧
      result.1.atHandlers = 1 ∧ ¬ (Drained result.1 (trace ++ result.2) ∧
        ∀ later next, Run result.1 later next → Sealed result.1 next) := by
  have possible : ((ofConfig .standard).steps? [.subscribe "dm-checkin" 0,
      .publish (emptyNudge "slack:dm:7" "first") false none, .route .epoch,
      .begin "slack:dm:7" .epoch, .close, .abandonClose 1]).bind (fun prior =>
        (prior.1.step? .close).map fun result =>
          (decide (.closeAbandoned ⟨1, true⟩ ∈ prior.2), prior.1.dispatcher,
            decide (.closeReturned 2 ∈ result.2), result.1.atHandlers)) =
      some (true, .routing, true, 1) := by
    decide +kernel
  rcases Option.bind_eq_some_iff.mp possible with ⟨⟨mid, trace⟩, taken, last⟩
  rcases Option.map_eq_some_iff.mp last with ⟨result, closed, seen⟩
  simp only [Prod.mk.injEq, decide_eq_true_eq] at seen
  rcases seen with ⟨dropped, routing, returned, busy⟩
  have started : Bus.start .standard = .ok (ofConfig .standard) := rfl
  have run := run_of_steps taken
  have forgotten : Forgotten mid trace := ⟨⟨1, dropped⟩, by simp [routing]⟩
  have drained := (close_returns_drained_iff started run).1 .close result 2 closed returned
  exact ⟨_, mid, trace, result, started, run, forgotten, closed, returned, busy,
    fun all => drained.mp all forgotten⟩

end ConversationBus.Bus
