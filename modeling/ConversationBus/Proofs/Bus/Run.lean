import ConversationBus.Proofs.Bus.Sound

/-!
# Courses of a bus

A course takes steps one after the other, in any order in which they are possible, and workers may
break off on it. A run is a course on which none does. Both are looked at through their trace, which
is all that can be seen of them: the messages that entered the ingress queue, the handler calls that
began, those that ended, and what became of each publish call.
-/

namespace ConversationBus

/-! ## Views of a trace -/

/-- The message that an event puts into the ingress queue. -/
def Event.queued? : Event → Option Admitted
  | .queued admitted => some admitted
  | _ => none

/-- The message that an event passes to a handler. -/
def Event.started? : Event → Option Admitted
  | .started running => some running.admitted
  | _ => none

/-- The message whose handler call an event ends. -/
def Event.ended? : Event → Option Admitted
  | .ended running _ | .brokenOff running => some running.admitted
  | _ => none

/-- The message at whose handler call a worker breaks off. -/
def Event.brokenOff? : Event → Option Admitted
  | .brokenOff running => some running.admitted
  | _ => none

/-- The message that an event gives up. -/
def Event.dropped? : Event → Option Admitted
  | .dropped admitted => some admitted
  | _ => none

/-- The message that waits no longer after an event: it is passed to a handler or given up. -/
def Event.gone? : Event → Option Admitted
  | .started running => some running.admitted
  | .dropped admitted => some admitted
  | _ => none

/-- Whether an event is about a publish call. -/
def Event.about (id : CallId) : Event → Bool
  | .called call _ => call = id
  | .returned call _ => call = id
  | .abandoned call => call = id
  | .queued admitted => admitted.call = id
  | _ => false

/-- Events that come with a worker that breaks off. -/
def Event.ofBreaking : Event → Bool
  | .brokenOff _ | .dropped _ => true
  | _ => false

/-- The messages that entered the ingress queue, in this order. -/
def queuedIn (trace : List Event) : List Admitted :=
  trace.filterMap Event.queued?

/-- The messages that were passed to a handler, in this order. -/
def startedIn (trace : List Event) : List Admitted :=
  trace.filterMap Event.started?

/-- The messages whose handler calls ended, in this order. -/
def endedIn (trace : List Event) : List Admitted :=
  trace.filterMap Event.ended?

/-- The messages at whose handler calls workers broke off, in this order. -/
def brokenOffIn (trace : List Event) : List Admitted :=
  trace.filterMap Event.brokenOff?

/-- The messages that were given up after that, in this order. -/
def droppedIn (trace : List Event) : List Admitted :=
  trace.filterMap Event.dropped?

/-- The messages that were passed to a handler or given up, in this order. -/
def goneIn (trace : List Event) : List Admitted :=
  trace.filterMap Event.gone?

def toldOf (id : CallId) (trace : List Event) : List Event :=
  trace.filter (Event.about id)

/-- The messages of a conversation, in the same order. -/
def ofKey (key : String) (messages : List Admitted) : List Admitted :=
  messages.filter fun admitted => admitted.key = key

section Views

variable {before after events : List Event}

@[simp] theorem queuedIn_append :
    queuedIn (before ++ after) = queuedIn before ++ queuedIn after :=
  List.filterMap_append

@[simp] theorem startedIn_append :
    startedIn (before ++ after) = startedIn before ++ startedIn after :=
  List.filterMap_append

@[simp] theorem endedIn_append : endedIn (before ++ after) = endedIn before ++ endedIn after :=
  List.filterMap_append

@[simp] theorem brokenOffIn_append :
    brokenOffIn (before ++ after) = brokenOffIn before ++ brokenOffIn after :=
  List.filterMap_append

@[simp] theorem droppedIn_append :
    droppedIn (before ++ after) = droppedIn before ++ droppedIn after :=
  List.filterMap_append

@[simp] theorem goneIn_append : goneIn (before ++ after) = goneIn before ++ goneIn after :=
  List.filterMap_append

theorem filterMap_eq_toList {α β : Type} (view : α → Option β) (first : α) (others : List α) :
    (first :: others).filterMap view = (view first).toList ++ others.filterMap view := by
  rw [List.filterMap_cons]
  cases view first with
  | none => rfl
  | some seen => rfl

@[simp] theorem queuedIn_cons (event : Event) :
    queuedIn (event :: events) = event.queued?.toList ++ queuedIn events :=
  filterMap_eq_toList ..

@[simp] theorem startedIn_cons (event : Event) :
    startedIn (event :: events) = event.started?.toList ++ startedIn events :=
  filterMap_eq_toList ..

@[simp] theorem endedIn_cons (event : Event) :
    endedIn (event :: events) = event.ended?.toList ++ endedIn events :=
  filterMap_eq_toList ..

@[simp] theorem brokenOffIn_cons (event : Event) :
    brokenOffIn (event :: events) = event.brokenOff?.toList ++ brokenOffIn events :=
  filterMap_eq_toList ..

@[simp] theorem goneIn_cons (event : Event) :
    goneIn (event :: events) = event.gone?.toList ++ goneIn events :=
  filterMap_eq_toList ..

@[simp] theorem queuedIn_nil : queuedIn [] = [] := rfl

@[simp] theorem startedIn_nil : startedIn [] = [] := rfl

@[simp] theorem endedIn_nil : endedIn [] = [] := rfl

@[simp] theorem goneIn_nil : goneIn [] = [] := rfl

@[simp] theorem toldOf_append (id : CallId) :
    toldOf id (before ++ after) = toldOf id before ++ toldOf id after :=
  List.filter_append ..

@[simp] theorem ofKey_nil (key : String) : ofKey key [] = [] := rfl

@[simp] theorem ofKey_append (key : String) (left right : List Admitted) :
    ofKey key (left ++ right) = ofKey key left ++ ofKey key right :=
  List.filter_append ..

@[simp] theorem mem_queuedIn {admitted : Admitted} :
    admitted ∈ queuedIn events ↔ .queued admitted ∈ events := by
  simp only [queuedIn, List.mem_filterMap]
  constructor
  · rintro ⟨event, member, same⟩
    cases event with
    | queued other =>
        cases same
        exact member
    | _ => cases same
  · intro member
    exact ⟨_, member, rfl⟩

theorem mem_droppedIn {admitted : Admitted} :
    admitted ∈ droppedIn events ↔ .dropped admitted ∈ events := by
  simp only [droppedIn, List.mem_filterMap]
  constructor
  · rintro ⟨event, member, same⟩
    cases event with
    | dropped other =>
        cases same
        exact member
    | _ => cases same
  · exact fun member => ⟨_, member, rfl⟩

/-- What one view shows, another one shows as well, in the same order. -/
theorem filterMap_sublist_of_imp {α : Type} {view other : Event → Option α}
    (shown : ∀ event shown, view event = some shown → other event = some shown) :
    (events.filterMap view).Sublist (events.filterMap other) := by
  induction events with
  | nil => exact .slnil
  | cons event events ih =>
      rw [filterMap_eq_toList, filterMap_eq_toList other]
      cases seen : view event with
      | none => exact ih.trans (List.sublist_append_right _ _)
      | some message =>
          rw [shown event message seen]
          exact ih.append_left _

/-- Messages that are given up are gone, and nothing else is seen of them. -/
@[simp] theorem goneIn_map_dropped (messages : List Admitted) :
    goneIn (messages.map .dropped) = messages := by
  simp [goneIn, List.filterMap_map, Function.comp_def, Event.gone?]

@[simp] theorem queuedIn_map_dropped (messages : List Admitted) :
    queuedIn (messages.map .dropped) = [] := by
  simp [queuedIn, Event.queued?]

@[simp] theorem startedIn_map_dropped (messages : List Admitted) :
    startedIn (messages.map .dropped) = [] := by
  simp [startedIn, Event.started?]

@[simp] theorem endedIn_map_dropped (messages : List Admitted) :
    endedIn (messages.map .dropped) = [] := by
  simp [endedIn, Event.ended?]

theorem startedIn_sublist_goneIn (trace : List Event) :
    (startedIn trace).Sublist (goneIn trace) := by
  apply filterMap_sublist_of_imp
  intro event message seen
  cases event with
  | started => exact seen
  | _ => cases seen

theorem mem_toldOf {id : CallId} {event : Event} :
    event ∈ toldOf id events ↔ event ∈ events ∧ event.about id :=
  List.mem_filter

/-- The messages of one call that entered the ingress queue are told of in its story. -/
theorem filter_queuedIn (id : CallId) (trace : List Event) :
    ((queuedIn trace).filter fun admitted => admitted.call = id) = queuedIn (toldOf id trace) := by
  rw [queuedIn, toldOf, queuedIn, List.filter_filterMap, List.filterMap_filter]
  congr 1
  funext event
  cases event with
  | queued admitted =>
      by_cases same : admitted.call = id
      · simp [Event.queued?, Event.about, same]
      · simp [Event.queued?, Event.about, same]
  | _ => simp [Event.queued?]

theorem count_ofKey (admitted : Admitted) (messages : List Admitted) :
    (ofKey admitted.key messages).count admitted = messages.count admitted :=
  List.count_filter (by simp)

theorem ofKey_cons_of_eq {key : String} {admitted : Admitted} (same : admitted.key = key)
    (messages : List Admitted) :
    ofKey key (admitted :: messages) = admitted :: ofKey key messages :=
  List.filter_cons_of_pos (by simpa using same)

theorem ofKey_cons_of_ne {key : String} {admitted : Admitted} (apart : admitted.key ≠ key)
    (messages : List Admitted) : ofKey key (admitted :: messages) = ofKey key messages :=
  List.filter_cons_of_neg (by simpa using apart)

end Views

/-- Events that show nothing of a message on its way. -/
def Event.beside (event : Event) : Prop :=
  event.queued? = none ∧ event.gone? = none ∧ event.ended? = none

theorem views_of_beside {events : List Event} (beside : ∀ event ∈ events, event.beside) :
    queuedIn events = [] ∧ goneIn events = [] ∧ endedIn events = [] :=
  ⟨List.filterMap_eq_nil_iff.mpr fun event member => (beside event member).1,
    List.filterMap_eq_nil_iff.mpr fun event member => (beside event member).2.1,
    List.filterMap_eq_nil_iff.mpr fun event member => (beside event member).2.2⟩

theorem beside_of_stream {event : Event} (stream : event.ofStream) : event.beside := by
  cases event with
  | received | discarded => exact ⟨rfl, rfl, rfl⟩
  | _ => cases stream

theorem beside_of_closing {event : Event} (closing : event.ofClosing) : event.beside := by
  cases event with
  | closeReturned | closeAbandoned => exact ⟨rfl, rfl, rfl⟩
  | _ => cases closing

theorem beside_of_last {event : Event} {id : CallId}
    (last : event = .abandoned id ∨ ∃ error, event = .returned id (.error error)) :
    event.beside := by
  rcases last with rfl | ⟨error, rfl⟩
  · exact ⟨rfl, rfl, rfl⟩
  · exact ⟨rfl, rfl, rfl⟩

theorem beside_of_reports {reports : List Event}
    (silent : ∀ event ∈ reports, ∃ report fate, event = .reported report fate) :
    ∀ event ∈ reports, event.beside := by
  intro event member
  rcases silent event member with ⟨report, fate, rfl⟩
  exact ⟨rfl, rfl, rfl⟩

theorem beside_of_called (call : CallId) (message : Message) :
    ∀ event ∈ [Event.called call message], event.beside := by
  intro event member
  rw [List.mem_singleton.mp member]
  exact ⟨rfl, rfl, rfl⟩

namespace Bus

variable {config : BusConfig} {bus mid next : Bus} {trace : List Event}

/-! ## Courses -/

/-- What brings a bus on: a step, or a worker that breaks off at the end of its handler call. -/
inductive Advance (bus : Bus) : Bus × List Event → Prop where
  | step {step : Step} {result : Bus × List Event} (taken : bus.step? step = some result) :
      Advance bus result
  | brokenOff {key : String} {result : Bus × List Event}
      (broken : bus.breakOff key = some result) : Advance bus result

/-- The courses of a bus, with their traces. -/
inductive Course : Bus → List Event → Bus → Prop where
  | refl (bus : Bus) : Course bus [] bus
  | tail {bus mid : Bus} {trace : List Event} {result : Bus × List Event}
      (course : Course bus trace mid) (advance : Advance mid result) :
      Course bus (trace ++ result.2) result.1

/-- The step at which something is seen, and the course up to it. -/
theorem Course.seen {before after : List Event} {event : Event} (course : Course bus trace next)
    (split : trace = before ++ event :: after) :
    ∃ mid prior head result rest, Course bus prior mid ∧ Advance mid result ∧
      before = prior ++ head ∧ result.2 = head ++ event :: rest := by
  induction course generalizing after with
  | refl => simp at split
  | @tail mid trace result course advance ih =>
      rcases List.append_eq_append_iff.mp split with ⟨head, earlier, last⟩ | ⟨later, seen, last⟩
      · exact ⟨mid, trace, head, result, after, course, advance, earlier, last⟩
      · cases later with
        | nil =>
            refine ⟨mid, trace, [], result, after, course, advance, ?_, last.symm⟩
            rw [seen, List.append_nil, List.append_nil]
        | cons other later =>
            cases last
            exact ih seen

theorem Sound.advance {result : Bus × List Event} (sound : Sound config bus)
    (advance : Advance bus result) : Sound config result.1 := by
  cases advance with
  | step taken => exact sound.step taken
  | brokenOff broken => exact sound.breakOff broken

theorem Course.append {later : List Event} (course : Course bus trace mid)
    (rest : Course mid later next) : Course bus (trace ++ later) next := by
  induction rest with
  | refl => simpa using course
  | tail _ advance ih =>
      rw [← List.append_assoc]
      exact ih.tail advance

theorem Sound.cases {result : Bus × List Event} (sound : Sound config bus)
    (advance : Advance bus result) :
    Change bus result ∨ Rejected bus result ∨ Broken bus result := by
  cases advance with
  | step taken => exact (sound.change_or_rejected taken).imp_right .inl
  | brokenOff broken => exact .inr (.inr (breakOff_broken broken))

theorem start_ofConfig (started : Bus.start config = .ok bus) : bus = ofConfig config := by
  simp only [start] at started
  repeat' split at started
  all_goals cases started
  rfl

theorem Course.sound (course : Course bus trace next) (started : Bus.start config = .ok bus) :
    Sound config next := by
  cases start_ofConfig started
  induction course with
  | refl => exact ofConfig_sound config
  | tail _ advance ih => exact ih.advance advance

/-- What holds before the first step and is kept by whatever becomes of a sound bus holds along
every course. -/
theorem Course.invariant (kept : Bus → List Event → Prop) (course : Course bus trace next)
    (started : Bus.start config = .ok bus) (first : kept (ofConfig config) [])
    (change : ∀ bus trace result, Sound config bus → Change bus result → kept bus trace →
      kept result.1 (trace ++ result.2))
    (rejected : ∀ bus trace result, Sound config bus → Rejected bus result → kept bus trace →
      kept result.1 (trace ++ result.2))
    (broken : ∀ bus trace result, Sound config bus → Broken bus result → kept bus trace →
      kept result.1 (trace ++ result.2)) : kept next trace := by
  cases start_ofConfig started
  induction course with
  | refl => exact first
  | tail course advance ih =>
      have sound := course.sound started
      rcases sound.cases advance with changed | refused | ended
      · exact change _ _ _ sound changed ih
      · exact rejected _ _ _ sound refused ih
      · exact broken _ _ _ sound ended ih

/-! ## Runs -/

/-- The runs of a bus, with their traces. Every error that a handler returns can be put into words,
so that no worker breaks off. -/
inductive Run : Bus → List Event → Bus → Prop where
  | refl (bus : Bus) : Run bus [] bus
  | tail {bus mid : Bus} {trace : List Event} {step : Step} {result : Bus × List Event}
      (run : Run bus trace mid) (taken : mid.step? step = some result) :
      Run bus (trace ++ result.2) result.1

theorem Run.course (run : Run bus trace next) : Course bus trace next := by
  induction run with
  | refl => exact .refl _
  | tail _ taken ih => exact ih.tail (.step taken)

/-- A course on which no worker breaks off is a run. -/
theorem Course.run (course : Course bus trace next) (whole : brokenOffIn trace = []) :
    Run bus trace next := by
  induction course with
  | refl => exact .refl _
  | tail _ advance ih =>
      rw [brokenOffIn_append, List.append_eq_nil_iff] at whole
      cases advance with
      | step taken => exact (ih whole.1).tail taken
      | brokenOff broken =>
          cases breakOff_broken broken with
          | intro => simp [Event.brokenOff?] at whole

theorem Run.append {later : List Event} (run : Run bus trace mid) (rest : Run mid later next) :
    Run bus (trace ++ later) next := by
  induction rest with
  | refl => simpa using run
  | tail _ taken ih =>
      rw [← List.append_assoc]
      exact ih.tail taken

/-- Takes steps one after the other, if all are possible. -/
def steps? : Bus → List Step → Option (Bus × List Event)
  | bus, [] => some (bus, [])
  | bus, step :: later => do
    let (mid, events) ← bus.step? step
    let (next, trace) ← mid.steps? later
    some (next, events ++ trace)

theorem run_of_steps {steps : List Step} (taken : bus.steps? steps = some (next, trace)) :
    Run bus trace next := by
  induction steps generalizing bus trace with
  | nil =>
      cases taken
      exact .refl _
  | cons step later ih =>
      simp only [steps?, Option.bind_eq_bind, Option.bind_eq_some_iff] at taken
      rcases taken with ⟨⟨mid, events⟩, first, ⟨_, trace⟩, rest, equal⟩
      cases equal
      exact ((Run.refl _).tail first).append (ih rest)

/-- Takes steps, lets a worker break off, and takes further steps, if all of this is possible. -/
def breaksOff? (bus : Bus) (prior : List Step) (key : String) (later : List Step) :
    Option (Bus × List Event) := do
  let (mid, before) ← bus.steps? prior
  let (broken, seen) ← mid.breakOff key
  let (next, after) ← broken.steps? later
  some (next, before ++ seen ++ after)

theorem course_of_breaksOff {prior later : List Step} {key : String}
    (taken : bus.breaksOff? prior key later = some (next, trace)) : Course bus trace next := by
  simp only [breaksOff?, Option.bind_eq_bind, Option.bind_eq_some_iff] at taken
  rcases taken with ⟨⟨mid, before⟩, first, ⟨broken, seen⟩, off, ⟨_, after⟩, last, equal⟩
  cases equal
  have course := (run_of_steps first).course.tail (.brokenOff off)
  exact course.append (run_of_steps last).course

/-- A nudge with an empty text. -/
def emptyNudge (conversationKey idempotencyKey : String) : Message :=
  .plain "dm-checkin" conversationKey idempotencyKey
    [123, 34, 116, 101, 120, 116, 34, 58, 34, 34, 125] .epoch

theorem start_positive (started : Bus.start config = .ok bus) :
    0 < config.maxInFlight ∧ 0 < config.ingressCapacity := by
  simp only [start] at started
  split at started
  next => cases started
  next some =>
    refine ⟨Nat.pos_of_ne_zero some, ?_⟩
    rw [BusConfig.ingressCapacity]
    split
    next => exact Nat.lt_of_lt_of_le Nat.one_pos (Nat.le_max_right _ _)
    next given => exact Nat.pos_of_ne_zero given

theorem Run.regular (run : Run bus trace next) (regular : Regular config bus) :
    Regular config next := by
  induction run with
  | refl => exact regular
  | tail run taken ih => exact ih.step taken

theorem Run.regular_of_start (run : Run bus trace next) (started : Bus.start config = .ok bus) :
    Regular config next := by
  cases start_ofConfig started
  exact run.regular (ofConfig_regular config)

/-- What holds before the first step and is kept by every change holds along every run. -/
theorem Run.invariant (kept : Bus → List Event → Prop) (run : Run bus trace next)
    (started : Bus.start config = .ok bus) (first : kept (ofConfig config) [])
    (keeps : ∀ bus trace result, Regular config bus → Change bus result → kept bus trace →
      kept result.1 (trace ++ result.2)) : kept next trace := by
  cases start_ofConfig started
  induction run with
  | refl => exact first
  | tail run taken ih =>
      have regular := run.regular (ofConfig_regular config)
      exact keeps _ _ _ regular (step_change regular taken) ih

theorem Change.whole {result : Bus × List Event} (change : Change bus result) :
    ∀ event ∈ result.2, event.ofBreaking = false := by
  cases change with
  | aside moved =>
      cases moved with
      | intro _ _ silent =>
          intro event member
          have stream := silent event member
          cases event with
          | received | discarded => rfl
          | _ => cases stream
  | closing moved =>
      cases moved.closes with
      | intro _ _ silent =>
          intro event member
          have closing := silent event member
          cases event with
          | closeReturned | closeAbandoned => rfl
          | _ => cases closing
  | cancelled | drained | halted | retired | hired | assigned => exact List.forall_mem_nil _
  | refused | started => simp [Event.ofBreaking]
  | entered _ brought | resumed _ _ brought =>
      cases brought with
      | queued | waits => simp [enqueue, Event.ofBreaking]
  | withdrawn _ _ _ last =>
      rcases last with rfl | ⟨error, rfl⟩
      · simp [Event.ofBreaking]
      · simp [Event.ofBreaking]
  | finished _ _ _ _ _ _ silent =>
      refine List.forall_mem_cons.mpr ⟨rfl, fun event member => ?_⟩
      rcases silent event member with ⟨_, _, rfl⟩
      rfl

/-- The runs of a bus are the courses on which no worker breaks off. -/
theorem run_iff_course (started : Bus.start config = .ok bus) :
    Run bus trace next ↔ Course bus trace next ∧ brokenOffIn trace = [] := by
  constructor
  · intro run
    refine ⟨run.course, ?_⟩
    refine run.invariant (fun _ trace => brokenOffIn trace = []) started rfl ?_
    intro bus trace result _ change whole
    rw [brokenOffIn_append, whole, List.nil_append]
    refine List.filterMap_eq_nil_iff.mpr fun event member => ?_
    have kept := change.whole event member
    cases event with
    | brokenOff => cases kept
    | _ => rfl
  · exact fun course => course.1.run course.2

/-! ## Handlers for several topics -/

theorem mem_allTopics (topic : Topic) : topic ∈ Topic.all := by
  cases topic with
  | proactiveShare | dmCheckin | dmReply | chatMessage => decide

theorem resolveTopic_name (topic : Topic) : resolveTopic topic.name = .ok topic := by
  cases topic with
  | proactiveShare | dmCheckin | dmReply | chatMessage => decide

/-- A bus to which handlers of some topics were added. -/
structure Subscribed (bus : Bus) (topics : List Topic) (next : Bus) : Prop where
  same : next = { bus with handlers := next.handlers }
  longer : bus.handlers <+: next.handlers
  served : ∀ topic ∈ topics, next.hasSubscriber topic = true
  run : Run bus [] next

/-- One more handler is added, unless its topic has one already. -/
theorem subscribe_subscribed (held : bus.handle = .held) (going : bus.closed = false)
    (topic : Topic) (handler : HandlerId) :
    Subscribed bus [topic] ((bus.subscribe topic.name handler).toOption.getD bus) := by
  have step : bus.step? (.subscribe topic.name handler) =
      some ((bus.subscribe topic.name handler).toOption.getD bus).quietly := by
    simp only [step?, whileHeld, if_pos held]
    cases bus.subscribe topic.name handler with
    | error | ok => rfl
  have run : Run bus [] ((bus.subscribe topic.name handler).toOption.getD bus) :=
    (Run.refl bus).tail step
  cases served : bus.hasSubscriber topic with
  | true =>
      have same : (bus.subscribe topic.name handler).toOption.getD bus = bus := by
        simp [subscribe, resolveTopic_name, going, served, Except.toOption]
      rw [same] at run ⊢
      exact ⟨rfl, List.prefix_rfl, by simpa using served, run⟩
  | false =>
      have same : (bus.subscribe topic.name handler).toOption.getD bus =
          { bus with handlers := bus.handlers ++ [(topic, handler)] } := by
        simp [subscribe, resolveTopic_name, going, served, Except.toOption]
      rw [same] at run ⊢
      exact ⟨rfl, List.prefix_append _ _, by simp [hasSubscriber], run⟩

theorem Subscribed.trans {mid next : Bus} {topic : Topic} {topics : List Topic}
    (first : Subscribed bus [topic] mid) (rest : Subscribed mid topics next) :
    Subscribed bus (topic :: topics) next where
  same := by rw [rest.same, first.same]
  longer := first.longer.trans rest.longer
  served := by
    have served := first.served topic List.mem_cons_self
    exact List.forall_mem_cons.mpr ⟨hasSubscriber_of_longer rest.longer served, rest.served⟩
  run := first.run.append rest.run

/-- An open bus can get a handler for each of several topics. -/
theorem exists_subscribed (held : bus.handle = .held) (going : bus.closed = false)
    (topics : List Topic) : ∃ next, Subscribed bus topics next := by
  induction topics generalizing bus with
  | nil => exact ⟨bus, rfl, List.prefix_rfl, by simp, .refl bus⟩
  | cons topic topics ih =>
      have first := subscribe_subscribed held going topic 0
      have stillHeld : ((bus.subscribe topic.name 0).toOption.getD bus).handle = .held := by
        rw [first.same]
        exact held
      have stillGoing : ((bus.subscribe topic.name 0).toOption.getD bus).closed = false := by
        rw [first.same]
        exact going
      rcases ih stillHeld stillGoing with ⟨next, rest⟩
      exact ⟨next, first.trans rest⟩

end Bus

end ConversationBus
