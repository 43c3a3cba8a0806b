import ConversationBus.Proofs.Bus.Story

/-!
# The order of a conversation

The messages of a conversation are in one line at all times: first those that were passed to the
handler, then the queue of the worker, then what the ingress queue has of them. The line is the
order in which they entered the ingress queue. Of those that were passed to the handler all have
been handled to the end but the one that is there. A worker that breaks off takes the messages of
its queue out of the line, and so does the dispatcher with the next one.
-/

namespace ConversationBus

variable {config : BusConfig} {bus next : Bus} {result : Bus × List Event} {admitted : Admitted}
  {worker other : Option Worker} {ingress : List Admitted} {key : String}
  {trace events : List Event}

/-! ## The line -/

/-- The messages that the worker of a conversation, if there is one, has not begun with. -/
def waitingAt (worker : Option Worker) : List Admitted :=
  (worker.map Worker.queue).getD []

/-- The message that the worker of a conversation, if there is one, has passed to the handler. -/
def handledAt (worker : Option Worker) : List Admitted :=
  ((worker.bind Worker.running).map Running.admitted).toList

@[simp] theorem waitingAt_none : waitingAt none = [] := rfl

@[simp] theorem waitingAt_some (worker : Worker) : waitingAt (some worker) = worker.queue := rfl

@[simp] theorem handledAt_none : handledAt none = [] := rfl

@[simp] theorem handledAt_some (worker : Worker) :
    handledAt (some worker) = (worker.running.map Running.admitted).toList := rfl

/-- The line of a conversation, after what a trace tells. -/
structure Line (worker : Option Worker) (ingress : List Admitted) (key : String)
    (trace : List Event) : Prop where
  queued : ofKey key (queuedIn trace) =
    ofKey key (goneIn trace) ++ waitingAt worker ++ ofKey key ingress
  started : ofKey key (startedIn trace) = ofKey key (endedIn trace) ++ handledAt worker

namespace Line

theorem aside (line : Line worker ingress key trace) (queued : ofKey key (queuedIn events) = [])
    (gone : ofKey key (goneIn events) = []) (ended : ofKey key (endedIn events) = []) :
    Line worker ingress key (trace ++ events) := by
  have started : ofKey key (startedIn events) = [] :=
    List.sublist_nil.mp (gone ▸ (startedIn_sublist_goneIn events).filter _)
  constructor
  · simp only [queuedIn_append, goneIn_append, ofKey_append, queued, gone, List.append_nil]
    exact line.queued
  · simp only [startedIn_append, endedIn_append, ofKey_append, started, ended, List.append_nil]
    exact line.started

theorem beside (line : Line worker ingress key trace) (silent : ∀ event ∈ events, event.beside) :
    Line worker ingress key (trace ++ events) := by
  rcases views_of_beside silent with ⟨queued, gone, ended⟩
  exact line.aside (by simp [queued]) (by simp [gone]) (by simp [ended])

theorem joined (line : Line worker ingress key trace) (admitted : Admitted) :
    Line worker (ingress ++ [admitted]) key
      (trace ++ [.queued admitted, .returned admitted.call (.ok ())]) := by
  constructor
  · simp only [queuedIn_append, goneIn_append, ofKey_append]
    rw [line.queued]
    simp [Event.queued?, Event.gone?]
  · simp only [startedIn_append, endedIn_append, ofKey_append]
    rw [line.started]
    simp [Event.started?, Event.ended?]

/-- A message that moves from the ingress queue to its worker stays in its place in the line. -/
theorem routed (line : Line worker (admitted :: ingress) key trace)
    (waiting : waitingAt other = waitingAt worker ++ ofKey key [admitted])
    (handled : handledAt other = handledAt worker) : Line other ingress key (trace ++ []) := by
  constructor
  · rw [List.append_nil, line.queued, waiting, ← List.singleton_append, ofKey_append]
    simp only [List.append_assoc]
  · rw [List.append_nil, line.started, handled]

/-- The first message of the queue is passed to the handler when the one before it is done. -/
theorem began {worker : Worker} {queue : List Admitted}
    (line : Line (some worker) ingress key trace) (idle : worker.running = none)
    (first : worker.queue = admitted :: queue) (own : admitted.key = key) (handler : HandlerId) :
    Line (some { worker with queue, running := some ⟨admitted, handler⟩ }) ingress key
      (trace ++ [.started ⟨admitted, handler⟩]) := by
  have alone : ofKey key [admitted] = [admitted] := ofKey_cons_of_eq own []
  constructor
  · simp only [queuedIn_append, goneIn_append, ofKey_append]
    rw [line.queued]
    simp [Event.queued?, Event.gone?, first, alone]
  · simp only [startedIn_append, endedIn_append, ofKey_append]
    rw [line.started]
    simp [Event.started?, Event.ended?, idle, alone]

theorem done {worker : Worker} {running : Running} (line : Line (some worker) ingress key trace)
    (busy : worker.running = some running) (own : running.admitted.key = key) (outcome : Outcome) :
    Line (some { worker with running := none }) ingress key
      (trace ++ [.ended running outcome]) := by
  have alone : ofKey key [running.admitted] = [running.admitted] := ofKey_cons_of_eq own []
  constructor
  · simp only [queuedIn_append, goneIn_append, ofKey_append]
    rw [line.queued]
    simp [Event.queued?, Event.gone?]
  · simp only [startedIn_append, endedIn_append, ofKey_append]
    rw [line.started]
    simp [Event.started?, Event.ended?, busy, alone]

/-- The worker breaks off: the message at the handler is done, and the queue is given up. -/
theorem brokenOff {worker : Worker} {running : Running}
    (line : Line (some worker) ingress key trace) (busy : worker.running = some running)
    (own : running.admitted.key = key) (queue : ∀ admitted ∈ worker.queue, admitted.key = key) :
    Line (some { worker with queue := [], running := none, stopped := true }) ingress key
      (trace ++ .brokenOff running :: worker.queue.map .dropped) := by
  have alone : ofKey key [running.admitted] = [running.admitted] := ofKey_cons_of_eq own []
  have all : ofKey key worker.queue = worker.queue :=
    List.filter_eq_self.mpr fun admitted member => by simpa using queue admitted member
  constructor
  · simp only [queuedIn_append, goneIn_append, ofKey_append]
    rw [line.queued]
    simp [Event.queued?, Event.gone?, all]
  · simp only [startedIn_append, endedIn_append, ofKey_append]
    rw [line.started]
    simp [Event.started?, Event.ended?, busy, alone]

/-- The next message comes upon the worker that has broken off, and is given up. -/
theorem rejected {worker : Worker} (line : Line (some worker) (admitted :: ingress) key trace)
    (empty : worker.queue = []) (idle : worker.running = none) (own : admitted.key = key)
    (report : DeliveryError) (fate : ReportFate) :
    Line none ingress key (trace ++ [.dropped admitted, .reported report fate]) := by
  constructor
  · simp only [queuedIn_append, goneIn_append, ofKey_append]
    rw [line.queued]
    simp [Event.queued?, Event.gone?, empty, ofKey_cons_of_eq own]
  · simp only [startedIn_append, endedIn_append, ofKey_append]
    rw [line.started]
    simp [Event.started?, Event.ended?, idle]

/-- A message of another conversation is taken out of the ingress queue. -/
theorem passed (line : Line worker (admitted :: ingress) key trace) (other : admitted.key ≠ key) :
    Line worker ingress key trace :=
  ⟨by rw [line.queued, ofKey_cons_of_ne other], line.started⟩

end Line

namespace Bus

/-! ## Every change keeps every line -/

theorem Brought.line (brought : Brought bus admitted result)
    (line : Line (bus.worker? key) bus.ingress key trace) :
    Line (result.1.worker? key) result.1.ingress key (trace ++ result.2) := by
  cases brought with
  | queued => exact line.joined admitted
  | waits => exact line.beside (by simp)

/-- A changed worker takes its own line on. The other lines must not notice. -/
theorem line_setWorker {own : String} {old : Worker} (found : bus.worker? own = some old)
    (new : Worker) (same : new.key = own) (line : Line (bus.worker? key) bus.ingress key trace)
    (here : own = key → Line (some old) bus.ingress key trace →
      Line (some new) ingress key (trace ++ events))
    (apart : own ≠ key → Line (bus.worker? key) ingress key (trace ++ events)) :
    Line ((bus.setWorker new).worker? key) ingress key (trace ++ events) := by
  rw [worker?_setWorker found new same key]
  split
  next equal =>
    subst key
    exact here rfl (found ▸ line)
  next different => exact apart (Ne.symm different)

theorem Change.line (sound : Sound config bus) (change : Change bus result)
    (line : Line (bus.worker? key) bus.ingress key trace) :
    Line (result.1.worker? key) result.1.ingress key (trace ++ result.2) := by
  cases change with
  | aside moved =>
      cases moved with
      | intro _ _ silent =>
          exact line.beside fun event member => beside_of_stream (silent event member)
  | closing moved =>
      cases moved.closes with
      | intro _ _ silent =>
          exact line.beside fun event member => beside_of_closing (silent event member)
  | cancelled id => exact line.beside (by simp [quietly])
  | refused message error => exact line.aside rfl rfl rfl
  | @entered message topic result accepted brought =>
      -- What the trace tells first is that the call begins.
      have begun : Line (bus.worker? key) bus.ingress key
          (trace ++ [.called bus.nextCall message]) :=
        line.aside rfl rfl rfl
      simpa using brought.line begun
  | resumed member going brought => exact brought.line line
  | withdrawn admission slots member last => exact line.beside (by simpa using beside_of_last last)
  | @hired admitted ingress routing first absent =>
      rw [first] at line
      rw [worker?_append ⟨admitted.key, [admitted], none, false⟩ absent rfl key]
      split
      next same =>
        subst key
        rw [absent] at line
        exact line.routed (by simp [ofKey]) rfl
      next apart => exact line.routed (by simp [ofKey_cons_of_ne (Ne.symm apart)]) rfl
  | @assigned admitted ingress worker routing first found =>
      refine line_setWorker found _ (worker?_some found).2 line ?_ ?_
      · rintro rfl line
        exact (first ▸ line).routed (by simp [ofKey]) rfl
      · intro apart
        exact (first ▸ line).routed (by simp [ofKey_cons_of_ne apart]) rfl
  | @started own worker admitted queue handler found idle first served =>
      rcases worker?_some found with ⟨member, same⟩
      have home := (sound.home worker member).queue admitted (first ▸ List.mem_cons_self)
      refine line_setWorker found _ same line ?_ ?_
      · rintro rfl line
        exact line.began idle first (home.trans same) handler
      · intro apart
        have other : ofKey key [admitted] = [] := ofKey_cons_of_ne (home.trans same ▸ apart) []
        exact line.aside rfl other rfl
  | @finished own worker running outcome _ _ dropped errors reports found busy counted silent =>
      rcases worker?_some found with ⟨member, same⟩
      have home := (sound.home worker member).running running busy
      rw [List.append_cons]
      refine Line.beside ?_ (beside_of_reports silent)
      refine line_setWorker found _ same line ?_ ?_
      · rintro rfl line
        exact line.done busy (home.trans same) outcome
      · intro apart
        have other : ofKey key [running.admitted] = [] :=
          ofKey_cons_of_ne (home.trans same ▸ apart) []
        exact line.aside rfl rfl other
  | drained | halted => exact line.beside (by simp [quietly])
  | @retired own worker draining found idle empty =>
      refine line_setWorker found _ (worker?_some found).2 line ?_ ?_
      · rintro rfl line
        have same : Line (some { worker with stopped := true }) bus.ingress own trace :=
          ⟨line.queued, line.started⟩
        exact same.beside (by simp [quietly])
      · intro _
        exact line.beside (by simp [quietly])

theorem Rejected.line (books : Books config bus 0 0) (rejected : Rejected bus result)
    (line : Line (bus.worker? key) bus.ingress key trace) :
    Line (result.1.worker? key) result.1.ingress key (trace ++ result.2) := by
  cases rejected with
  | @intro admitted ingress worker droppedErrors errors fate now routing first found stopped =>
      rw [first] at line
      rw [worker?_filter_ne admitted.key rfl]
      split
      next same =>
        subst key
        rw [found] at line
        have idle := books.idle_of_stopped (worker?_some found).1 stopped
        exact line.rejected idle.1 idle.2 rfl _ fate
      next apart =>
        have other : ofKey key [admitted] = [] := ofKey_cons_of_ne (Ne.symm apart) []
        exact (line.passed (Ne.symm apart)).aside rfl other rfl

theorem Broken.line (sound : Sound config bus) (broken : Broken bus result)
    (line : Line (bus.worker? key) bus.ingress key trace) :
    Line (result.1.worker? key) result.1.ingress key (trace ++ result.2) := by
  cases broken with
  | @intro own worker running admission found busy =>
      rcases worker?_some found with ⟨member, same⟩
      have home := sound.home worker member
      refine line_setWorker found { worker with queue := [], running := none, stopped := true }
        same line ?_ ?_
      · rintro rfl line
        exact line.brokenOff busy ((home.running running busy).trans same)
          fun admitted queued => (home.queue admitted queued).trans same
      · intro apart
        have others : ofKey key worker.queue = [] := List.filter_eq_nil_iff.mpr
          fun admitted queued => by simpa [home.queue admitted queued, same] using apart
        have other : ofKey key [running.admitted] = [] :=
          ofKey_cons_of_ne (((home.running running busy).trans same) ▸ apart) []
        refine line.aside ?_ ?_ ?_
        · simp [Event.queued?]
        · simpa [Event.gone?] using others
        · simpa [Event.ended?] using other

theorem Course.line (course : Course bus trace next) (started : Bus.start config = .ok bus)
    (key : String) : Line (next.worker? key) next.ingress key trace := by
  refine course.invariant (fun bus trace => Line (bus.worker? key) bus.ingress key trace) started
    ⟨rfl, rfl⟩ ?_ ?_ ?_
  · exact fun bus trace result sound change line => change.line sound line
  · exact fun bus trace result sound rejected line => rejected.line sound.toBooks line
  · exact fun bus trace result sound broken line => broken.line sound line

/-! ## Workers that have broken off -/

/-- A worker that has stopped while the dispatcher routes has broken off. -/
theorem Course.broken_of_stopped (course : Course bus trace next)
    (started : Bus.start config = .ok bus) (routing : next.dispatcher = .routing) :
    ∀ worker ∈ next.workers, worker.stopped = true → ofKey worker.key (brokenOffIn trace) ≠ [] := by
  have further {key : String} {before after : List Event}
      (broken : ofKey key (brokenOffIn before) ≠ []) :
      ofKey key (brokenOffIn (before ++ after)) ≠ [] := by
    rw [brokenOffIn_append, ofKey_append]
    exact List.append_ne_nil_of_left_ne_nil broken _
  refine course.invariant (fun bus trace => bus.dispatcher = .routing → ∀ worker ∈ bus.workers,
    worker.stopped = true → ofKey worker.key (brokenOffIn trace) ≠ []) started (by simp [ofConfig])
    ?_ ?_ ?_ routing
  · intro bus trace result _ change kept routing worker member stopped
    rcases change.stopped_before routing member stopped with ⟨still, old, present, same, ended⟩
    exact further (same ▸ kept still old present ended)
  · intro bus trace result _ rejected kept routing worker member stopped
    cases rejected with
    | intro _ still =>
        exact further (kept still worker (List.mem_of_mem_filter member) stopped)
  · intro bus trace result sound broken kept routing worker member stopped
    cases broken with
    | @intro key old running admission found busy =>
        rcases mem_setWorker member with rfl | present
        · have home := (sound.home old (worker?_some found).1).running running busy
          simp [Event.brokenOff?, ofKey_cons_of_eq home]
        · exact further (kept routing worker present stopped)

/-- A message is given up only after the worker of its conversation has broken off. -/
theorem Course.broken_of_dropped {before after : List Event} {lost : Admitted}
    (course : Course bus trace next) (started : Bus.start config = .ok bus)
    (split : trace = before ++ .dropped lost :: after) :
    ofKey lost.key (brokenOffIn before) ≠ [] := by
  rcases course.seen split with ⟨mid, prior, head, result, rest, course, advance, rfl, seen⟩
  have sound := course.sound started
  have member : .dropped lost ∈ result.2 := by simp [seen]
  rw [brokenOffIn_append, ofKey_append]
  rcases sound.cases advance with change | rejected | broken
  · cases change.whole _ member
  · cases rejected with
    | intro _ routing _ found stopped =>
        obtain rfl : lost = _ := by simpa using member
        rcases worker?_some found with ⟨present, same⟩
        have broken := course.broken_of_stopped started routing _ present stopped
        exact List.append_ne_nil_of_left_ne_nil (same ▸ broken) _
  · cases broken with
    | @intro key worker running admission found busy =>
        have home := sound.home worker (worker?_some found).1
        have queued : lost ∈ worker.queue := by simpa using member
        have own := (home.running running busy).trans (home.queue lost queued).symm
        cases head with
        | nil => simp at seen
        | cons first head =>
            rw [List.cons_append, List.cons.injEq] at seen
            simp [← seen.1, Event.brokenOff?, ofKey_cons_of_eq own]

/-- As long as its worker has not broken off, no message of a conversation is given up. -/
theorem Course.goneIn_of_whole (course : Course bus trace next)
    (started : Bus.start config = .ok bus) {key : String}
    (whole : ofKey key (brokenOffIn trace) = []) :
    ofKey key (goneIn trace) = ofKey key (startedIn trace) := by
  have kept : ∀ lost, .dropped lost ∈ trace → lost.key ≠ key := by
    rintro lost member rfl
    rcases List.append_of_mem member with ⟨before, after, split⟩
    apply course.broken_of_dropped started split
    rw [split, brokenOffIn_append, ofKey_append, List.append_eq_nil_iff] at whole
    exact whole.1
  rw [ofKey, goneIn, List.filter_filterMap, ofKey, startedIn, List.filter_filterMap]
  refine List.filterMap_congr fun event member => ?_
  cases event with
  | dropped lost => simp [Event.gone?, Event.started?, Option.filter, kept lost member]
  | _ => rfl

/-! ## The order of the handler calls -/

/-- A handler call begins alone, with the first message in the queue of a worker that has none at
the handler. -/
theorem Change.of_started {running : Running} {head rest : List Event} (change : Change bus result)
    (seen : result.2 = head ++ .started running :: rest) :
    head = [] ∧ ∃ own worker queue, bus.worker? own = some worker ∧ worker.running = none ∧
      worker.queue = running.admitted :: queue := by
  have member : .started running ∈ result.2 := by simp [seen]
  cases change with
  | aside moved =>
      cases moved with
      | intro _ _ silent => cases silent _ member
  | closing moved =>
      cases moved.closes with
      | intro _ _ silent => cases silent _ member
  | cancelled | drained | halted | retired | hired | assigned => cases member
  | refused => simp at member
  | entered accepted brought =>
      cases brought with
      | queued | waits => simp [enqueue] at member
  | resumed known going brought =>
      cases brought with
      | queued => simp [enqueue] at member
      | waits => cases member
  | withdrawn admission slots known last =>
      rcases last with rfl | ⟨error, rfl⟩
      · simp at member
      · simp at member
  | @started own worker admitted queue handler found idle first served =>
      obtain rfl : running = _ := by simpa using member
      cases head with
      | nil => exact ⟨rfl, own, worker, queue, found, idle, first⟩
      | cons => simp at seen
  | finished outcome droppedErrors errors found busy counted silent =>
      rcases List.mem_cons.mp member with same | reported
      · cases same
      · rcases silent _ reported with ⟨_, _, same⟩
        cases same


/-- What comes before a place in a list is in front of it. -/
theorem mem_front {α : Type} {left right front back : List α} {entry place : α}
    (equal : left ++ right = front ++ place :: back) (absent : place ∉ left)
    (member : entry ∈ left) : entry ∈ front := by
  rcases List.append_eq_append_iff.mp equal with ⟨more, rfl, _⟩ | ⟨more, rfl, rest⟩
  · exact List.mem_append_left more member
  · cases more with
    | nil => simpa using member
    | cons first more =>
        cases rest
        simp at absent

/-- When a message is passed to the handler, those of its conversation that were passed to it before
have been handled, and it is the next of those that entered the ingress queue and were not given
up. -/
theorem Course.line_at_start {before after : List Event} {running : Running}
    (course : Course bus trace next) (started : Bus.start config = .ok bus)
    (split : trace = before ++ .started running :: after) :
    ∃ mid queue, Course bus before mid ∧
      ofKey running.admitted.key (startedIn before) = ofKey running.admitted.key (endedIn before) ∧
      ofKey running.admitted.key (queuedIn before) =
        ofKey running.admitted.key (goneIn before) ++ running.admitted :: queue := by
  rcases course.seen split with ⟨mid, prior, head, result, rest, course, advance, rfl, seen⟩
  have sound := course.sound started
  have member : .started running ∈ result.2 := by simp [seen]
  rcases sound.cases advance with change | rejected | broken
  · obtain ⟨rfl, own, worker, queue, found, idle, first⟩ := change.of_started seen
    rw [List.append_nil]
    rcases worker?_some found with ⟨present, same⟩
    have home := (sound.home worker present).queue running.admitted (first ▸ List.mem_cons_self)
    rcases course.line started running.admitted.key with ⟨queued, begun⟩
    rw [home.trans same, found, waitingAt_some, first] at queued
    rw [home.trans same, found, handledAt_some, idle, Option.map_none, Option.toList_none,
      List.append_nil] at begun
    refine ⟨mid, queue ++ ofKey own mid.ingress, course, home.trans same ▸ begun, ?_⟩
    rw [home.trans same, queued, List.append_assoc, List.cons_append]
  · cases rejected with
    | intro => simp at member
  · cases broken with
    | intro => simp at member

/-- Along a run, the line of a conversation has no gaps. -/
theorem Run.line (run : Run bus trace next) (started : Bus.start config = .ok bus)
    (key : String) :
    ofKey key (queuedIn trace) =
        ofKey key (startedIn trace) ++ waitingAt (next.worker? key) ++ ofKey key next.ingress ∧
      ofKey key (startedIn trace) = ofKey key (endedIn trace) ++ handledAt (next.worker? key) := by
  rcases (run_iff_course started).mp run with ⟨course, whole⟩
  rcases course.line started key with ⟨queued, begun⟩
  rw [course.goneIn_of_whole started (by rw [whole, ofKey_nil])] at queued
  exact ⟨queued, begun⟩

/-- The publish call of a text had returned without an error when another publish call began. -/
def PublishedBefore (first : CallId) (text : Message) (second : CallId) (trace : List Event) :
    Prop :=
  ∃ earlier message later, trace = earlier ++ .called second message :: later ∧
    .called first text ∈ earlier ∧ .returned first (.ok ()) ∈ earlier

/-- The handler calls of a conversation are in order. -/
structure InOrder (key : String) (trace : List Event) : Prop where
  /-- Messages are passed to the handler or given up in the order in which they entered the ingress
  queue, -/
  line : ofKey key (goneIn trace) <+: ofKey key (queuedIn trace)
  /-- so that the handler gets them in this order. -/
  kept : (ofKey key (startedIn trace)).Sublist (ofKey key (queuedIn trace))
  /-- A message is given up only after the worker of its conversation has broken off. -/
  dropped : ∀ before lost after, trace = before ++ .dropped lost :: after → lost.key = key →
    ofKey key (brokenOffIn before) ≠ []
  /-- As long as it has not, the handler gets every message. -/
  fifo : ofKey key (brokenOffIn trace) = [] →
    ofKey key (startedIn trace) <+: ofKey key (queuedIn trace)
  /-- Before a message is passed to the handler, the handler calls of all that were passed to it have
  ended. -/
  oneByOne : ∀ before running after, trace = before ++ .started running :: after →
    running.admitted.key = key → ofKey key (startedIn before) = ofKey key (endedIn before)
  /-- Before a message is passed to the handler, all whose publish call had returned without an error
  when its own one began are handled to the end, or given up. -/
  published : ∀ before running after, trace = before ++ .started running :: after →
    running.admitted.key = key → ∀ first text, text.conversationKey = key →
    PublishedBefore first text running.admitted.call before →
    ∃ admitted, admitted.call = first ∧ admitted.message = text ∧
      (admitted ∈ endedIn before ∨ admitted ∈ droppedIn before)

theorem mem_endedIn_or_droppedIn {key : String}
    (ended : ofKey key (startedIn trace) = ofKey key (endedIn trace))
    (gone : admitted ∈ ofKey key (goneIn trace)) :
    admitted ∈ endedIn trace ∨ admitted ∈ droppedIn trace := by
  rcases List.mem_filter.mp gone with ⟨gone, own⟩
  rcases List.mem_filterMap.mp gone with ⟨event, member, same⟩
  cases event with
  | started running =>
      have started : admitted ∈ startedIn trace := List.mem_filterMap.mpr ⟨_, member, same⟩
      have handled : admitted ∈ ofKey key (endedIn trace) :=
        ended ▸ List.mem_filter.mpr ⟨started, own⟩
      exact .inl (List.mem_of_mem_filter handled)
  | dropped => exact .inr (List.mem_filterMap.mpr ⟨_, member, same⟩)
  | _ => cases same

/-- The handler calls of every conversation are in order, on every course of a bus. -/
theorem handled_in_order (started : Bus.start config = .ok bus) (course : Course bus trace next)
    (key : String) : InOrder key trace where
  line := by
    rw [(course.line started key).queued, List.append_assoc]
    exact List.prefix_append ..
  kept := by
    rw [(course.line started key).queued, List.append_assoc]
    exact ((startedIn_sublist_goneIn trace).filter _).trans (List.sublist_append_left ..)
  dropped := by
    rintro before lost after split rfl
    exact course.broken_of_dropped started split
  fifo := by
    intro whole
    rw [(course.line started key).queued, course.goneIn_of_whole started whole, List.append_assoc]
    exact List.prefix_append ..
  oneByOne := by
    rintro before running after split rfl
    rcases course.line_at_start started split with ⟨_, _, _, oneByOne, _⟩
    exact oneByOne
  published := by
    rintro before running after split rfl first text same
      ⟨earlier, message, later, rfl, called, returned⟩
    rcases course.line_at_start started split with ⟨mid, queue, course, ended, line⟩
    rcases course.queued_before started called returned with ⟨admitted, queued, rfl, rfl⟩
    have absent : running.admitted ∉ ofKey running.admitted.key (queuedIn earlier) :=
      fun member => course.not_queued_before started (List.mem_of_mem_filter member) rfl
    have present : admitted ∈ ofKey running.admitted.key (queuedIn earlier) :=
      List.mem_filter.mpr ⟨queued, decide_eq_true same⟩
    rw [queuedIn_append, ofKey_append] at line
    have gone := mem_front line absent present
    exact ⟨admitted, rfl, rfl, mem_endedIn_or_droppedIn ended gone⟩

/-- Two nudges of one conversation, at the first of which the handler panics. -/
theorem handled_in_order_two_nudges :
    ∃ bus trace next, Bus.start .standard = .ok bus ∧ Course bus trace next ∧
      (startedIn trace).length = 2 ∧ InOrder "slack:dm:7" trace := by
  have possible : ((ofConfig .standard).steps? [.subscribe "dm-checkin" 0,
      .publish (emptyNudge "slack:dm:7" "first") false none,
      .publish (emptyNudge "slack:dm:7" "second") false none, .route .epoch,
      .begin "slack:dm:7" .epoch, .route .epoch, .finish "slack:dm:7" (.broke none) .epoch,
      .begin "slack:dm:7" .epoch]).map (fun result => (startedIn result.2).length) = some 2 := by
    decide +kernel
  rcases Option.map_eq_some_iff.mp possible with ⟨⟨next, trace⟩, taken, two⟩
  have started : Bus.start .standard = .ok (ofConfig .standard) := rfl
  have course := (run_of_steps taken).course
  exact ⟨_, trace, next, started, course, two, handled_in_order started course _⟩

/-- The handler of the first of four nudges returns an error that cannot be put into words. The
second waits at the worker that breaks off, the third comes upon it, and both are given up, although
they were published before the fourth, which gets to a handler. -/
theorem left_out_of_four_nudges :
    ∃ bus trace next, Bus.start .standard = .ok bus ∧ Course bus trace next ∧
      ((queuedIn trace).map fun admitted => admitted.message.idempotencyKey) =
        ["first", "second", "third", "fourth"] ∧
      ((startedIn trace).map fun admitted => admitted.message.idempotencyKey) =
        ["first", "fourth"] ∧
      ¬ ofKey "slack:dm:7" (startedIn trace) <+: ofKey "slack:dm:7" (queuedIn trace) := by
  have possible : ((ofConfig .standard).breaksOff? [.subscribe "dm-checkin" 0,
      .publish (emptyNudge "slack:dm:7" "first") false none,
      .publish (emptyNudge "slack:dm:7" "second") false none, .route .epoch,
      .begin "slack:dm:7" .epoch, .route .epoch] "slack:dm:7"
      [.publish (emptyNudge "slack:dm:7" "third") false none, .route .epoch,
      .publish (emptyNudge "slack:dm:7" "fourth") false none, .route .epoch,
      .begin "slack:dm:7" .epoch]).map (fun result =>
        ((queuedIn result.2).map fun admitted => admitted.message.idempotencyKey,
          (startedIn result.2).map fun admitted => admitted.message.idempotencyKey,
          decide (ofKey "slack:dm:7" (startedIn result.2) <+:
            ofKey "slack:dm:7" (queuedIn result.2)))) =
      some (["first", "second", "third", "fourth"], ["first", "fourth"], false) := by
    decide +kernel
  rcases Option.map_eq_some_iff.mp possible with ⟨⟨next, trace⟩, taken, seen⟩
  simp only [Prod.mk.injEq, decide_eq_false_iff_not] at seen
  have started : Bus.start .standard = .ok (ofConfig .standard) := rfl
  exact ⟨_, trace, next, started, course_of_breaksOff taken, seen⟩

end Bus

end ConversationBus
