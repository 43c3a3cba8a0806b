import ConversationBus.Proofs.Bus.Run
import Mathlib.Data.Finset.Card
import Mathlib.Data.Finset.Dedup

/-!
# Handlers and workers of messages

A message goes to the handler that its topic had when its publish call checked it, through the
worker of its conversation. Both follow from what was done before: topics get their handlers by
subscriptions, and conversations get their workers by messages that leave the ingress queue. A
history of a bus keeps each step with the state in which it was taken.
-/

namespace ConversationBus

/-- Whether an event tells of a publish call that begins, of a handler call that begins or of a
failed delivery. -/
def Event.telling : Event → Bool
  | .called .. | .started _ | .reported .. => true
  | _ => false

namespace Bus

variable {config : BusConfig} {bus mid next : Bus} {step : Step} {result : Bus × List Event}
  {admitted : Admitted}

/-! ## What a step does to handlers and workers -/

/-- The handler that a step registers for a topic: that of a subscription which the bus takes. -/
def registered? (bus : Bus) : Step → Option (Topic × HandlerId)
  | .subscribe name handler =>
    match bus.subscribe name handler, resolveTopic name with
    | .ok _, .ok topic => some (topic, handler)
    | _, _ => none
  | _ => none

/-- The message that a step takes from the ingress queue. -/
def taken? (bus : Bus) : Step → Option Admitted
  | .route _ => bus.ingress.head?
  | _ => none

/-- What each step keeps to: a topic gets its handler by a subscription, a conversation its worker
by a message that is taken from the ingress queue, a message its handler from the table, and a
failure is reported at the end of the handler call that failed. -/
structure Deed (bus : Bus) (step : Step) (result : Bus × List Event) : Prop where
  table : result.1.handlers = bus.handlers ++ (bus.registered? step).toList
  staff : ∀ key, key ∈ result.1.workers.map Worker.key ↔
    key ∈ bus.workers.map Worker.key ∨ (bus.taken? step).map Admitted.key = some key
  counted : result.1.counters.workers + bus.workers.length =
    bus.counters.workers + result.1.workers.length
  called : ∀ call message, .called call message ∈ result.2 →
    call = bus.nextCall ∧ ∃ cancelled putOff, step = .publish message cancelled putOff
  started : ∀ running, .started running ∈ result.2 →
    (∃ worker ∈ bus.workers, running.admitted ∈ worker.queue) ∧
      bus.handlers.lookup running.admitted.topic = some running.handler
  reports : ∀ report fate, .reported report fate ∈ result.2 →
    ∃ key outcome now running error, step = .finish key outcome now ∧
      .ended running outcome ∈ result.2 ∧ outcome.failure? = some error ∧
      report = ⟨running.admitted.message, error, .handler, now⟩

/-- What leaves the handlers alone, starts no worker and tells nothing of them. -/
structure Bypasses (bus : Bus) (result : Bus × List Event) : Prop where
  handlers : result.1.handlers = bus.handlers
  staff : result.1.workers.map Worker.key = bus.workers.map Worker.key
  counted : result.1.counters.workers = bus.counters.workers
  untold : ∀ event ∈ result.2, event.telling = false

namespace Bypasses

theorem length (bypasses : Bypasses bus result) :
    result.1.workers.length = bus.workers.length := by
  simpa using congrArg List.length bypasses.staff

theorem deed (bypasses : Bypasses bus result) (registers : bus.registered? step = none)
    (takes : bus.taken? step = none) : Deed bus step result where
  table := by rw [bypasses.handlers, registers, Option.toList_none, List.append_nil]
  staff := by simp [bypasses.staff, takes]
  counted := by rw [bypasses.counted, bypasses.length]
  called := fun call message member => by cases bypasses.untold _ member
  started := fun running member => by cases bypasses.untold _ member
  reports := fun report fate member => by cases bypasses.untold _ member

end Bypasses

/-- What is not seen and leaves handlers, workers and counters alone. -/
theorem quiet_deed (handlers : next.handlers = bus.handlers) (workers : next.workers = bus.workers)
    (counters : next.counters = bus.counters) (registers : bus.registered? step = none)
    (takes : bus.taken? step = none) : Deed bus step next.quietly := by
  have bypasses : Bypasses bus next.quietly :=
    ⟨handlers, congrArg _ workers, congrArg _ counters, by simp [quietly]⟩
  exact bypasses.deed registers takes

theorem Publishing.bypasses (publishing : Publishing bus result) : Bypasses bus result := by
  cases publishing with
  | intro silent =>
      refine ⟨rfl, rfl, rfl, fun event member => ?_⟩
      have publishing := silent event member
      cases event with
      | returned | abandoned | queued => rfl
      | _ => cases publishing

theorem Closing.bypasses (moved : Closing bus result) : Bypasses bus result := by
  cases moved.closes with
  | intro later kept silent =>
      refine ⟨rfl, rfl, rfl, ?_⟩
      intro event member
      have closing := silent event member
      cases event with
      | closeReturned | closeAbandoned => rfl
      | _ => cases closing

theorem publish_deed (bus : Bus) (message : Message) (cancelled : Bool)
    (putOff : Option PublishStage) :
    Deed bus (.publish message cancelled putOff) (bus.publish message cancelled putOff) := by
  obtain ⟨next, events, equal, publishing⟩ := publish_publishing bus message cancelled putOff
  have bypasses := publishing.bypasses
  have others : Deed bus (.publish message cancelled putOff) (next, events) :=
    bypasses.deed rfl rfl
  rw [equal]
  exact { others with
    called := by
      intro call other member
      rcases List.mem_cons.mp member with same | member
      · cases same
        exact ⟨rfl, cancelled, putOff, rfl⟩
      · exact others.called call other member
    started := fun running member => others.started running (by simpa using member)
    reports := fun report fate member => by cases bypasses.untold _ (by simpa using member) }

theorem subscribe_deed {name : String} {handler : HandlerId}
    (subscribed : bus.subscribe name handler = .ok next) :
    Deed bus (.subscribe name handler) next.quietly := by
  have registered : bus.registered? (.subscribe name handler) =
      (resolveTopic name).toOption.map fun topic => (topic, handler) := by
    rw [registered?, subscribed]
    cases resolveTopic name with
    | error | ok => rfl
  simp only [subscribe] at subscribed
  repeat' split at subscribed
  all_goals cases subscribed
  next topic resolved _ _ =>
    exact {
      table := by rw [registered, resolved]; rfl
      staff := by simp [quietly, taken?]
      counted := rfl
      called := by simp [quietly]
      started := by simp [quietly]
      reports := by simp [quietly] }

/-- A step that takes the oldest message of the ingress queue and brings it to its worker. -/
theorem Routed.deed {now : Instant} (routed : Routed bus result)
    (regular : Regular config bus) : Deed bus (.route now) result := by
  cases routed with
  | @hired admitted ingress routing first absent =>
      have taken : bus.taken? (.route now) = some admitted := by simp [taken?, first]
      exact {
        table := (List.append_nil _).symm
        staff := by simp [taken, eq_comm]
        counted := by simp; omega
        called := by simp
        started := by simp
        reports := by simp }
  | @assigned admitted ingress worker routing first found awake =>
      have taken : bus.taken? (.route now) = some admitted := by simp [taken?, first]
      have present : admitted.key ∈ bus.workers.map Worker.key := by
        rcases worker?_some found with ⟨member, same⟩
        exact same ▸ List.mem_map_of_mem member
      exact {
        table := (List.append_nil _).symm
        staff := by
          intro key
          rw [setWorker_keys, taken, Option.map_some, Option.some_inj]
          refine ⟨.inl, ?_⟩
          rintro (there | rfl)
          · exact there
          · exact present
        counted := by simp [setWorker]
        called := by simp
        started := by simp
        reports := by simp }
  | rejected rejected => exact absurd regular rejected.not_regular

theorem begin_deed (regular : Regular config bus) {key : String} {now : Instant}
    (begun : bus.begin key now = some result) : Deed bus (.begin key now) result := by
  rcases begin_some regular.served.queued begun with
    ⟨worker, admitted, queue, handler, found, idle, first, known, rfl⟩
  exact {
    table := (List.append_nil _).symm
    staff := by intro key; rw [setWorker_keys]; simp [taken?]
    counted := by simp [setWorker]
    called := by simp
    started := by
      intro running member
      cases List.mem_singleton.mp member
      exact ⟨⟨worker, (worker?_some found).1, by simp [first]⟩, known⟩
    reports := by simp }

theorem finish_deed {key : String} {outcome : Outcome} {now : Instant}
    (finished : bus.finish key outcome now = some result) :
    Deed bus (.finish key outcome now) result := by
  simp only [finish, Option.bind_eq_bind, Option.bind_eq_some_iff] at finished
  rcases finished with ⟨worker, found, running, busy, finished⟩
  cases finished
  simp only [conclude]
  split
  next =>
    exact {
      table := (List.append_nil _).symm
      staff := by intro key; simp [releasePermit, taken?, -List.mem_map]
      counted := by simp [releasePermit, setWorker]
      called := by simp
      started := by simp
      reports := by simp }
  next error failed =>
    obtain ⟨droppedErrors, errors, fate, equal⟩ := report_eq
      (bus.setWorker { worker with running := none }).releasePermit
      ⟨running.admitted.message, error, .handler, now⟩
    rw [equal]
    exact {
      table := (List.append_nil _).symm
      staff := by intro key; simp [releasePermit, taken?, -List.mem_map]
      counted := by simp [releasePermit, setWorker]
      called := by simp
      started := by simp
      reports := by
        intro report fate member
        obtain ⟨rfl, _⟩ : report = _ ∧ _ := by simpa using member
        exact ⟨key, outcome, now, running, error, rfl, List.mem_cons_self, failed, rfl⟩ }

theorem aside_bypasses (moved : Aside bus result) (same : result.1.handlers = bus.handlers) :
    Bypasses bus result := by
  cases moved with
  | intro grown kept silent fixed =>
      refine ⟨same, rfl, rfl, ?_⟩
      intro event member
      have stream := silent event member
      cases event with
      | received | discarded => rfl
      | _ => cases stream

theorem retire_bypasses {key : String} (retired : bus.retire key = some next) :
    Bypasses bus next.quietly := by
  simp only [retire, Option.bind_eq_bind, Option.bind_eq_some_iff] at retired
  rcases retired with ⟨worker, found, retired⟩
  split at retired <;> cases retired
  exact ⟨rfl, setWorker_keys _, rfl, by simp [quietly]⟩

theorem step_deed (regular : Regular config bus) (taken : bus.step? step = some result) :
    Deed bus step result := by
  cases step with
  | subscribe name handler =>
      rcases whileHeld_some taken with ⟨_, taken⟩
      split at taken
      next subscribed =>
        cases taken
        exact subscribe_deed subscribed
      next refused =>
        cases taken
        exact quiet_deed rfl rfl rfl (by simp [registered?, refused]) rfl
  | publish message cancelled putOff =>
      rcases whileHeld_some taken with ⟨_, taken⟩
      cases taken
      exact publish_deed bus message cancelled putOff
  | cancel call =>
      cases taken
      exact quiet_deed rfl rfl rfl rfl rfl
  | resume call putOff => exact (resume_publishing taken).bypasses.deed rfl rfl
  | abandon call =>
      simp only [step?, abandon, Option.map_map, Option.map_eq_some_iff] at taken
      rcases taken with ⟨found, _, rfl⟩
      exact (withdraw_publishing found (by simp [Event.ofPublishing])).bypasses.deed rfl rfl
  | close =>
      rcases whileHeld_some taken with ⟨_, taken⟩
      cases taken
      exact (close_closing bus).bypasses.deed rfl rfl
  | resumeClose call =>
      have moved : Closing bus result := .resumed (resumeClose_turn taken)
      exact moved.bypasses.deed rfl rfl
  | abandonClose call =>
      cases taken
      exact (Closing.abandoned call).bypasses.deed rfl rfl
  | route now => exact (route_routed taken).deed regular
  | begin key now => exact begin_deed regular taken
  | finish key outcome now => exact finish_deed taken
  | drain =>
      rcases Option.map_eq_some_iff.mp taken with ⟨next, drained, rfl⟩
      simp only [Bus.drain] at drained
      split at drained <;> cases drained
      exact quiet_deed rfl rfl rfl rfl rfl
  | retire key =>
      rcases Option.map_eq_some_iff.mp taken with ⟨next, retired, rfl⟩
      exact (retire_bypasses retired).deed rfl rfl
  | halt =>
      rcases Option.map_eq_some_iff.mp taken with ⟨next, halted, rfl⟩
      simp only [Bus.halt] at halted
      split at halted <;> cases halted
      exact quiet_deed rfl rfl rfl rfl rfl
  | takeErrors =>
      rcases Option.map_eq_some_iff.mp taken with ⟨next, claimed, rfl⟩
      simp only [Bus.takeErrors] at claimed
      split at claimed <;> cases claimed
      exact quiet_deed rfl rfl rfl rfl rfl
  | receive =>
      refine (aside_bypasses (receive_aside taken) ?_).deed rfl rfl
      simp only [step?, Bus.receive] at taken
      repeat' split at taken
      all_goals cases taken
      rfl
  | dropErrors =>
      refine (aside_bypasses (dropErrors_aside taken) ?_).deed rfl rfl
      simp only [step?, Bus.dropErrors] at taken
      split at taken <;> cases taken
      rfl
  | letGo =>
      cases taken
      refine (aside_bypasses letGo_aside ?_).deed rfl rfl
      simp only [quietly, letGo]
      split
      next => rfl
      next => rfl
  | drop =>
      refine (aside_bypasses (drop_aside taken) ?_).deed rfl rfl
      simp only [step?, Bus.drop] at taken
      repeat' split at taken
      all_goals cases taken
      all_goals rfl

theorem registered?_free {topic : Topic} {handler : HandlerId}
    (registered : bus.registered? step = some (topic, handler)) :
    bus.handlers.lookup topic = none := by
  cases step with
  | subscribe name own =>
      simp only [registered?] at registered
      split at registered
      next next known subscribed resolved =>
        cases registered
        simp only [subscribe, resolved] at subscribed
        repeat' split at subscribed
        all_goals cases subscribed
        next free => simpa only [hasSubscriber, Option.not_isSome_iff_eq_none] using free
      next => cases registered
  | _ => cases registered

/-! ## Histories -/

/-- A step with the state in which it is taken and what it leads to. -/
structure Moment where
  before : Bus
  step : Step
  result : Bus × List Event

/-- The handler that is registered at a moment. -/
def Moment.registered? (moment : Moment) : Option (Topic × HandlerId) :=
  moment.before.registered? moment.step

/-- The message that is taken from the ingress queue at a moment. -/
def Moment.taken? (moment : Moment) : Option Admitted :=
  moment.before.taken? moment.step

/-- The runs of a bus, with all their moments. -/
inductive History : Bus → List Moment → Bus → Prop where
  | refl (bus : Bus) : History bus [] bus
  | tail {bus mid : Bus} {moments : List Moment} {step : Step} {result : Bus × List Event}
      (history : History bus moments mid) (taken : mid.step? step = some result) :
      History bus (moments ++ [⟨mid, step, result⟩]) result.1

variable {moments : List Moment}

/-- A history is a run; its trace is what is seen at its moments. -/
theorem History.run (history : History bus moments next) :
    Run bus (moments.flatMap fun moment => moment.result.2) next := by
  induction history with
  | refl => exact .refl _
  | tail _ taken ih =>
      rw [List.flatMap_append, List.flatMap_singleton]
      exact ih.tail taken

theorem Run.history {trace : List Event} (run : Run bus trace next) :
    ∃ moments, History bus moments next ∧
      trace = moments.flatMap fun moment => moment.result.2 := by
  induction run with
  | refl => exact ⟨[], .refl _, rfl⟩
  | tail _ taken ih =>
      rcases ih with ⟨moments, history, rfl⟩
      exact ⟨_, history.tail taken, by simp⟩

/-- The publish call of a message checked the message while its topic had a handler. -/
def CheckedWith (moments : List Moment) (admitted : Admitted) (handler : HandlerId) : Prop :=
  ∃ moment ∈ moments,
    (∃ cancelled putOff, moment.step = .publish admitted.message cancelled putOff) ∧
      moment.before.nextCall = admitted.call ∧
      moment.before.accept admitted.message = .ok admitted.topic ∧
      moment.before.handlers.lookup admitted.topic = some handler

theorem CheckedWith.append {handler : HandlerId} (checked : CheckedWith moments admitted handler)
    (later : List Moment) : CheckedWith (moments ++ later) admitted handler := by
  rcases checked with ⟨moment, member, rest⟩
  exact ⟨moment, List.mem_append_left later member, rest⟩

/-- What holds before the first step and is kept by every step holds along every history. -/
theorem History.invariant (kept : List Moment → Bus → Prop) (history : History bus moments next)
    (started : Bus.start config = .ok bus) (first : kept [] (ofConfig config))
    (keeps : ∀ moments bus step result, Regular config bus → bus.step? step = some result →
      kept moments bus → kept (moments ++ [⟨bus, step, result⟩]) result.1) :
    kept moments next := by
  induction history with
  | refl =>
      cases start_ofConfig started
      exact first
  | tail history taken ih =>
      exact keeps _ _ _ _ (history.run.regular_of_start started) taken ih

theorem History.table (history : History bus moments next)
    (started : Bus.start config = .ok bus) :
    next.handlers = moments.filterMap Moment.registered? := by
  refine history.invariant (fun moments bus => bus.handlers = moments.filterMap _) started rfl ?_
  intro moments bus step result regular taken table
  rw [(step_deed regular taken).table, table, List.filterMap_append]
  simp only [List.filterMap_cons, Moment.registered?]
  cases bus.registered? step with
  | none | some => rfl

theorem History.topics_nodup (history : History bus moments next)
    (started : Bus.start config = .ok bus) : (next.handlers.map Prod.fst).Nodup := by
  refine history.invariant (fun _ bus => (bus.handlers.map Prod.fst).Nodup) started
    List.nodup_nil ?_
  intro moments bus step result regular taken nodup
  rw [(step_deed regular taken).table, List.map_append]
  cases registered : bus.registered? step with
  | none => simpa using nodup
  | some entry =>
      rcases entry with ⟨topic, handler⟩
      have free := List.lookup_eq_none_iff.mp (registered?_free registered)
      refine nodup.append (List.nodup_singleton topic) (List.disjoint_singleton.mpr ?_)
      intro member
      rcases List.mem_map.mp member with ⟨entry, present, rfl⟩
      simpa using free entry present

/-- The handlers of each moment are still there, in the same places. -/
theorem History.longer (history : History bus moments next)
    (started : Bus.start config = .ok bus) :
    ∀ moment ∈ moments, moment.before.handlers <+: next.handlers := by
  refine history.invariant
    (fun moments bus => ∀ moment ∈ moments, moment.before.handlers <+: bus.handlers) started
    (by simp) ?_
  intro moments bus step result regular taken longer
  have grown := (step_change regular taken).longer
  exact List.forall_mem_append.mpr ⟨fun moment member => (longer moment member).trans grown,
    List.forall_mem_singleton.mpr grown⟩

theorem History.served (history : History bus moments next)
    (started : Bus.start config = .ok bus) :
    next.Throughout fun admitted => ∃ handler,
      CheckedWith moments admitted handler ∧
        next.handlers.lookup admitted.topic = some handler := by
  refine history.invariant (fun moments bus => bus.Throughout fun admitted => ∃ handler,
    CheckedWith moments admitted handler ∧ bus.handlers.lookup admitted.topic = some handler)
    started (.ofConfig config _) ?_
  intro moments bus step result regular taken served
  have change := step_change regular taken
  have keeps (admitted : Admitted) (handler : HandlerId)
      (found : bus.handlers.lookup admitted.topic = some handler) :=
    lookup_of_longer change.longer found
  apply change.throughout
  · apply served.mono
    rintro admitted ⟨handler, checked, found⟩
    exact ⟨handler, checked.append _, keeps admitted handler found⟩
  · intro message topic accepted called
    rcases (step_deed regular taken).called _ _ called with ⟨_, published⟩
    rcases Option.isSome_iff_exists.mp (accept_ok accepted).2.2 with ⟨handler, found⟩
    exact ⟨handler, ⟨_, List.mem_append_right _ (List.mem_singleton_self _), published, rfl,
      accepted, found⟩, keeps ⟨_, message, topic⟩ handler found⟩

theorem History.invoked (history : History bus moments next)
    (started : Bus.start config = .ok bus) :
    ∀ moment ∈ moments, ∀ running, .started running ∈ moment.result.2 →
      CheckedWith moments running.admitted running.handler := by
  induction history with
  | refl => simp
  | @tail mid moments step result history taken ih =>
      have regular := history.run.regular_of_start started
      refine List.forall_mem_append.mpr ⟨?_, List.forall_mem_singleton.mpr ?_⟩
      · intro moment member running begun
        exact (ih moment member running begun).append _
      · intro running begun
        rcases (step_deed regular taken).started running begun with
          ⟨⟨worker, member, queued⟩, found⟩
        rcases (history.served started).queued worker member _ queued with
          ⟨handler, checked, same⟩
        obtain rfl : handler = running.handler := Option.some_inj.mp (same.symm.trans found)
        exact checked.append _

/-- There is one worker for each conversation of which a message has left the ingress queue. -/
theorem History.staff (history : History bus moments next)
    (started : Bus.start config = .ok bus) :
    next.counters.workers = next.workers.length ∧
      ∀ key, key ∈ next.workers.map Worker.key ↔
        key ∈ (moments.filterMap Moment.taken?).map Admitted.key := by
  refine history.invariant (fun moments bus => bus.counters.workers = bus.workers.length ∧
    ∀ key, key ∈ bus.workers.map Worker.key ↔
      key ∈ (moments.filterMap Moment.taken?).map Admitted.key) started (by simp [ofConfig]) ?_
  rintro moments bus step result regular taken ⟨counted, staff⟩
  have deed := step_deed regular taken
  refine ⟨by have := deed.counted; omega, ?_⟩
  intro key
  rw [deed.staff, staff, List.filterMap_append, List.map_append, List.mem_append]
  simp [Moment.taken?, eq_comm]

theorem History.reports (history : History bus moments next)
    (started : Bus.start config = .ok bus) :
    ∀ moment ∈ moments, ∀ report fate, .reported report fate ∈ moment.result.2 →
      ∃ key outcome now running error, moment.step = .finish key outcome now ∧
        .ended running outcome ∈ moment.result.2 ∧ outcome.failure? = some error ∧
        report = ⟨running.admitted.message, error, .handler, now⟩ := by
  induction history with
  | refl => simp
  | tail history taken ih =>
      have deed := step_deed (history.run.regular_of_start started) taken
      exact List.forall_mem_append.mpr ⟨ih, List.forall_mem_singleton.mpr deed.reports⟩

/-- How the handlers and the workers of a bus come from what was done before. -/
structure WellRouted (moments : List Moment) (bus : Bus) : Prop where
  /-- The table lists the handlers of all subscriptions that were taken, in their order. -/
  table : bus.handlers = moments.filterMap Moment.registered?
  /-- No two of them are of one topic. -/
  once : ((moments.filterMap Moment.registered?).map Prod.fst).Nodup
  /-- A handler that a topic has had at any moment is still the one of the topic. -/
  lasting : ∀ moment ∈ moments, ∀ topic handler,
    moment.before.handlers.lookup topic = some handler →
      bus.handlers.lookup topic = some handler
  /-- Every message on its way has the handler with which its publish call checked it. -/
  served : bus.Throughout fun admitted => ∃ handler,
    CheckedWith moments admitted handler ∧ bus.handlers.lookup admitted.topic = some handler
  /-- That handler is the one which is called with the message. -/
  invoked : ∀ moment ∈ moments, ∀ running, .started running ∈ moment.result.2 →
    CheckedWith moments running.admitted running.handler
  /-- A worker has the messages of its conversation. -/
  own : ∀ worker ∈ bus.workers, ∀ admitted ∈ worker.queue, admitted.key = worker.key
  /-- No two workers are of one conversation. -/
  keys : (bus.workers.map Worker.key).Nodup
  /-- The workers are counted as the conversations of the messages that left the ingress queue. -/
  counted : bus.counters.workers =
    ((moments.filterMap Moment.taken?).map Admitted.key).toFinset.card
  /-- Failures are reported only at the end of handler calls that failed, with their errors. -/
  reports : ∀ moment ∈ moments, ∀ report fate, .reported report fate ∈ moment.result.2 →
    ∃ key outcome now running error, moment.step = .finish key outcome now ∧
      .ended running outcome ∈ moment.result.2 ∧ outcome.failure? = some error ∧
      report = ⟨running.admitted.message, error, .handler, now⟩

/-- In every run, messages go to the handlers that their publish calls found, each conversation has
one worker, and nothing else than a handler's own failure is reported. -/
theorem well_routed (started : Bus.start config = .ok bus) (history : History bus moments next) :
    WellRouted moments next where
  table := history.table started
  once := history.table started ▸ history.topics_nodup started
  lasting := fun moment member _ _ found =>
    lookup_of_longer (history.longer started moment member) found
  served := history.served started
  invoked := history.invoked started
  own := fun worker member =>
    ((history.run.regular_of_start started).home worker member).queue
  keys := (history.run.regular_of_start started).keys
  counted := by
    rcases history.staff started with ⟨counted, staff⟩
    have nodup := (history.run.regular_of_start started).keys
    rw [counted, ← List.length_map Worker.key, ← List.toFinset_card_of_nodup nodup]
    congr 1
    ext key
    rw [List.mem_toFinset, List.mem_toFinset, staff]
  reports := history.reports started

/-- A second subscription of a topic is refused, the bus is closed while a handler call runs that
then breaks off, and the message of another conversation is routed after that. -/
theorem well_routed_two_conversations :
    ∃ config bus moments next, Bus.start config = .ok bus ∧ History bus moments next ∧
      next.closed = true ∧ next.handlers = [(.dmCheckin, 0)] ∧ next.counters.workers = 2 ∧
      WellRouted moments next := by
  have possible : ((ofConfig .standard).steps? [.subscribe "dm-checkin" 0,
      .publish (emptyNudge "slack:dm:7" "first") false none, .subscribe "dm-checkin" 1,
      .publish (emptyNudge "slack:dm:8" "second") false none, .route .epoch,
      .begin "slack:dm:7" .epoch, .close, .finish "slack:dm:7" (.broke none) .epoch,
      .route .epoch, .begin "slack:dm:8" .epoch]).map (fun result =>
        (result.1.closed, result.1.handlers, result.1.counters.workers)) =
      some (true, [(.dmCheckin, 0)], 2) := by
    decide +kernel
  rcases Option.map_eq_some_iff.mp possible with ⟨⟨next, trace⟩, taken, seen⟩
  simp only [Prod.mk.injEq] at seen
  rcases (run_of_steps taken).history with ⟨moments, history, _⟩
  have started : Bus.start .standard = .ok (ofConfig .standard) := rfl
  exact ⟨.standard, _, moments, next, started, history, seen.1, seen.2.1, seen.2.2,
    well_routed started history⟩

end Bus

end ConversationBus
