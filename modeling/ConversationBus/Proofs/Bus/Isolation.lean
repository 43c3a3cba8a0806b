import ConversationBus.Proofs.Bus.Passage
import Mathlib.Data.Finset.Card

/-!
# A slow conversation blocks only itself

However messages are spread over the queues and however many handlers never return, the oldest
message of a conversation that has no handler call running can be brought to its handler by the
dispatcher and its own worker. While a permit is free, publish calls get through as well, so that
as many conversations as there are permits can be at work at once.
-/

namespace ConversationBus.Bus

variable {config : BusConfig} {bus mid next : Bus} {result : Bus × List Event}
  {admitted : Admitted} {key : String} {rest : List Admitted} {trace : List Event}

/-! ## The dispatcher moves on -/

/-- The worker of the message gets it, unless it has broken off. -/
theorem Moved.joins (moved : Moved bus next admitted rest) (intact : ¬ bus.BrokenOff admitted.key) :
    ∃ worker, next.worker? admitted.key = some worker ∧
      worker.queue = waitingAt (bus.worker? admitted.key) ++ [admitted] ∧
      worker.running = bus.runningFor admitted.key := by
  rw [moved.worker, if_pos rfl]
  cases found : bus.worker? admitted.key with
  | none => exact ⟨_, rfl, rfl, by simp [runningFor, found]⟩
  | some worker =>
      cases stopped : worker.stopped with
      | true => exact absurd ⟨moved.routed, worker, found, stopped⟩ intact
      | false =>
          rw [workerAfter_awake stopped]
          exact ⟨_, rfl, rfl, (runningFor_of_worker found).symm⟩

/-- A message whose worker has broken off is reported. -/
theorem Routed.reports (routed : Routed bus result) (first : bus.ingress = admitted :: rest)
    (broken : bus.BrokenOff admitted.key) : ∃ now fate,
    .reported ⟨admitted.message, "conversation worker is not running", .dispatch, now⟩ fate ∈
      result.2 := by
  rcases broken with ⟨_, worker, present, ended⟩
  cases routed with
  | hired routing same absent =>
      cases same.symm.trans first
      simp [absent] at present
  | assigned routing same found awake =>
      cases same.symm.trans first
      cases found.symm.trans present
      simp [awake] at ended
  | rejected rejected =>
      cases rejected with
      | @intro _ _ _ _ _ fate now routing same =>
          cases same.symm.trans first
          exact ⟨now, fate, by simp⟩

/-- The dispatcher can move all messages that are before the oldest one of a conversation. -/
theorem Sound.routes_up_to (sound : Sound config bus) (routing : bus.dispatcher = .routing)
    {before after : List Admitted} (split : bus.ingress = before ++ admitted :: after)
    (apart : ∀ other ∈ before, other.key ≠ key) :
    ∃ trace mid, Way Step.routes bus trace mid ∧ mid.dispatcher = .routing ∧
      mid.ingress = admitted :: after ∧ mid.worker? key = bus.worker? key ∧
      bus.admission.free ≤ mid.admission.free := by
  induction before generalizing bus with
  | nil => exact ⟨[], bus, .refl bus, routing, split, rfl, Nat.le_refl _⟩
  | cons other before ih =>
      rw [List.forall_mem_cons] at apart
      rcases route_possible routing split with ⟨result, taken⟩
      have moved := (route_routed taken).moved split
      have alone : result.1.worker? key = bus.worker? key := by
        rw [moved.worker, if_neg (Ne.symm apart.1)]
      rcases ih (sound.step taken) moved.dispatcher moved.ingress apart.2 with
        ⟨trace, mid, way, stillRouting, front, same, free⟩
      exact ⟨_, mid, .head rfl taken way, stillRouting, front, same.trans alone,
        Nat.le_trans moved.free free⟩

/-! ## A conversation goes on -/

/-- A worker that has no handler call running can begin with the first message of its queue. -/
theorem Sound.begins (sound : Sound config bus) {worker : Worker} {queue : List Admitted}
    (found : bus.worker? key = some worker) (idle : worker.running = none)
    (first : worker.queue = admitted :: queue) :
    ∃ handler trace next, Way (Step.serves key) bus trace next ∧
      bus.handlers.lookup admitted.topic = some handler ∧
      next.runningFor key = some ⟨admitted, handler⟩ ∧ next.admission = bus.admission := by
  rcases worker?_some found with ⟨member, same⟩
  have served := sound.served.queued worker member admitted (first ▸ List.mem_cons_self)
  rcases Option.isSome_iff_exists.mp served with ⟨handler, known⟩
  let began : Worker := { worker with queue, running := some ⟨admitted, handler⟩ }
  have taken : bus.step? (.begin key .epoch) =
      some (bus.setWorker began, [.started ⟨admitted, handler⟩]) := by
    simp [step?, begin, found, idle, first, known, began]
  have present : (bus.setWorker began).worker? key = some began := by
    rw [worker?_setWorker found began same, if_pos rfl]
  exact ⟨handler, _, _, .head (by simp [Step.serves]) taken (.refl _), known,
    runningFor_of_worker present, rfl⟩

/-- The oldest message of a conversation comes first at its worker, or in the ingress queue. -/
theorem waitingFor_cons (line : bus.waitingFor key = admitted :: rest) :
    (∃ worker queue, bus.worker? key = some worker ∧ worker.queue = admitted :: queue) ∨
    (waitingAt (bus.worker? key) = [] ∧ admitted.key = key ∧ ∃ before after,
      bus.ingress = before ++ admitted :: after ∧ ∀ other ∈ before, other.key ≠ key) := by
  rw [waitingFor] at line
  cases waiting : waitingAt (bus.worker? key) with
  | cons other queue =>
      rw [waiting] at line
      cases line
      cases found : bus.worker? key with
      | none => simp [found] at waiting
      | some worker =>
          rw [found, waitingAt_some] at waiting
          exact .inl ⟨worker, queue, rfl, waiting⟩
  | nil =>
      rw [waiting, List.nil_append, ofKey] at line
      rcases List.filter_eq_cons_iff.mp line with ⟨before, after, split, apart, own, _⟩
      refine .inr ⟨rfl, by simpa using own, before, after, split, ?_⟩
      intro other member
      simpa using apart other member

theorem Sound.routing_of_ingress (sound : Sound config bus) {before after : List Admitted}
    (split : bus.ingress = before ++ admitted :: after) : bus.dispatcher = .routing := by
  by_contra past
  simp [(sound.cleared past).2.2] at split

/-- The oldest message of a conversation can be brought to its handler by the dispatcher and its own
worker. -/
theorem Sound.serves (sound : Sound config bus) (line : bus.waitingFor key = admitted :: rest)
    (idle : bus.runningFor key = none) (intact : ¬ bus.BrokenOff key) :
    ∃ handler trace next, Way (Step.serves key) bus trace next ∧
      bus.handlers.lookup admitted.topic = some handler ∧
      next.runningFor key = some ⟨admitted, handler⟩ ∧
      bus.admission.free ≤ next.admission.free := by
  rcases waitingFor_cons line with ⟨worker, queue, found, first⟩ | inIngress
  · rw [runningFor_of_worker found] at idle
    rcases sound.begins found idle first with ⟨handler, trace, next, way, known, running, same⟩
    exact ⟨handler, trace, next, way, known, running, same ▸ Nat.le_refl _⟩
  · rcases inIngress with ⟨empty, rfl, before, after, split, apart⟩
    have routing := sound.routing_of_ingress split
    rcases sound.routes_up_to routing split apart with
      ⟨prior, mid, way, routing, front, same, free⟩
    have undisturbed := way.undisturbed sound fun step routes =>
      Step.onward_of_serves step (Step.serves_of_routes admitted.key step routes)
    rcases route_possible routing front with ⟨result, taken⟩
    have moved := (route_routed taken).moved front
    have stillIntact : ¬ mid.BrokenOff admitted.key :=
      fun broken => intact (undisturbed.intact _ broken)
    rcases moved.joins stillIntact with ⟨worker, found, queue, running⟩
    rw [same, empty, List.nil_append] at queue
    rw [runningFor, same, ← runningFor, idle] at running
    rcases ((way.sound sound).step taken).begins found running queue with
      ⟨handler, later, next, last, known, begun, still⟩
    rw [moved.handlers, undisturbed.handlers] at known
    have wide := way.mono (Step.serves_of_routes admitted.key)
    refine ⟨handler, _, next, wide.append (.head rfl taken last), known, begun, ?_⟩
    rw [still]
    exact Nat.le_trans free moved.free

/-- Where the worker of a conversation has broken off, the dispatcher can report the oldest message
as not delivered. After that the conversation goes on as if it were new. -/
theorem Sound.reports (sound : Sound config bus) (line : bus.waitingFor key = admitted :: rest)
    (broken : bus.BrokenOff key) :
    ∃ trace next, Way Step.routes bus trace next ∧ next.worker? key = none ∧ ∃ now fate,
      .reported ⟨admitted.message, "conversation worker is not running", .dispatch, now⟩ fate ∈
        trace := by
  rcases broken with ⟨routing, worker, found, stopped⟩
  have nothing := (sound.idle_of_stopped (worker?_some found).1 stopped).1
  rcases waitingFor_cons line with ⟨other, queue, present, first⟩ | inIngress
  · cases found.symm.trans present
    simp [nothing] at first
  · rcases inIngress with ⟨_, rfl, before, after, split, apart⟩
    rcases sound.routes_up_to routing split apart with
      ⟨prior, mid, way, routing, front, same, _⟩
    rcases route_possible routing front with ⟨result, taken⟩
    have routed := route_routed taken
    have gone : result.1.worker? admitted.key = none := by
      rw [(routed.moved front).worker, if_pos rfl, same, found, workerAfter_stopped stopped]
    rcases routed.reports front ⟨routing, worker, same.trans found, stopped⟩ with ⟨now, fate, seen⟩
    refine ⟨_, result.1, way.append (.head rfl taken (.refl _)), gone, now, fate, ?_⟩
    simp [seen]

/-! ## Many conversations at work -/

/-- A valid message whose topic has a handler is taken while the bus is open. -/
theorem accept_of_valid {message : Message} {topic : Topic} (valid : message.validate = .ok topic)
    (going : bus.closed = false) (served : bus.hasSubscriber topic = true) :
    bus.accept message = .ok topic := by
  simp [accept, valid, going, served]

/-- While a permit is free, a handler call of any conversation can be made to run, beside those that
run already. -/
theorem Sound.one_at_work (sound : Sound config bus) (held : bus.handle = .held)
    (room : 0 < config.ingressCapacity) (oneFree : 0 < bus.admission.free)
    (intact : ¬ bus.BrokenOff key) {message : Message} {topic : Topic}
    (own : message.conversationKey = key) (accepted : bus.accept message = .ok topic) :
    ∃ trace next, Way Step.onward bus trace next ∧ (next.runningFor key).isSome ∧
      bus.admission.free ≤ next.admission.free + 1 := by
  cases busy : bus.runningFor key with
  | some running => exact ⟨[], bus, .refl bus, by simp [busy], Nat.le_succ _⟩
  | none =>
      cases line : bus.waitingFor key with
      | cons admitted rest =>
          rcases sound.serves line busy intact with ⟨handler, trace, next, way, _, begun, free⟩
          exact ⟨trace, next, way.mono Step.onward_of_serves, by simp [begun],
            Nat.le_succ_of_le free⟩
      | nil =>
          have taken : bus.step? (.publish message false none) =
              some (bus.publish message false none) := by
            simp [step?, whileHeld, held]
          rcases publish_completes sound room oneFree accepted taken with
            ⟨later, mid, way, _, queued, free⟩
          have brought : Way Step.onward bus _ mid :=
            .head rfl taken (way.mono Step.onward_of_brings)
          have reached := brought.sound sound
          have undisturbed := brought.undisturbed sound fun _ onward => onward
          cases begun : mid.runningFor key with
          | some running =>
              exact ⟨_, mid, brought, by simp [begun], Nat.le_add_of_sub_le free⟩
          | none =>
              have member : ⟨bus.nextCall, message, topic⟩ ∈ mid.waitingFor key :=
                List.mem_append_right _ (List.mem_filter.mpr ⟨queued, decide_eq_true own⟩)
              rcases List.exists_cons_of_ne_nil (List.ne_nil_of_mem member) with
                ⟨first, rest, line⟩
              have stillIntact : ¬ mid.BrokenOff key :=
                fun broken => intact (undisturbed.intact key broken)
              rcases reached.serves line begun stillIntact with
                ⟨handler, trace, next, last, _, running, more⟩
              refine ⟨_, next, brought.append (last.mono Step.onward_of_serves),
                by simp [running], ?_⟩
              omega

/-- As many conversations as permits are free can be brought to work at once, beside those that are
at work already. -/
theorem Sound.all_at_work (sound : Sound config bus) (going : bus.closed = false)
    (held : bus.handle = .held) (room : 0 < config.ingressCapacity) {keys : List String}
    (enough : keys.length ≤ bus.admission.free) (intact : ∀ key ∈ keys, ¬ bus.BrokenOff key)
    (known : ∀ key ∈ keys, ∃ (message : Message) (topic : Topic), message.conversationKey = key ∧
      message.validate = .ok topic ∧ bus.hasSubscriber topic = true) :
    ∃ trace next, Way Step.onward bus trace next ∧
      ∀ key ∈ keys, (next.runningFor key).isSome := by
  induction keys generalizing bus with
  | nil => exact ⟨[], bus, .refl bus, by simp⟩
  | cons key keys ih =>
      rw [List.length_cons] at enough
      rw [List.forall_mem_cons] at intact known
      rcases known.1 with ⟨message, topic, own, valid, served⟩
      rcases sound.one_at_work held room (by omega) intact.1 own
        (accept_of_valid valid going served) with ⟨trace, mid, way, running, free⟩
      have undisturbed := way.undisturbed sound fun _ onward => onward
      rcases ih (way.sound sound) (undisturbed.closed.trans going) (undisturbed.handle.trans held)
        (by omega) (fun other member broken => intact.2 other member (undisturbed.intact _ broken))
        (by simpa [hasSubscriber, undisturbed.handlers] using known.2) with
        ⟨later, next, rest, all⟩
      have kept := rest.undisturbed (way.sound sound) fun _ onward => onward
      refine ⟨_, next, way.append rest, List.forall_mem_cons.mpr ⟨?_, all⟩⟩
      rcases Option.isSome_iff_exists.mp running with ⟨call, begun⟩
      exact Option.isSome_iff_exists.mpr ⟨call, kept.running key call begun⟩

/-! ## The isolation of conversations -/

/-- A conversation does not wait for another one. -/
structure Isolated (config : BusConfig) (bus : Bus) : Prop where
  /-- While no handler call of a conversation runs, its oldest waiting message can be brought to its
  handler by steps of the dispatcher and of its own worker alone. -/
  serves : ∀ prior mid, Course bus prior mid →
    ∀ key admitted rest, mid.waitingFor key = admitted :: rest →
    mid.runningFor key = none → ¬ mid.BrokenOff key →
    ∃ handler trace next, Way (Step.serves key) mid trace next ∧
      mid.handlers.lookup admitted.topic = some handler ∧
      next.runningFor key = some ⟨admitted, handler⟩
  /-- Where its worker has broken off, the dispatcher alone can report this message as not
  delivered, and the next one gets a new worker. -/
  reports : ∀ prior mid, Course bus prior mid →
    ∀ key admitted rest, mid.waitingFor key = admitted :: rest →
    mid.BrokenOff key →
    ∃ trace next, Way Step.routes mid trace next ∧ next.worker? key = none ∧ ∃ now fate,
      .reported ⟨admitted.message, "conversation worker is not running", .dispatch, now⟩ fate ∈
        trace
  /-- No worker breaks off while the errors of all handlers can be put into words. -/
  intact : ∀ trace mid, Run bus trace mid → ∀ key, ¬ mid.BrokenOff key
  /-- While a permit is free on an open bus, a publish call that begins with a valid message whose
  topic has a handler can return without an error, by steps of the dispatcher and of publish calls
  alone. -/
  admits : ∀ prior mid, Course bus prior mid → mid.closed = false → 0 < mid.admission.free →
    ∀ message topic, message.validate = .ok topic → mid.hasSubscriber topic = true →
    ∀ putOff result, mid.step? (.publish message false putOff) = some result →
    ∃ later next, Way Step.brings result.1 later next ∧
      .returned mid.nextCall (.ok ()) ∈ result.2 ++ later
  /-- So can one that waits already, unless its caller has given up. -/
  resumes : ∀ prior mid, Course bus prior mid → mid.closed = false → 0 < mid.admission.free →
    ∀ call ∈ mid.calls, call.cancelled = false →
    ∃ trace next, Way Step.brings mid trace next ∧ .returned call.id (.ok ()) ∈ trace
  /-- As many conversations as the budget allows can be at work at once. -/
  atOnce : ∀ keys : Finset String, keys.card ≤ config.maxInFlight →
    (∀ key ∈ keys, ∃ (message : Message) (topic : Topic), message.conversationKey = key ∧
      message.validate = .ok topic) →
    ∃ trace next, Run bus trace next ∧ ∀ key ∈ keys, ∃ running,
      next.runningFor key = some running ∧ running.admitted.key = key

/-- A new bus can bring as many conversations to work at once as its budget allows. -/
theorem exists_all_at_work (started : Bus.start config = .ok bus) {keys : Finset String}
    (enough : keys.card ≤ config.maxInFlight)
    (known : ∀ key ∈ keys, ∃ (message : Message) (topic : Topic), message.conversationKey = key ∧
      message.validate = .ok topic) :
    ∃ trace next, Run bus trace next ∧ ∀ key ∈ keys, (next.runningFor key).isSome := by
  have room := (start_positive started).2
  cases start_ofConfig started
  have held : (ofConfig config).handle = .held := rfl
  have going : (ofConfig config).closed = false := rfl
  rcases exists_subscribed held going Topic.all with ⟨mid, subscribed⟩
  have sound := subscribed.run.course.sound started
  have same := subscribed.same
  have free : keys.toList.length ≤ mid.admission.free := by
    rw [same, Finset.length_toList]
    exact enough
  have intact : ∀ key ∈ keys.toList, ¬ mid.BrokenOff key :=
    fun key _ => subscribed.run.not_brokenOff started key
  have served : ∀ key ∈ keys.toList, ∃ (message : Message) (topic : Topic),
      message.conversationKey = key ∧ message.validate = .ok topic ∧
        mid.hasSubscriber topic = true := by
    intro key member
    rcases known key (Finset.mem_toList.mp member) with ⟨message, topic, own, valid⟩
    exact ⟨message, topic, own, valid, subscribed.served topic (mem_allTopics topic)⟩
  rcases sound.all_at_work (by rw [same]; rfl) (by rw [same]; rfl) room free intact served with
    ⟨trace, next, way, all⟩
  exact ⟨_, next, subscribed.run.append way.run,
    fun key member => all key (Finset.mem_toList.mpr member)⟩

/-- The conversations of a bus are isolated from each other. -/
theorem conversations_isolated (started : Bus.start config = .ok bus) : Isolated config bus where
  serves := by
    intro prior mid course key admitted rest line idle intact
    rcases (course.sound started).serves line idle intact with
      ⟨handler, trace, next, way, known, running, _⟩
    exact ⟨handler, trace, next, way, known, running⟩
  reports := fun prior mid course key admitted rest line broken =>
    (course.sound started).reports line broken
  intact := fun trace mid run => run.not_brokenOff started
  admits := by
    intro prior mid course going oneFree message topic valid served putOff result taken
    have accepted := accept_of_valid valid going served
    rcases publish_completes (course.sound started) (start_positive started).2 oneFree accepted
      taken with ⟨later, next, way, returned, _⟩
    exact ⟨later, next, way, returned⟩
  resumes := by
    intro prior mid course going oneFree call member willing
    rcases (course.sound started).completes going (start_positive started).2 oneFree member willing
      with ⟨later, next, way, returned, _⟩
    exact ⟨later, next, way, returned⟩
  atOnce := by
    intro keys enough known
    rcases exists_all_at_work started enough known with ⟨trace, next, run, all⟩
    refine ⟨trace, next, run, ?_⟩
    intro key member
    rcases Option.isSome_iff_exists.mp (all key member) with ⟨running, busy⟩
    refine ⟨running, busy, ?_⟩
    rcases Option.bind_eq_some_iff.mp busy with ⟨worker, found, atHandler⟩
    rcases worker?_some found with ⟨present, rfl⟩
    exact ((run.regular_of_start started).home worker present).running running atHandler

/-- The handler of one conversation does not return, a message of another one fills the ingress
queue, and one permit is left. The second conversation comes to its handler, and a third publish
call gets through. -/
theorem conversations_isolated_congested :
    ∃ config bus prior mid, Bus.start config = .ok bus ∧ Course bus prior mid ∧
      Isolated config bus ∧
      (mid.runningFor "slack:dm:7").isSome ∧ mid.slots.free = 0 ∧
      (∃ running trace next, Way (Step.serves "slack:dm:8") mid trace next ∧
        next.runningFor "slack:dm:8" = some running) ∧
      ∃ result later next,
        mid.step? (.publish (emptyNudge "slack:dm:9" "third") false none) = some result ∧
        Way Step.brings result.1 later next ∧
        .returned mid.nextCall (.ok ()) ∈ result.2 ++ later := by
  let config : BusConfig := { BusConfig.standard with maxInFlight := 3, ingressBuffer := 1 }
  have possible : ((ofConfig config).steps? [.subscribe "dm-checkin" 0,
      .publish (emptyNudge "slack:dm:7" "first") false none, .route .epoch,
      .begin "slack:dm:7" .epoch,
      .publish (emptyNudge "slack:dm:8" "second") false none]).map (fun result =>
        let mid := result.1
        decide (((mid.runningFor "slack:dm:7").isSome ∧ mid.slots.free = 0 ∧ mid.closed = false ∧
          mid.handle = .held ∧ mid.admission.free = 1 ∧ mid.hasSubscriber .dmCheckin = true) ∧
          (mid.waitingFor "slack:dm:8").length = 1 ∧ mid.runningFor "slack:dm:8" = none)) =
      some true := by
    decide +kernel
  rcases Option.map_eq_some_iff.mp possible with ⟨⟨mid, trace⟩, taken, seen⟩
  simp only [decide_eq_true_eq] at seen
  rcases seen with ⟨⟨busy, full, going, held, oneFree, served⟩, waiting, idle⟩
  have started : Bus.start config = .ok (ofConfig config) := rfl
  have run := run_of_steps taken
  have isolated := conversations_isolated started
  rcases List.length_eq_one_iff.mp waiting with ⟨admitted, line⟩
  rcases isolated.serves _ mid run.course _ admitted [] line idle (isolated.intact _ mid run _) with
    ⟨handler, later, next, way, _, begun⟩
  have valid : (emptyNudge "slack:dm:9" "third").validate = .ok .dmCheckin := by decide +kernel
  have third : mid.step? (.publish (emptyNudge "slack:dm:9" "third") false none) =
      some (mid.publish (emptyNudge "slack:dm:9" "third") false none) := by
    simp [step?, whileHeld, held]
  rcases isolated.admits _ mid run.course going (by omega) _ _ valid served none _ third with
    ⟨after, last, brings, returned⟩
  exact ⟨config, _, _, mid, started, run.course, isolated, busy, full,
    ⟨_, later, next, way, begun⟩, _, after, last, third, brings, returned⟩

/-! ## What does not get to a handler -/

/-- Where a worker has broken off and the dispatcher has only one more message for it, no handler
call of this conversation is brought about without a new message. -/
theorem Way.none_at_handler (way : Way (Step.serves key) bus trace next)
    (sound : Sound config bus) (own : admitted.key = key)
    (idle : (bus.BrokenOff key ∧ bus.ingress = [admitted]) ∨
      (bus.worker? key = none ∧ bus.ingress = [])) : next.runningFor key = none := by
  induction way with
  | refl =>
      rcases idle with ⟨⟨_, worker, found, stopped⟩, _⟩ | ⟨absent, _⟩
      · rw [runningFor_of_worker found]
        exact (sound.idle_of_stopped (worker?_some found).1 stopped).2
      · rw [runningFor, absent, Option.bind_none]
  | @head bus next step result trace fits taken _ ih =>
      apply ih (sound.step taken)
      cases step with
      | route now =>
          have routed := route_routed taken
          rcases idle with ⟨⟨_, worker, found, stopped⟩, first⟩ | ⟨_, empty⟩
          · have moved := routed.moved first
            refine .inr ⟨?_, moved.ingress⟩
            rw [moved.worker, own, if_pos rfl, found, workerAfter_stopped stopped]
          · rcases routed.exists_first with ⟨other, rest, first⟩
            cases empty.symm.trans first
      | begin other now =>
          obtain rfl : other = key := by simpa [Step.serves] using fits
          rcases begin_some sound.served.queued taken with ⟨worker, _, _, _, found, _, first, _⟩
          rcases idle with ⟨⟨_, old, present, stopped⟩, _⟩ | ⟨absent, _⟩
          · cases found.symm.trans present
            simp [(sound.idle_of_stopped (worker?_some found).1 stopped).1] at first
          · cases absent.symm.trans found
      | _ => cases fits

theorem canonical_of_validate {message : Message} {topic : Topic}
    (valid : message.validate = .ok topic) :
    checkCanonical "conversation_key" message.conversationKey = .ok () := by
  cases checked : checkCanonical "conversation_key" message.conversationKey with
  | ok => rfl
  | error error =>
      simp only [Message.validate, Message.decode, bind, Except.bind, checked] at valid
      split at valid
      next => cases valid
      next =>
        split at valid
        next => cases valid
        next => cases valid

/-- A conversation that is at work has a canonical key. -/
theorem Sound.canonical_of_running {running : Running} (sound : Sound config bus)
    (busy : bus.runningFor key = some running) :
    checkCanonical "conversation_key" key = .ok () := by
  rcases Option.bind_eq_some_iff.mp busy with ⟨worker, found, atHandler⟩
  rcases worker?_some found with ⟨member, rfl⟩
  rw [← (sound.home worker member).running running atHandler]
  exact canonical_of_validate (sound.valid.running worker member running atHandler)

/-- The handler of a nudge returns an error that cannot be put into words while the next nudge of
its conversation is in the ingress queue: no handler gets this one. And no handler is ever at work
for a conversation with a blank key, whatever the budget. -/
theorem not_at_work_after_breaking_off :
    (∃ bus prior mid admitted, Bus.start .standard = .ok bus ∧ Course bus prior mid ∧
      mid.closed = false ∧ mid.waitingFor "slack:dm:7" = [admitted] ∧
      mid.runningFor "slack:dm:7" = none ∧
      ∀ trace next, Way (Step.serves "slack:dm:7") mid trace next →
        next.runningFor "slack:dm:7" = none) ∧
    ∀ bus trace next, Bus.start .standard = .ok bus → Course bus trace next →
      next.runningFor " " = none := by
  constructor
  · have possible : ((ofConfig .standard).breaksOff? [.subscribe "dm-checkin" 0,
        .publish (emptyNudge "slack:dm:7" "first") false none, .route .epoch,
        .begin "slack:dm:7" .epoch, .publish (emptyNudge "slack:dm:7" "second") false none]
        "slack:dm:7" []).map (fun result =>
          decide ((result.1.closed = false ∧ result.1.dispatcher = .routing ∧
            (result.1.worker? "slack:dm:7").map Worker.stopped = some true) ∧
            result.1.ingress.map Admitted.key = ["slack:dm:7"] ∧
            (result.1.waitingFor "slack:dm:7").length = 1 ∧
            result.1.runningFor "slack:dm:7" = none)) = some true := by
      decide +kernel
    rcases Option.map_eq_some_iff.mp possible with ⟨⟨mid, prior⟩, taken, seen⟩
    simp only [decide_eq_true_eq] at seen
    rcases seen with ⟨⟨going, routing, stopped⟩, one, waiting, idle⟩
    have started : Bus.start .standard = .ok (ofConfig .standard) := rfl
    have course := course_of_breaksOff taken
    rcases Option.map_eq_some_iff.mp stopped with ⟨worker, found, stopped⟩
    rcases List.map_eq_singleton_iff.mp one with ⟨admitted, alone, own⟩
    rcases List.length_eq_one_iff.mp waiting with ⟨oldest, line⟩
    refine ⟨_, prior, mid, oldest, started, course, going, line, idle, fun trace next way => ?_⟩
    exact way.none_at_handler (course.sound started) own
      (.inl ⟨⟨routing, worker, found, stopped⟩, alone⟩)
  · intro bus trace next started course
    by_contra busy
    rcases Option.ne_none_iff_exists'.mp busy with ⟨running, busy⟩
    have canonical := (course.sound started).canonical_of_running busy
    exact absurd canonical (by decide)

end ConversationBus.Bus
