import ConversationBus.Proofs.Bus.Delivery

/-!
# The work that is left

The dispatcher and the workers take each message from the ingress queue to the end of its handler
call. Each of their steps leaves less to do and touches nothing that callers deal with. While
something is left to do, one of these steps is possible, so that a publish call does not wait for
ever for a permit or for a place, and a close call not for the dispatcher.
-/

namespace ConversationBus

/-- What a worker has to do: to begin with each message of its queue, to end the call of the
handler, and to stop. -/
def Worker.work (worker : Worker) : Nat :=
  2 * worker.queue.length + worker.running.toList.length + (!worker.stopped).toNat

/-- What the dispatcher has to do at the end. -/
def Dispatcher.work : Dispatcher → Nat
  | .routing => 2
  | .draining => 1
  | .finished => 0

/-- How often a publish call that waits may still go on. -/
def PublishCall.rank (call : PublishCall) : Nat :=
  match call.stage, call.inRow with
  | .admission, false => 4
  | .admission, true => 3
  | .handOff, false => 2
  | .handOff, true => 1

namespace Bus

/-- What workers have to do. -/
def workAt (workers : List Worker) : Nat :=
  (workers.map Worker.work).sum

/-- What the dispatcher and the workers have to do. A message of the ingress queue may need a worker
of its own. -/
def work (bus : Bus) : Nat :=
  4 * bus.ingress.length + workAt bus.workers + bus.dispatcher.work

@[simp] theorem workAt_cons (worker : Worker) (workers : List Worker) :
    workAt (worker :: workers) = worker.work + workAt workers := by
  simp [workAt]

theorem workAt_perm {left right : List Worker} (same : left.Perm right) :
    workAt left = workAt right :=
  (same.map _).sum_nat

variable {config : BusConfig} {bus next : Bus} {result : Bus × List Event} {key : String}
  {worker : Worker} {now : Instant} {trace : List Event}

/-! ## Less work -/

theorem Books.work_setWorker {permits places : Nat} (books : Books config bus permits places)
    (found : bus.worker? key = some worker) (new : Worker) (same : new.key = key) :
    (bus.setWorker new).work + worker.work = bus.work + new.work := by
  rcases perm_setWorker books.keys found same with ⟨before, after⟩
  have same : (bus.setWorker new).ingress = bus.ingress := rfl
  have alike : (bus.setWorker new).dispatcher = bus.dispatcher := rfl
  rw [work, work, workAt_perm before, workAt_perm after, workAt_cons, workAt_cons, same, alike]
  omega

/-- What a step of the dispatcher or of a worker does, whatever becomes of the handler calls: it
leaves less to do, and the calls as they are. -/
structure Toil (bus next : Bus) : Prop where
  calls : next.calls = bus.calls
  closing : next.closing = bus.closing
  closed : next.closed = bus.closed
  less : next.work < bus.work

/-- A worker that gets less to do leaves less to do for the bus. -/
theorem Books.toil_setWorker {permits places : Nat} (books : Books config bus permits places)
    (found : bus.worker? key = some worker) (new : Worker) (same : new.key = key)
    (less : new.work < worker.work) : Toil bus (bus.setWorker new) := by
  have changed := books.work_setWorker found new same
  exact ⟨rfl, rfl, rfl, by omega⟩

/-- The end of the handling of a message does not count as work. -/
theorem Toil.conclude (toil : Toil bus next) (admitted : Admitted) (failure : Option String)
    (now : Instant) : Toil bus (next.conclude admitted failure now).1 := by
  rcases conclude_eq next admitted failure now with ⟨_, _, _, _, _, equal, _⟩
  rw [equal]
  exact ⟨toil.calls, toil.closing, toil.closed, toil.less⟩

/-- A message of the ingress queue counts for more than all that it may need of a worker. -/
theorem Routed.toil (routed : Routed bus result) (books : Books config bus 0 0) :
    Toil bus result.1 := by
  cases routed with
  | hired routing first absent =>
      refine ⟨rfl, rfl, rfl, ?_⟩
      simp only [work, workAt, first, List.map_append, List.sum_append, List.map_singleton,
        List.sum_singleton, List.length_cons, Worker.work]
      simp
      omega
  | @assigned admitted _ worker routing first found awake =>
      have changed := books.work_setWorker found
        { worker with queue := worker.queue ++ [admitted] } (worker?_some found).2
      refine ⟨rfl, rfl, rfl, ?_⟩
      simp only [work, first, List.length_cons, Worker.work, List.length_append, List.length_nil,
        setWorker] at changed ⊢
      omega
  | rejected rejected =>
      cases rejected with
      | intro now routing first found stopped =>
          have split := (perm_setWorker books.keys found (worker?_some found).2).1
          refine ⟨rfl, rfl, rfl, ?_⟩
          simp only [work, first, workAt_perm split, workAt_cons, List.length_cons]
          omega

theorem begin_toil (books : Books config bus 0 0) (begun : bus.begin key now = some result) :
    Toil bus result.1 := by
  simp only [begin, Option.bind_eq_bind, Option.bind_eq_some_iff] at begun
  rcases begun with ⟨worker, found, begun⟩
  have same := (worker?_some found).2
  split at begun
  next admitted queue idle first =>
    split at begun
    next handler _ =>
      cases begun
      refine books.toil_setWorker found _ same ?_
      simp only [Worker.work, first, idle, List.length_cons, Option.toList_none, Option.toList_some,
        List.length_nil]
      omega
    next =>
      cases begun
      apply Toil.conclude
      refine books.toil_setWorker found _ same ?_
      simp only [Worker.work, first, List.length_cons]
      omega
  next => cases begun

theorem finish_toil (books : Books config bus 0 0) {outcome : Outcome}
    (finished : bus.finish key outcome now = some result) : Toil bus result.1 := by
  simp only [finish, Option.bind_eq_bind, Option.bind_eq_some_iff] at finished
  rcases finished with ⟨worker, found, running, busy, finished⟩
  cases finished
  apply Toil.conclude
  refine books.toil_setWorker found _ (worker?_some found).2 ?_
  simp only [Worker.work, busy, Option.toList_none, Option.toList_some, List.length_nil,
    List.length_singleton]
  omega

theorem Broken.toil (books : Books config bus 0 0) (broken : Broken bus result) :
    Toil bus result.1 := by
  cases broken with
  | @intro key worker running admission found busy =>
      have toil : Toil bus
          (bus.setWorker { worker with queue := [], running := none, stopped := true }) := by
        refine books.toil_setWorker found _ (worker?_some found).2 ?_
        simp only [Worker.work, busy, Option.toList_none, Option.toList_some, List.length_nil,
          List.length_singleton, Bool.not_true, Bool.toNat_false]
        omega
      exact ⟨toil.calls, toil.closing, toil.closed, toil.less⟩

theorem retire_toil (books : Books config bus 0 0) (retired : bus.retire key = some next) :
    Toil bus next := by
  simp only [retire, Option.bind_eq_bind, Option.bind_eq_some_iff] at retired
  rcases retired with ⟨worker, found, retired⟩
  split at retired
  next done =>
    cases retired
    refine books.toil_setWorker found _ (worker?_some found).2 ?_
    simp [Worker.work, done.2.2.2]
  next => cases retired

theorem drain_toil (drained : bus.drain = some next) : Toil bus next := by
  simp only [drain] at drained
  split at drained
  next done =>
    cases drained
    refine ⟨rfl, rfl, rfl, ?_⟩
    simp [work, done.1, Dispatcher.work]
  next => cases drained

theorem halt_toil (halted : bus.halt = some next) : Toil bus next := by
  simp only [halt] at halted
  split at halted
  next done =>
    cases halted
    refine ⟨rfl, rfl, rfl, ?_⟩
    simp [work, done.1, Dispatcher.work]
  next => cases halted

/-- What a step of the dispatcher or of a worker does, where every handler succeeds. -/
structure Labour (bus : Bus) (result : Bus × List Event) : Prop where
  /-- Nothing is touched that callers deal with. -/
  same : result.1 = { bus with
    admission := result.1.admission, slots := result.1.slots, ingress := result.1.ingress
    dispatcher := result.1.dispatcher, workers := result.1.workers
    counters := result.1.counters }
  /-- A handler call begins, or one succeeds. -/
  shown : ∀ event ∈ result.2, (∃ running, event = .started running) ∨
    ∃ running, event = .ended running .succeeded
  less : result.1.work < bus.work

theorem route_labour (regular : Regular config bus) (routed : bus.route now = some result) :
    Labour bus result := by
  have less := ((route_routed routed).toil regular.toBooks).less
  cases route_routed routed with
  | hired | assigned => exact ⟨rfl, by simp, less⟩
  | rejected rejected => exact absurd regular rejected.not_regular

theorem begin_labour (regular : Regular config bus) (begun : bus.begin key now = some result) :
    Labour bus result := by
  have less := (begin_toil regular.toBooks begun).less
  rcases begin_some regular.served.queued begun with ⟨_, _, _, _, _, _, _, _, rfl⟩
  exact ⟨rfl, by simp, less⟩

theorem finish_labour (regular : Regular config bus)
    (finished : bus.finish key .succeeded now = some result) : Labour bus result := by
  have less := (finish_toil regular.toBooks finished).less
  simp only [finish, Option.bind_eq_bind, Option.bind_eq_some_iff] at finished
  rcases finished with ⟨worker, found, running, busy, finished⟩
  cases finished
  exact ⟨rfl, by simp [conclude, Outcome.failure?], less⟩

theorem retire_labour (regular : Regular config bus) (retired : bus.retire key = some next) :
    Labour bus next.quietly := by
  have less := (retire_toil regular.toBooks retired).less
  simp only [retire, Option.bind_eq_bind, Option.bind_eq_some_iff] at retired
  rcases retired with ⟨worker, found, retired⟩
  split at retired
  next done =>
    cases retired
    exact ⟨rfl, by simp [quietly], less⟩
  next => cases retired

theorem drain_labour (drained : bus.drain = some next) : Labour bus next.quietly := by
  have less := (drain_toil drained).less
  simp only [drain] at drained
  split at drained
  next done =>
    cases drained
    exact ⟨rfl, by simp [quietly], less⟩
  next => cases drained

theorem halt_labour (halted : bus.halt = some next) : Labour bus next.quietly := by
  have less := (halt_toil halted).less
  simp only [halt] at halted
  split at halted
  next done =>
    cases halted
    exact ⟨rfl, by simp [quietly], less⟩
  next => cases halted

theorem Regular.work_of_finished (regular : Regular config bus)
    (finished : bus.dispatcher = .finished) : bus.work = 0 := by
  have rest := regular.at_rest finished
  have nothing : workAt bus.workers = 0 := by
    rw [workAt, List.sum_eq_zero_iff_forall_eq_nat]
    intro work member
    rcases List.mem_map.mp member with ⟨worker, present, rfl⟩
    rcases rest.idle worker present with ⟨stopped, queue, running⟩
    simp [Worker.work, stopped, queue, running]
  simp [work, rest.empty, nothing, finished, Dispatcher.work]

/-! ## Something to do -/

/-- No step of the dispatcher or of a worker is possible. -/
structure Idle (bus : Bus) (now : Instant) : Prop where
  route : bus.route now = none
  begin : ∀ worker ∈ bus.workers, worker.running = none → bus.begin worker.key now = none
  finish : ∀ worker ∈ bus.workers, ∀ running, worker.running = some running →
    ∃ outcome, bus.finish worker.key outcome now = none
  retire : ∀ worker ∈ bus.workers, worker.running = none → bus.retire worker.key = none
  drain : bus.drain = none
  halt : bus.halt = none

namespace Idle

theorem load (idle : Idle bus now) (books : Books config bus 0 0) :
    ∀ worker ∈ bus.workers, worker.queue = [] ∧ worker.running = none := by
  intro worker member
  have found := worker?_of_mem books.keys member
  cases busy : worker.running with
  | some running =>
      rcases idle.finish worker member running busy with ⟨outcome, stuck⟩
      simp [Bus.finish, found, busy] at stuck
  | none =>
      cases queue : worker.queue with
      | nil => exact ⟨rfl, rfl⟩
      | cons admitted rest =>
          have stuck := idle.begin worker member busy
          simp only [Bus.begin, found, busy, queue, Option.bind_eq_bind, Option.bind_some] at stuck
          split at stuck
          next => cases stuck
          next => cases stuck

/-- While the dispatcher routes, nothing is in the ingress queue. -/
theorem ingress (idle : Idle bus now) (routing : bus.dispatcher = .routing) :
    bus.ingress = [] := by
  cases first : bus.ingress with
  | nil => rfl
  | cons admitted rest =>
      have stuck := idle.route
      simp [Bus.route, routing, first] at stuck

/-- A bus that is closed and that no publish call uses has come to its end. -/
theorem finished (idle : Idle bus now) (books : Books config bus 0 0) (closed : bus.closed = true)
    (returned : bus.calls = []) : bus.dispatcher = .finished := by
  cases going : bus.dispatcher with
  | finished => rfl
  | routing =>
      have stuck := idle.drain
      simp [Bus.drain, going, closed, returned, idle.ingress going] at stuck
  | draining =>
      have stopped : ∀ worker ∈ bus.workers, worker.stopped = true := by
        intro worker member
        rcases idle.load books worker member with ⟨queue, running⟩
        have stuck := idle.retire worker member running
        simpa [Bus.retire, worker?_of_mem books.keys member, going, queue, running] using stuck
      have stuck := idle.halt
      rw [Bus.halt, if_pos ⟨going, by simpa using stopped⟩] at stuck
      cases stuck

/-- Whoever is alone in the row of a semaphore that has a permit can take it up. -/
theorem collect?_of_permits {semaphore : Semaphore} {who : CallId}
    (serves : semaphore.Serves [who]) (some : 0 < semaphore.permits) :
    (semaphore.collect? who).isSome := by
  have granted : who ∈ semaphore.granted := by
    rcases List.append_eq_singleton_iff.mp (List.perm_singleton.mp serves.row) with
      ⟨_, granted⟩ | ⟨waiting, granted⟩
    · simp [granted]
    · have free : 0 < semaphore.free := by simpa [Semaphore.permits, granted] using some
      simp [serves.idle free] at waiting
  simp [Semaphore.collect?, granted]

/-- A publish call that is alone goes on when there is nothing else to do: there is a permit for it,
or a place. -/
theorem resumes (idle : Idle bus now) (regular : Regular config bus) {call : PublishCall}
    (alone : bus.calls = [call]) (going : bus.closed = false) (budget : 0 < config.maxInFlight)
    (room : 0 < config.ingressCapacity) (putOff : Option PublishStage) :
    (bus.resume call.id putOff).isSome := by
  have found : bus.call? call.id = some call := by simp [call?, alone]
  have empty := idle.ingress (regular.routing going)
  have nothing := loadOf_eq_zero (idle.load regular.toBooks)
  rcases call with ⟨admitted, stage, inRow, cancelled⟩
  simp only [resume, found, Option.bind_eq_bind, Option.bind_some, going, Bool.false_eq_true,
    if_false]
  cases cancelled with
  | true => rfl
  | false =>
      cases stage with
      | admission =>
          cases inRow with
          | false => rfl
          | true =>
              have serves := regular.admission
              have permits := regular.budget
              rw [alone] at serves permits
              rw [empty, nothing] at permits
              have some : 0 < bus.admission.permits := by
                simp [handingOff] at permits
                omega
              rcases Option.isSome_iff_exists.mp (collect?_of_permits serves some) with
                ⟨admission, collected⟩
              simp [PublishCall.id] at collected ⊢
              simp [collected]
      | handOff =>
          cases inRow with
          | false => rfl
          | true =>
              have serves := regular.slots
              have places := regular.room
              rw [alone] at serves
              rw [empty] at places
              have some : 0 < bus.slots.permits := by
                rw [← places] at room
                simpa using room
              rcases Option.isSome_iff_exists.mp (collect?_of_permits serves some) with
                ⟨slots, collected⟩
              simp [PublishCall.id] at collected ⊢
              simp [collected]

end Idle

/-! ## Calls that wait -/

/-- The calls that wait are those that waited before, and such as have less before them. -/
def Sooner (bus : Bus) (bound : Nat) (result : Bus × List Event) : Prop :=
  ∀ call ∈ result.1.calls, call ∈ bus.calls ∨ call.rank < bound ∧ call.cancelled = false

theorem sooner_suspend {call : PublishCall} {bound : Nat} (less : call.rank < bound)
    (going : call.cancelled = false) : Sooner bus bound (bus.suspend call, []) := by
  intro other member
  rcases List.mem_append.mp member with old | new
  · exact .inl old
  · rw [List.mem_singleton.mp new]
    exact .inr ⟨less, going⟩

theorem Sooner.mono {bound greater : Nat} (sooner : Sooner bus bound result)
    (less : bound ≤ greater) : Sooner bus greater result := by
  intro call member
  exact (sooner call member).imp_right fun known => ⟨Nat.lt_of_lt_of_le known.1 less, known.2⟩

theorem handOff_sooner (bus : Bus) (admitted : Admitted) : Sooner bus 2 (bus.handOff admitted) := by
  simp only [handOff]
  split
  next => exact fun call member => .inl member
  next => exact sooner_suspend (Nat.lt_succ_self _) rfl

theorem proceed_sooner (bus : Bus) (admitted : Admitted) (putOff : Option PublishStage) :
    Sooner bus 3 (bus.proceed admitted putOff) := by
  simp only [proceed]
  split
  next => exact sooner_suspend (Nat.lt_succ_self _) rfl
  next => exact (handOff_sooner bus admitted).mono (by decide)

theorem enter_sooner (bus : Bus) (admitted : Admitted) (putOff : Option PublishStage) :
    Sooner bus 4 (bus.enter admitted putOff) := by
  simp only [enter]
  split
  next admission _ =>
    exact (proceed_sooner { bus with admission } admitted putOff).mono (by decide)
  next => exact sooner_suspend (Nat.lt_succ_self _) rfl

end Bus

end ConversationBus
