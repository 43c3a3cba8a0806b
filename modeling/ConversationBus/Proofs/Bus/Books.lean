import ConversationBus.Proofs.Bus.Parts
import ConversationBus.Proofs.Bus.Semaphore

/-!
# The books of a bus

A permit of the budget is free, put aside for a publish call, in the hands of a publish call, or
with a message in one of the queues or at a handler; a place of the ingress queue is likewise free,
put aside or taken. This module states that account as an invariant and shows that every operation
of a bus keeps it. Between two operations of one step a permit or a place may be in nobody's hands;
the invariant counts those apart.
-/

namespace ConversationBus

/-- The number of messages that a worker has, in its queue or at the handler. -/
def Worker.load (worker : Worker) : Nat :=
  worker.queue.length + worker.running.toList.length

namespace Bus

/-- The names of the calls that stand in the row of a stage. -/
def rowOf (stage : PublishStage) (calls : List PublishCall) : List CallId :=
  (calls.filter fun call => call.stage = stage && call.inRow).map PublishCall.id

/-- The number of calls that have their permit and wait to hand over their message. -/
def handingOff (calls : List PublishCall) : Nat :=
  calls.countP fun call => call.stage = .handOff

/-- The number of messages that workers have. -/
def loadOf (workers : List Worker) : Nat :=
  (workers.map Worker.load).sum

theorem mem_rowOf {calls : List PublishCall} {call : PublishCall} (member : call ∈ calls)
    (inRow : call.inRow = true) : call.id ∈ rowOf call.stage calls :=
  List.mem_map_of_mem (List.mem_filter.mpr ⟨member, by simp [inRow]⟩)

theorem exists_of_mem_rowOf {stage : PublishStage} {calls : List PublishCall} {id : CallId}
    (member : id ∈ rowOf stage calls) :
    ∃ call ∈ calls, call.id = id ∧ call.stage = stage ∧ call.inRow = true := by
  rcases List.mem_map.mp member with ⟨call, present, same⟩
  rcases List.mem_filter.mp present with ⟨present, stands⟩
  simp only [Bool.and_eq_true, decide_eq_true_eq] at stands
  exact ⟨call, present, same, stands⟩

theorem rowOf_append (stage : PublishStage) (left right : List PublishCall) :
    rowOf stage (left ++ right) = rowOf stage left ++ rowOf stage right := by
  simp [rowOf]

theorem rowOf_perm (stage : PublishStage) {left right : List PublishCall}
    (same : left.Perm right) : (rowOf stage left).Perm (rowOf stage right) :=
  (same.filter _).map _

theorem handingOff_append (left right : List PublishCall) :
    handingOff (left ++ right) = handingOff left + handingOff right :=
  List.countP_append

theorem handingOff_perm {left right : List PublishCall} (same : left.Perm right) :
    handingOff left = handingOff right :=
  same.countP_eq _

@[simp] theorem loadOf_cons (worker : Worker) (workers : List Worker) :
    loadOf (worker :: workers) = worker.load + loadOf workers := by
  simp [loadOf]

theorem loadOf_perm {left right : List Worker} (same : left.Perm right) :
    loadOf left = loadOf right :=
  (same.map _).sum_nat

/-- The books of a bus are in order, while so many permits and so many places are in the hands of
the operation under way. -/
structure Books (config : BusConfig) (bus : Bus) (permits places : Nat) : Prop where
  limit : bus.maxInFlight = config.maxInFlight
  capacity : bus.ingressCapacity = config.ingressCapacity
  ids : (bus.calls.map PublishCall.id).Nodup
  known : ∀ call ∈ bus.calls, call.id < bus.nextCall
  keys : (bus.workers.map Worker.key).Nodup
  stopped : ∀ worker ∈ bus.workers, worker.stopped → worker.load = 0
  admission : bus.admission.Serves (rowOf .admission bus.calls)
  slots : bus.slots.Serves (rowOf .handOff bus.calls)
  budget : bus.admission.permits + handingOff bus.calls + bus.ingress.length +
    loadOf bus.workers + permits = config.maxInFlight
  room : bus.slots.permits + bus.ingress.length + places = config.ingressCapacity
  /-- Where the ingress queue has a place for every permit, nobody waits for one. -/
  ample : config.maxInFlight ≤ config.ingressCapacity → rowOf .handOff bus.calls = []

namespace Books

variable {config : BusConfig} {bus next : Bus} {permits places : Nat}

theorem ofConfig (config : BusConfig) : Books config (ofConfig config) 0 0 where
  limit := rfl
  capacity := rfl
  ids := .nil
  known := by simp [Bus.ofConfig]
  keys := .nil
  stopped := by simp [Bus.ofConfig]
  admission := Semaphore.ofPermits_serves _
  slots := Semaphore.ofPermits_serves _
  budget := by simp [Bus.ofConfig, handingOff, loadOf]
  room := by simp [Bus.ofConfig]
  ample := fun _ => rfl

/-! ## Calls that come and go -/

/-- A call begins to wait. If it waits to hand over its message, the permit in hand becomes its
own. -/
theorem suspend {call : PublishCall} (books : Books config bus permits 0)
    (admission slots : Semaphore) (fresh : call.id ∉ bus.calls.map PublishCall.id)
    (named : call.id < bus.nextCall)
    (admissionRow : admission.Serves (rowOf .admission [call] ++ rowOf .admission bus.calls))
    (slotRow : slots.Serves (rowOf .handOff [call] ++ rowOf .handOff bus.calls))
    (samePermits : admission.permits = bus.admission.permits)
    (samePlaces : slots.permits = bus.slots.permits)
    (hand : handingOff [call] = permits)
    (ample : config.maxInFlight ≤ config.ingressCapacity → rowOf .handOff [call] = []) :
    Books config ({ bus with admission, slots }.suspend call) 0 0 where
  limit := books.limit
  capacity := books.capacity
  ids := by
    simp only [Bus.suspend, List.map_append, List.map_singleton]
    exact (books.ids.append (List.nodup_singleton _)) (by simpa using fresh)
  known := by
    intro other member
    simp only [Bus.suspend, List.mem_append, List.mem_singleton] at member
    rcases member with old | rfl
    · exact books.known other old
    · exact named
  keys := books.keys
  stopped := books.stopped
  admission := by
    rw [Bus.suspend, rowOf_append]
    exact admissionRow.perm List.perm_append_comm
  slots := by
    rw [Bus.suspend, rowOf_append]
    exact slotRow.perm List.perm_append_comm
  budget := by
    have budget := books.budget
    simp only [Bus.suspend, handingOff_append]
    omega
  room := by
    have room := books.room
    simp only [Bus.suspend]
    omega
  ample := by
    intro enough
    rw [Bus.suspend, rowOf_append, books.ample enough, ample enough, List.nil_append]

/-- The rows before a call is taken off the list: the call comes first where it stands in one. -/
theorem serves_split {call : PublishCall} {stage : PublishStage} {semaphore : Semaphore}
    (books : Books config bus permits places) (member : call ∈ bus.calls)
    (serves : semaphore.Serves (rowOf stage bus.calls)) :
    semaphore.Serves (rowOf stage [call] ++ rowOf stage (bus.removeCall call.id).calls) :=
  serves.perm (rowOf_append .. ▸ rowOf_perm stage (perm_removeCall books.ids member))

/-- A call stops waiting. What it held and does not give back is in hand. -/
theorem remove {call : PublishCall} (books : Books config bus 0 0)
    (admission slots : Semaphore) (member : call ∈ bus.calls)
    (admissionRow : admission.Serves (rowOf .admission (bus.removeCall call.id).calls))
    (slotRow : slots.Serves (rowOf .handOff (bus.removeCall call.id).calls))
    (hand : admission.permits + permits = bus.admission.permits + handingOff [call])
    (place : slots.permits + places = bus.slots.permits) :
    Books config ({ bus with admission, slots }.removeCall call.id) permits places where
  limit := books.limit
  capacity := books.capacity
  ids := books.ids.sublist (List.filter_sublist.map _)
  known := fun other present => books.known other (List.mem_of_mem_filter present)
  keys := books.keys
  stopped := books.stopped
  admission := admissionRow
  slots := slotRow
  budget := by
    have split : bus.calls.Perm ([call] ++ (bus.removeCall call.id).calls) :=
      perm_removeCall books.ids member
    have budget := books.budget
    rw [handingOff_perm split, handingOff_append] at budget
    simp only [removeCall] at budget ⊢
    omega
  room := by
    have room := books.room
    simp only [removeCall]
    omega
  ample := by
    intro enough
    have split := rowOf_perm .handOff (perm_removeCall books.ids member)
    rw [books.ample enough, ← List.singleton_append, rowOf_append] at split
    exact (List.append_eq_nil_iff.mp split.nil_eq.symm).2

theorem enqueue (books : Books config bus 1 1) (admitted : Admitted) :
    Books config (bus.enqueue admitted).1 0 0 where
  limit := books.limit
  capacity := books.capacity
  ids := books.ids
  known := books.known
  keys := books.keys
  stopped := books.stopped
  admission := books.admission
  slots := books.slots
  budget := by
    have budget := books.budget
    simp only [Bus.enqueue, List.length_append, List.length_singleton]
    omega
  room := by
    have room := books.room
    simp only [Bus.enqueue, List.length_append, List.length_singleton]
    omega
  ample := books.ample

/-- Where the ingress queue has a place for every permit, a permit in hand finds a place. -/
theorem place_free (books : Books config bus permits 0) (some : 0 < permits)
    (enough : config.maxInFlight ≤ config.ingressCapacity) : 0 < bus.slots.free := by
  have serves := books.slots
  rw [books.ample enough] at serves
  have budget := books.budget
  have room := books.room
  rw [serves.free_eq_permits]
  omega

theorem handOff (books : Books config bus 1 0) {admitted : Admitted}
    (fresh : admitted.call ∉ bus.calls.map PublishCall.id) (named : admitted.call < bus.nextCall) :
    Books config (bus.handOff admitted).1 0 0 := by
  simp only [Bus.handOff]
  split
  next slots taken =>
    rcases Semaphore.request_taken books.slots taken with ⟨serves, fewer⟩
    have room := books.room
    have withPlace : Books config { bus with slots } 1 1 :=
      { books with slots := serves, room := by simp only; omega }
    exact withPlace.enqueue admitted
  next slots waits =>
    rcases Semaphore.request_waits books.slots waits with ⟨serves, same, none⟩
    exact books.suspend _ _ fresh named books.admission serves rfl same rfl
      fun enough => absurd (books.place_free Nat.one_pos enough) (by omega)

theorem proceed (books : Books config bus 1 0) {admitted : Admitted}
    (fresh : admitted.call ∉ bus.calls.map PublishCall.id) (named : admitted.call < bus.nextCall)
    (putOff : Option PublishStage) : Books config (bus.proceed admitted putOff).1 0 0 := by
  simp only [Bus.proceed]
  split
  next =>
    exact books.suspend _ _ fresh named books.admission books.slots rfl rfl rfl fun _ => rfl
  next => exact books.handOff fresh named

theorem enter (books : Books config bus 0 0) {admitted : Admitted}
    (fresh : admitted.call ∉ bus.calls.map PublishCall.id) (named : admitted.call < bus.nextCall)
    (putOff : Option PublishStage) : Books config (bus.enter admitted putOff).1 0 0 := by
  simp only [Bus.enter]
  split
  next admission taken =>
    rcases Semaphore.request_taken books.admission taken with ⟨serves, fewer⟩
    have budget := books.budget
    have withPermit : Books config { bus with admission } 1 0 :=
      { books with admission := serves, budget := by simp only; omega }
    exact withPermit.proceed fresh named putOff
  next admission waits =>
    rcases Semaphore.request_waits books.admission waits with ⟨serves, same, none⟩
    exact books.suspend _ _ fresh named serves books.slots same rfl rfl
      fun _ => rfl

/-- A call that begins has a name that no waiting call has. -/
theorem nextCall_fresh (books : Books config bus permits places) :
    bus.nextCall ∉ bus.calls.map PublishCall.id := by
  intro member
  rcases List.mem_map.mp member with ⟨call, present, same⟩
  exact absurd same (Nat.ne_of_lt (books.known call present))

theorem publish (books : Books config bus 0 0) (message : Message) (cancelled : Bool)
    (putOff : Option PublishStage) :
    Books config (bus.publish message cancelled putOff).1 0 0 := by
  have begun : Books config { bus with nextCall := bus.nextCall + 1 } 0 0 :=
    { books with known := fun call member => Nat.lt_succ_of_lt (books.known call member) }
  have fresh := books.nextCall_fresh
  simp only [Bus.publish]
  split
  next => exact begun
  next topic accepted =>
    split
    next =>
      exact begun.suspend _ _ fresh (Nat.lt_succ_self _) begun.admission begun.slots rfl rfl rfl
        fun _ => rfl
    next =>
      split
      next => exact begun
      next => exact begun.enter fresh (Nat.lt_succ_self _) putOff

/-- A call that is taken off the list and leaves its row leaves the others in it. -/
theorem withdraw_serves {call : PublishCall} {stage : PublishStage} {semaphore : Semaphore}
    (books : Books config bus permits places) (member : call ∈ bus.calls)
    (serves : semaphore.Serves (rowOf stage bus.calls)) :
    (semaphore.withdraw call.id).Serves (rowOf stage (bus.removeCall call.id).calls) := by
  have left := (Semaphore.withdraw_serves (books.serves_split member serves) call.id).1
  have absent : call.id ∉ rowOf stage (bus.removeCall call.id).calls := by
    simp [rowOf, removeCall]
  by_cases inRow : call.stage = stage && call.inRow
  · simpa [rowOf, inRow] using left
  · have empty : rowOf stage [call] = [] := by simpa [rowOf] using inRow
    rwa [empty, List.nil_append, List.erase_of_not_mem absent] at left

theorem withdraw (books : Books config bus 0 0) {call : PublishCall}
    (member : call ∈ bus.calls) : Books config (bus.withdraw call) 0 0 := by
  rcases call with ⟨admitted, stage, inRow, cancelled⟩
  cases stage with
  | admission =>
      have same := (Semaphore.withdraw_serves books.admission admitted.call).2
      exact books.remove _ _ member (books.withdraw_serves member books.admission)
        (books.serves_split member books.slots) (by simpa [handingOff, PublishCall.id] using same)
        rfl
  | handOff =>
      have same := (Semaphore.withdraw_serves books.slots admitted.call).2
      obtain ⟨serves, grown⟩ :=
        Semaphore.release_serves (books.serves_split member books.admission)
      exact books.remove _ _ member serves (books.withdraw_serves member books.slots)
        (by simpa [handingOff] using grown) same

theorem resume (books : Books config bus 0 0) {id : CallId} {putOff : Option PublishStage}
    {result : Bus × List Event} (resumed : bus.resume id putOff = some result) :
    Books config result.1 0 0 := by
  have fresh (call : PublishCall) :
      call.id ∉ (bus.removeCall call.id).calls.map PublishCall.id := by
    simp [removeCall]
  cases resume_resumed resumed with
  | ended member => exact books.withdraw member
  | entering member =>
      have removed := books.remove bus.admission bus.slots member
        (books.serves_split member books.admission) (books.serves_split member books.slots) rfl
        (Nat.add_zero _)
      exact removed.enter (fresh _) (books.known _ member) putOff
  | permitted member _ collected =>
      obtain ⟨serves, fewer⟩ :=
        Semaphore.collect?_serves (books.serves_split member books.admission) collected
      have removed := books.remove _ bus.slots member serves
        (books.serves_split member books.slots) fewer (Nat.add_zero _)
      exact removed.proceed (fresh _) (books.known _ member) putOff
  | handing member =>
      have removed := books.remove bus.admission bus.slots member
        (books.serves_split member books.admission) (books.serves_split member books.slots) rfl
        (Nat.add_zero _)
      exact removed.handOff (fresh _) (books.known _ member)
  | placed member _ collected =>
      obtain ⟨serves, fewer⟩ :=
        Semaphore.collect?_serves (books.serves_split member books.slots) collected
      have removed := books.remove bus.admission _ member
        (books.serves_split member books.admission) serves rfl fewer
      exact removed.enqueue _

/-! ## Messages that move on -/

/-- A worker is changed. The messages that it loses are in hand afterwards, and those that it gains
were in hand before. -/
theorem setWorker {key : String} {old new : Worker} {before after : Nat}
    (books : Books config bus before places) (found : bus.worker? key = some old)
    (same : new.key = key) (moved : new.load + after = old.load + before)
    (stopped : new.stopped = true → new.load = 0) :
    Books config (bus.setWorker new) after places := by
  rcases perm_setWorker books.keys found same with ⟨split, split'⟩
  exact { books with
    keys := by
      rw [setWorker_keys]
      exact books.keys
    stopped := by
      intro worker member
      rcases List.mem_cons.mp (split'.mem_iff.mp member) with rfl | other
      · exact stopped
      · exact books.stopped worker (List.mem_of_mem_filter other)
    budget := by
      have budget := books.budget
      rw [loadOf_perm split, loadOf_cons] at budget
      rw [loadOf_perm split', loadOf_cons]
      simp only [Bus.setWorker]
      omega }

theorem release (books : Books config bus 1 places) {counters : Counters} {errors : ErrorStream} :
    Books config { bus with admission := bus.admission.release, counters, errors } 0 places := by
  rcases Semaphore.release_serves books.admission with ⟨serves, grown⟩
  have budget := books.budget
  exact { books with admission := serves, budget := by simp only; omega }

theorem conclude (books : Books config bus 1 places) (admitted : Admitted)
    (failure : Option String) (now : Instant) :
    Books config (bus.conclude admitted failure now).1 0 places := by
  rcases conclude_eq bus admitted failure now with ⟨_, _, _, _, _, equal, _⟩
  rw [equal]
  exact books.release

theorem assign (books : Books config bus 1 0) (admitted : Admitted) (now : Instant) :
    Books config (bus.assign admitted now).1 0 0 := by
  simp only [Bus.assign]
  split
  next absent =>
    have fresh := worker?_none absent
    have budget := books.budget
    exact { books with
      keys := by
        rw [List.map_append]
        exact books.keys.append (List.nodup_singleton _) (by simpa using fresh)
      stopped := by
        intro worker member
        rcases List.mem_append.mp member with old | new
        · exact books.stopped worker old
        · rw [List.mem_singleton.mp new]
          simp
      budget := by
        rw [loadOf_perm List.perm_append_comm]
        simp only [List.singleton_append, loadOf_cons, Worker.load]
        simp
        omega }
  next worker found =>
    split
    next stopped =>
      rcases worker?_some found with ⟨member, same⟩
      have idle := books.stopped worker member stopped
      have split := (perm_setWorker books.keys found same).1
      have budget := books.budget
      rw [loadOf_perm split, loadOf_cons, idle] at budget
      rw [same]
      have without : Books config { bus with
          workers := bus.workers.filter fun other => other.key ≠ admitted.key } 1 0 :=
        { books with
          keys := books.keys.sublist (List.filter_sublist.map _)
          stopped := fun other present => books.stopped other (List.mem_of_mem_filter present)
          budget := by simp only; omega }
      obtain ⟨_, _, _, equal⟩ := report_eq (releasePermit { bus with
        workers := bus.workers.filter fun other => other.key ≠ admitted.key })
        ⟨admitted.message, "conversation worker is not running", .dispatch, now⟩
      rw [equal]
      exact without.release
    next going =>
      refine books.setWorker found (worker?_some found).2 ?_ (by simp [going])
      simp only [Worker.load, List.length_append, List.length_singleton]
      omega

theorem route (books : Books config bus 0 0) {now : Instant} {result : Bus × List Event}
    (routed : bus.route now = some result) : Books config result.1 0 0 := by
  simp only [Bus.route] at routed
  split at routed
  next admitted ingress _ first =>
    cases routed
    rcases Semaphore.release_serves books.slots with ⟨serves, grown⟩
    have budget := books.budget
    have room := books.room
    rw [first, List.length_cons] at budget room
    have taken : Books config { bus with ingress, slots := bus.slots.release } 1 0 :=
      { books with
        slots := serves
        budget := by simp only; omega
        room := by simp only; omega }
    exact taken.assign admitted now
  next => cases routed

theorem begin (books : Books config bus 0 0) {key : String} {now : Instant}
    {result : Bus × List Event} (begun : bus.begin key now = some result) :
    Books config result.1 0 0 := by
  simp only [Bus.begin, Option.bind_eq_bind, Option.bind_eq_some_iff] at begun
  rcases begun with ⟨worker, found, begun⟩
  have same := (worker?_some found).2
  have stopped := books.stopped worker (worker?_some found).1
  split at begun
  next admitted queue idle first =>
    have going : worker.stopped = false := by simpa [Worker.load, first] using stopped
    split at begun
    next handler _ =>
      cases begun
      exact books.setWorker found same (by simp [Worker.load, idle, first]) (by simp [going])
    next =>
      cases begun
      refine conclude ?_ _ _ _
      exact books.setWorker found same (by simp [Worker.load, idle, first]) (by simp [going])
  next => cases begun

theorem finish (books : Books config bus 0 0) {key : String} {outcome : Outcome} {now : Instant}
    {result : Bus × List Event} (finished : bus.finish key outcome now = some result) :
    Books config result.1 0 0 := by
  simp only [Bus.finish, Option.bind_eq_bind, Option.bind_eq_some_iff] at finished
  rcases finished with ⟨worker, found, running, busy, finished⟩
  cases finished
  have stopped := books.stopped worker (worker?_some found).1
  refine conclude ?_ _ _ _
  refine books.setWorker found (worker?_some found).2 (by simp [Worker.load, busy]) ?_
  intro ended
  have idle := stopped ended
  simp [Worker.load, busy] at idle

theorem retire (books : Books config bus 0 0) {key : String}
    (retired : bus.retire key = some next) : Books config next 0 0 := by
  simp only [Bus.retire, Option.bind_eq_bind, Option.bind_eq_some_iff] at retired
  rcases retired with ⟨worker, found, retired⟩
  split at retired
  next done =>
    cases retired
    exact books.setWorker found (worker?_some found).2 (by simp [Worker.load])
      (by simp [Worker.load, done])
  next => cases retired

theorem breakOff (books : Books config bus 0 0) {key : String} {result : Bus × List Event}
    (broken : bus.breakOff key = some result) : Books config result.1 0 0 := by
  simp only [Bus.breakOff, Option.bind_eq_bind, Option.bind_eq_some_iff] at broken
  rcases broken with ⟨worker, found, running, busy, broken⟩
  cases broken
  have emptied : Books config
      (bus.setWorker { worker with queue := [], running := none, stopped := true })
      (worker.queue.length + 1) 0 :=
    books.setWorker found (worker?_some found).2 (by simp [Worker.load, busy])
      (by simp [Worker.load])
  obtain ⟨serves, grown⟩ :=
    Semaphore.repeat_release_serves emptied.admission (worker.queue.length + 1)
  have budget := emptied.budget
  simp only [Bus.setWorker] at grown budget
  exact { emptied with
    admission := serves
    budget := by simp only [Bus.setWorker]; omega }

/-! ## All steps -/

theorem cancel (books : Books config bus 0 0) (id : CallId) :
    Books config (bus.cancel id) 0 0 := by
  have ids : (bus.cancel id).calls.map PublishCall.id = bus.calls.map PublishCall.id := by
    rw [Bus.cancel, List.map_map, comp_cancel id fun _ => rfl]
  have rows (stage : PublishStage) : rowOf stage (bus.cancel id).calls = rowOf stage bus.calls := by
    rw [rowOf, Bus.cancel, List.filter_map, List.map_map, comp_cancel id fun _ => rfl,
      comp_cancel id fun _ => rfl, rowOf]
  have handing : handingOff (bus.cancel id).calls = handingOff bus.calls := by
    rw [handingOff, Bus.cancel, List.countP_map, comp_cancel id fun _ => rfl, handingOff]
  exact { books with
    ids := ids ▸ books.ids
    known := by
      intro call member
      have named := List.mem_map_of_mem (f := PublishCall.id) member
      rw [ids] at named
      rcases List.mem_map.mp named with ⟨old, present, same⟩
      exact same ▸ books.known old present
    admission := rows .admission ▸ books.admission
    slots := rows .handOff ▸ books.slots
    budget := by
      rw [handing]
      exact books.budget
    ample := rows .handOff ▸ books.ample }

theorem aside (books : Books config bus 0 0) {result : Bus × List Event}
    (moved : Aside bus result) : Books config result.1 0 0 := by
  cases moved
  exact { books with }

theorem closing (books : Books config bus 0 0) {result : Bus × List Event}
    (moved : Closing bus result) : Books config result.1 0 0 := by
  cases moved.closes with
  | intro later =>
      exact { books with
        known := fun call member => Nat.lt_of_lt_of_le (books.known call member) later }

/-- Every step of a bus keeps its books in order. -/
theorem step (books : Books config bus 0 0) {step : Step} {result : Bus × List Event}
    (taken : bus.step? step = some result) : Books config result.1 0 0 := by
  cases step with
  | subscribe topic handler =>
      rcases whileHeld_some taken with ⟨_, taken⟩
      split at taken
      next subscribed =>
        cases taken
        exact books.aside (subscribe_aside subscribed)
      next =>
        cases taken
        exact books
  | publish message cancelled putOff =>
      rcases whileHeld_some taken with ⟨_, taken⟩
      cases taken
      exact books.publish message cancelled putOff
  | cancel call =>
      cases taken
      exact books.cancel call
  | resume call putOff => exact books.resume taken
  | abandon call =>
      simp only [step?, abandon, Option.map_map, Option.map_eq_some_iff] at taken
      rcases taken with ⟨found, present, rfl⟩
      exact books.withdraw (call?_some present).1
  | close =>
      rcases whileHeld_some taken with ⟨_, taken⟩
      cases taken
      exact books.closing (close_closing bus)
  | resumeClose call => exact books.closing (.resumed (resumeClose_turn taken))
  | abandonClose call =>
      cases taken
      exact books.closing (.abandoned call)
  | route now => exact books.route taken
  | begin key now => exact books.begin taken
  | finish key outcome now => exact books.finish taken
  | drain =>
      rcases Option.map_eq_some_iff.mp taken with ⟨next, drained, rfl⟩
      simp only [Bus.drain] at drained
      split at drained <;> cases drained
      exact { books with }
  | retire key =>
      rcases Option.map_eq_some_iff.mp taken with ⟨next, retired, rfl⟩
      exact books.retire retired
  | halt =>
      rcases Option.map_eq_some_iff.mp taken with ⟨next, halted, rfl⟩
      simp only [Bus.halt] at halted
      split at halted <;> cases halted
      exact { books with }
  | takeErrors =>
      rcases Option.map_eq_some_iff.mp taken with ⟨next, claimed, rfl⟩
      exact books.aside (takeErrors_aside claimed)
  | receive => exact books.aside (receive_aside taken)
  | dropErrors => exact books.aside (dropErrors_aside taken)
  | letGo =>
      cases taken
      exact books.aside letGo_aside
  | drop => exact books.aside (drop_aside taken)

end Books

end Bus

end ConversationBus
