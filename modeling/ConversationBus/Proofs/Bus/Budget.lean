import ConversationBus.Proofs.Bus.Run

/-!
# The admission budget

Every permit of the budget is at one place at any time, also where workers break off. The permits
are counted as they can be told from outside: those that are free, the publish calls that have one,
and the messages in the ingress queue, in the queues of the workers and at the handlers.
-/

namespace ConversationBus.Bus

variable {config : BusConfig} {bus next : Bus} {trace : List Event}

/-! ## Who has a permit -/

/-- The publish calls that have a permit and have not handed over their message: those that are past
the admission and those for which a permit is put aside. -/
def permitHolders (bus : Bus) : List PublishCall :=
  bus.calls.filter fun call => call.stage = .handOff || call.id ∈ bus.admission.granted

/-- The number of messages in the queues of the workers. -/
def waitingAtWorkers (bus : Bus) : Nat :=
  (bus.workers.map fun worker => worker.queue.length).sum

/-- The number of messages at handlers. -/
def atHandlers (bus : Bus) : Nat :=
  bus.workers.countP fun worker => worker.running.isSome

theorem loadOf_workers (bus : Bus) :
    loadOf bus.workers = bus.waitingAtWorkers + bus.atHandlers := by
  simp only [waitingAtWorkers, atHandlers]
  induction bus.workers with
  | nil => rfl
  | cons worker workers ih =>
      rw [loadOf_cons, ih, List.map_cons, List.sum_cons, List.countP_cons, Worker.load]
      cases worker.running with
      | none =>
          simp only [Option.toList_none, List.length_nil, Option.isSome_none]
          simp
          omega
      | some running =>
          simp
          omega

theorem countP_or_of_disjoint {α : Type} {left right : α → Bool} {entries : List α}
    (disjoint : ∀ entry ∈ entries, left entry → right entry = false) :
    entries.countP (fun entry => left entry || right entry) =
      entries.countP left + entries.countP right := by
  induction entries with
  | nil => rfl
  | cons entry entries ih =>
      have others := ih fun other member => disjoint other (List.mem_cons_of_mem _ member)
      have here := disjoint entry List.mem_cons_self
      simp only [List.countP_cons, others]
      cases isLeft : left entry with
      | true =>
          simp [here isLeft]
          omega
      | false =>
          simp
          omega

/-- The calls for which a permit is put aside wait for their admission. -/
theorem Books.waits_of_granted (books : Books config bus 0 0) {call : PublishCall}
    (member : call ∈ bus.calls) (granted : call.id ∈ bus.admission.granted) :
    call.stage = .admission := by
  have inRow := books.admission.row.mem_iff.mp (List.mem_append_right _ granted)
  rcases exists_of_mem_rowOf inRow with ⟨other, present, same, admission, _⟩
  rwa [← List.inj_on_of_nodup_map books.ids present member same]

theorem Books.count_granted (books : Books config bus 0 0) :
    bus.calls.countP (fun call => call.id ∈ bus.admission.granted) =
      bus.admission.granted.length := by
  have row : (rowOf .admission bus.calls).Nodup := books.ids.sublist (List.filter_sublist.map _)
  have apart := books.admission.row.nodup_iff.mpr row
  have chosen : (bus.calls.map PublishCall.id).filter
      (fun id => decide (id ∈ bus.admission.granted)) |>.Perm bus.admission.granted := by
    apply (List.perm_ext_iff_of_nodup (books.ids.filter _) apart.of_append_right).mpr
    intro id
    simp only [List.mem_filter, decide_eq_true_eq, and_iff_right_iff_imp]
    intro granted
    have inRow := books.admission.row.mem_iff.mp (List.mem_append_right _ granted)
    exact (List.filter_sublist.map _).subset inRow
  rw [← chosen.length_eq, ← List.countP_eq_length_filter, List.countP_map]
  rfl

theorem Books.length_permitHolders (books : Books config bus 0 0) :
    bus.permitHolders.length = handingOff bus.calls + bus.admission.granted.length := by
  rw [permitHolders, ← List.countP_eq_length_filter, countP_or_of_disjoint, books.count_granted,
    handingOff]
  intro call member handing
  simp only [decide_eq_true_eq, decide_eq_false_iff_not] at handing ⊢
  intro granted
  simp [books.waits_of_granted member granted] at handing

/-! ## The account -/

/-- The budget of a bus is accounted for. -/
structure Accounted (config : BusConfig) (bus : Bus) : Prop where
  /-- Each permit is at one place. -/
  conserved : bus.admission.free + bus.permitHolders.length + bus.ingress.length +
    bus.waitingAtWorkers + bus.atHandlers = config.maxInFlight
  /-- No more messages are on their way than the budget allows. -/
  bounded : bus.ingress.length + bus.waitingAtWorkers + bus.atHandlers ≤ config.maxInFlight
  /-- What is told of the budget is the number of permits that are not free, and the subtraction
  behind it does not stop at zero. -/
  told : bus.inFlight = bus.permitHolders.length + bus.ingress.length + bus.waitingAtWorkers +
    bus.atHandlers ∧ bus.inFlight + bus.admission.free = bus.maxInFlight
  /-- The ingress queue keeps to its size. -/
  room : bus.ingress.length ≤ config.ingressCapacity
  /-- Where the ingress queue has a place for every permit, whoever has a permit finds a place. -/
  ample : config.maxInFlight ≤ config.ingressCapacity →
    ∀ call ∈ bus.permitHolders, 0 < bus.slots.free ∧ (call.stage = .handOff → call.inRow = false)

/-- The budget is accounted for on every course of a bus. -/
theorem budget_accounted (started : Bus.start config = .ok bus)
    (course : Course bus trace next) : Accounted config next := by
  have books := (course.sound started).toBooks
  have budget := books.budget
  have room := books.room
  have load := loadOf_workers next
  have holders := books.length_permitHolders
  have limit := books.limit
  simp only [Semaphore.permits] at budget room
  have conserved : next.admission.free + next.permitHolders.length + next.ingress.length +
      next.waitingAtWorkers + next.atHandlers = config.maxInFlight := by omega
  refine ⟨conserved, by omega, ?_, by omega, ?_⟩
  · simp only [inFlight]
    omega
  · intro enough call member
    have row := books.ample enough
    have serves := books.slots
    rw [row] at serves
    have free := serves.free_eq_permits
    have holder := List.length_pos_of_mem member
    constructor
    · simp only [Semaphore.permits] at free
      omega
    · intro handing
      by_contra inRow
      have standing := mem_rowOf (List.mem_of_mem_filter member) (by simpa using inRow)
      simp [handing, row] at standing

/-- A worker breaks off while one call waits for a place and one for a permit: both have a permit
then, and no message is on its way. -/
theorem budget_accounted_two_holders :
    ∃ config bus trace next, Bus.start config = .ok bus ∧ Course bus trace next ∧
      next.permitHolders.length = 2 ∧ Accounted config next := by
  let config : BusConfig := { BusConfig.standard with maxInFlight := 2, ingressBuffer := 1 }
  have possible : ((ofConfig config).breaksOff? [.subscribe "dm-checkin" 0,
      .publish (emptyNudge "slack:dm:7" "first") false none,
      .publish (emptyNudge "slack:dm:7" "second") false none,
      .publish (emptyNudge "slack:dm:7" "third") false none, .route .epoch,
      .begin "slack:dm:7" .epoch] "slack:dm:7" []).map
        (fun result => result.1.permitHolders.length) = some 2 := by
    decide +kernel
  rcases Option.map_eq_some_iff.mp possible with ⟨⟨next, trace⟩, taken, two⟩
  have started : Bus.start config = .ok (ofConfig config) := rfl
  have course := course_of_breaksOff taken
  exact ⟨config, _, trace, next, started, course, two, budget_accounted started course⟩

end ConversationBus.Bus
