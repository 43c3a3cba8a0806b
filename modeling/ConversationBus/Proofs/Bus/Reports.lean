import ConversationBus.Proofs.Bus.Delivery
import ConversationBus.Proofs.Bus.Ending

/-!
# Failures are accounted for

Each handler call whose outcome is recorded as a failure is reported once, and each report is in one
place at any time: its consumer has got it, it is on the error stream, the stream was full, or nobody
listened. The stream keeps to its size and the reports to their order, however slow the consumer is,
and whether or not workers break off. A call at which a worker breaks off is not recorded, and the
next message of its conversation is reported without a call. The stream ends when nobody can report
any more, after the last report on it.
-/

namespace ConversationBus

/-! ## What a trace tells of reports -/

namespace Event

def report? : Event → Option DeliveryError
  | .reported report _ => some report
  | _ => none

def received? : Event → Option DeliveryError
  | .received report => some report
  | _ => none

/-- A report that was dropped because the stream was full. -/
def overflowed? : Event → Option DeliveryError
  | .reported report .overflowed => some report
  | _ => none

/-- A report that nobody listened to when it was made. -/
def unheard? : Event → Option DeliveryError
  | .reported report .unheard => some report
  | _ => none

/-- A report that did not come on the stream. -/
def refused? : Event → Option DeliveryError
  | .reported report .overflowed => some report
  | .reported report .unheard => some report
  | _ => none

/-- A report that was on the stream when nobody listened any more. -/
def discarded? : Event → Option DeliveryError
  | .discarded report => some report
  | _ => none

/-- The message whose handler call ends with an outcome that is recorded. -/
def recorded? : Event → Option Admitted
  | .ended running _ => some running.admitted
  | _ => none

/-- The end of a handler call that failed, as its message with the error. -/
def failure? : Event → Option (Message × String)
  | .ended running outcome => outcome.failure?.map fun error => (running.admitted.message, error)
  | _ => none

end Event

/-- The reports that were made, in this order. -/
def reportsIn (trace : List Event) : List DeliveryError :=
  trace.filterMap Event.report?

def receivedIn (trace : List Event) : List DeliveryError :=
  trace.filterMap Event.received?

/-- The reports for which there was no room. -/
def overflowedIn (trace : List Event) : List DeliveryError :=
  trace.filterMap Event.overflowed?

/-- The reports that nobody listens to any more. -/
def lostIn (trace : List Event) : List DeliveryError :=
  trace.filterMap Event.discarded? ++ trace.filterMap Event.unheard?

/-- The messages whose handler calls ended with an outcome that was recorded, in this order. -/
def recordedIn (trace : List Event) : List Admitted :=
  trace.filterMap Event.recorded?

/-- The messages whose handler calls failed, with the errors, in this order. -/
def failuresIn (trace : List Event) : List (Message × String) :=
  trace.filterMap Event.failure?

/-- The reports of handler calls, as messages with errors. -/
def handlerReportsIn (trace : List Event) : List (Message × String) :=
  ((reportsIn trace).filter (·.stage = .handler)).map fun report => (report.message, report.error)

/-- The reports of messages for which no handler was called. -/
def undeliveredIn (trace : List Event) : List DeliveryError :=
  (reportsIn trace).filter (·.stage = .dispatch)

section Views

variable {before after trace : List Event}

/-- Where each event shows as much as in one of two views, the two together show the same. -/
theorem filterMap_perm_of_split {α : Type} {view one other : Event → Option α}
    (split : ∀ event, (view event = one event ∧ other event = none) ∨
      (view event = other event ∧ one event = none)) :
    (trace.filterMap view).Perm (trace.filterMap one ++ trace.filterMap other) := by
  induction trace with
  | nil => exact .refl _
  | cons event trace ih =>
      rw [filterMap_eq_toList, filterMap_eq_toList one, filterMap_eq_toList other]
      rcases split event with ⟨same, none⟩ | ⟨same, none⟩
      · rw [same, none, Option.toList_none, List.nil_append, List.append_assoc]
        exact ih.append_left _
      · rw [same, none, Option.toList_none, List.nil_append]
        exact (ih.append_left _).trans (List.perm_append_comm_assoc ..)

@[simp] theorem reportsIn_append :
    reportsIn (before ++ after) = reportsIn before ++ reportsIn after :=
  List.filterMap_append

@[simp] theorem overflowedIn_append :
    overflowedIn (before ++ after) = overflowedIn before ++ overflowedIn after :=
  List.filterMap_append

@[simp] theorem recordedIn_append :
    recordedIn (before ++ after) = recordedIn before ++ recordedIn after :=
  List.filterMap_append

@[simp] theorem failuresIn_append :
    failuresIn (before ++ after) = failuresIn before ++ failuresIn after :=
  List.filterMap_append

@[simp] theorem handlerReportsIn_append :
    handlerReportsIn (before ++ after) = handlerReportsIn before ++ handlerReportsIn after := by
  rw [handlerReportsIn, reportsIn_append, List.filter_append, List.map_append]
  rfl

@[simp] theorem undeliveredIn_append :
    undeliveredIn (before ++ after) = undeliveredIn before ++ undeliveredIn after := by
  rw [undeliveredIn, reportsIn_append, List.filter_append]
  rfl

theorem lostIn_append_eq_nil :
    lostIn (before ++ after) = [] ↔ lostIn before = [] ∧ lostIn after = [] := by
  simp only [lostIn, List.filterMap_append, List.append_eq_nil_iff]
  tauto

/-- A report that is made comes on the stream, finds no room, or is not heard. -/
theorem reportsIn_perm (trace : List Event) :
    (reportsIn trace).Perm
      (arrivedIn trace ++ (overflowedIn trace ++ trace.filterMap Event.unheard?)) := by
  have made : (reportsIn trace).Perm (arrivedIn trace ++ trace.filterMap Event.refused?) := by
    apply filterMap_perm_of_split
    intro event
    cases event with
    | reported report fate => cases fate <;> simp [Event.report?, Event.arriving?, Event.refused?]
    | _ => simp [Event.report?, Event.arriving?, Event.refused?]
  have refused : (trace.filterMap Event.refused?).Perm
      (overflowedIn trace ++ trace.filterMap Event.unheard?) := by
    apply filterMap_perm_of_split
    intro event
    cases event with
    | reported report fate =>
        cases fate <;> simp [Event.overflowed?, Event.unheard?, Event.refused?]
    | _ => simp [Event.overflowed?, Event.unheard?, Event.refused?]
  exact made.trans (refused.append_left _)

theorem overflowedIn_eq_nil (none : reportsIn trace = []) : overflowedIn trace = [] := by
  have made := reportsIn_perm trace
  rw [none, List.nil_perm, List.append_eq_nil_iff, List.append_eq_nil_iff] at made
  exact made.2.1

theorem leftIn_perm (trace : List Event) :
    (leftIn trace).Perm (receivedIn trace ++ trace.filterMap Event.discarded?) := by
  apply filterMap_perm_of_split
  intro event
  cases event with
  | _ => simp [Event.leaving?, Event.received?, Event.discarded?]

/-- The reports that were received were made before, in the same order, if each report that left the
stream came on it. -/
theorem receivedIn_sublist {rest : List DeliveryError}
    (streams : leftIn trace ++ rest = arrivedIn trace) :
    (receivedIn trace).Sublist (reportsIn trace) := by
  have received : (receivedIn trace).Sublist (leftIn trace) := by
    apply filterMap_sublist_of_imp
    intro event report seen
    cases event with
    | received => exact seen
    | _ => cases seen
  have left : (leftIn trace).Sublist (arrivedIn trace) := by
    rw [← streams]
    exact List.sublist_append_left _ _
  have arrived : (arrivedIn trace).Sublist (reportsIn trace) := by
    apply filterMap_sublist_of_imp
    intro event report seen
    cases event with
    | reported report fate =>
        cases fate with
        | queued => exact seen
        | overflowed | unheard => cases seen
    | _ => cases seen
  exact (received.trans left).trans arrived

/-- A report is about a handler call or about a message without one. -/
theorem length_reportsIn (trace : List Event) :
    (reportsIn trace).length = (handlerReportsIn trace).length + (undeliveredIn trace).length := by
  rw [handlerReportsIn, List.length_map, undeliveredIn,
    List.length_eq_length_filter_add (fun report : DeliveryError => report.stage = .handler)]
  congr 2
  apply List.filter_congr
  intro report _
  cases report.stage with
  | dispatch | handler => rfl

/-- The messages whose handler calls failed are among those whose outcomes were recorded. -/
theorem failuresIn_sublist_recordedIn (trace : List Event) :
    ((failuresIn trace).map Prod.fst).Sublist ((recordedIn trace).map Admitted.message) := by
  rw [failuresIn, recordedIn, List.map_filterMap, List.map_filterMap]
  apply filterMap_sublist_of_imp
  intro event message seen
  cases event with
  | ended running outcome =>
      cases failed : outcome.failure? with
      | none => simp [Event.failure?, failed] at seen
      | some error => simpa [Event.failure?, Event.recorded?, failed] using seen
  | _ => cases seen

theorem failuresIn_eq_nil (none : recordedIn trace = []) : failuresIn trace = [] := by
  have failures := failuresIn_sublist_recordedIn trace
  rw [none] at failures
  exact List.map_eq_nil_iff.mp (List.sublist_nil.mp failures)

theorem recordedIn_sublist_endedIn (trace : List Event) :
    (recordedIn trace).Sublist (endedIn trace) := by
  apply filterMap_sublist_of_imp
  intro event message seen
  cases event with
  | ended => exact seen
  | _ => cases seen

/-- Where no worker breaks off, every outcome is recorded. -/
theorem recordedIn_of_whole (whole : brokenOffIn trace = []) : recordedIn trace = endedIn trace := by
  refine List.filterMap_congr fun event member => ?_
  cases event with
  | brokenOff => cases List.filterMap_eq_nil_iff.mp whole _ member
  | _ => rfl

theorem leftIn_eq_receivedIn (kept : trace.filterMap Event.discarded? = []) :
    leftIn trace = receivedIn trace := by
  apply List.filterMap_congr
  intro event member
  cases event with
  | discarded report => cases List.filterMap_eq_nil_iff.mp kept _ member
  | _ => rfl

/-- Events that are not about reports tell of none. -/
theorem reportsIn_of_others (others : ∀ event ∈ trace, event.ofReport = false) :
    reportsIn trace = [] ∧ lostIn trace = [] := by
  have silent (view : Event → Option DeliveryError)
      (about : ∀ event, event.ofReport = false → view event = none) : trace.filterMap view = [] :=
    List.filterMap_eq_nil_iff.mpr fun event member => about event (others event member)
  have unseen : ∀ event : Event, event.ofReport = false →
      event.report? = none ∧ event.discarded? = none ∧ event.unheard? = none := by
    intro event other
    cases event with
    | reported | received | discarded => cases other
    | _ => exact ⟨rfl, rfl, rfl⟩
  refine ⟨silent _ fun event other => (unseen event other).1, ?_⟩
  rw [lostIn, silent _ fun event other => (unseen event other).2.1,
    silent _ fun event other => (unseen event other).2.2, List.append_nil]

end Views

namespace Bus

variable {config : BusConfig} {bus mid next : Bus} {result : Bus × List Event}
  {trace : List Event}

/-! ## Every step keeps the accounts -/

/-- What a step has to do with reports: the counts of outcomes go with the events, the stream keeps
to its size, nothing is lost while somebody may listen, and each failure is reported. -/
structure Reporting (bus : Bus) (result : Bus × List Event) : Prop where
  capacity : result.1.errors.capacity = bus.errors.capacity
  bounded : bus.errors.queued.length ≤ bus.errors.capacity →
    result.1.errors.queued.length ≤ bus.errors.capacity
  failed : result.1.counters.failed = bus.counters.failed + (reportsIn result.2).length
  dropped : result.1.counters.droppedErrors =
    bus.counters.droppedErrors + (overflowedIn result.2).length
  handled : result.1.counters.delivered + (failuresIn result.2).length =
    bus.counters.delivered + (recordedIn result.2).length
  heard : result.1.errors.receiver ≠ .dropped →
    bus.errors.receiver ≠ .dropped ∧ lostIn result.2 = []
  made : handlerReportsIn result.2 = failuresIn result.2
  undelivered : ((undeliveredIn result.2).map DeliveryError.message).Sublist
    ((droppedIn result.2).map Admitted.message)

/-- A step that makes no report and ends no handler call may still take reports off the stream. -/
theorem reporting_of_none (capacity : result.1.errors.capacity = bus.errors.capacity)
    (shorter : result.1.errors.queued.length ≤ bus.errors.queued.length)
    (delivered : result.1.counters.delivered = bus.counters.delivered)
    (failed : result.1.counters.failed = bus.counters.failed)
    (dropped : result.1.counters.droppedErrors = bus.counters.droppedErrors)
    (reports : reportsIn result.2 = []) (recorded : recordedIn result.2 = [])
    (heard : result.1.errors.receiver ≠ .dropped →
      bus.errors.receiver ≠ .dropped ∧ lostIn result.2 = []) : Reporting bus result where
  capacity
  bounded := fun bounded => Nat.le_trans shorter bounded
  failed := by rw [failed, reports]; rfl
  dropped := by rw [dropped, overflowedIn_eq_nil reports]; rfl
  handled := by rw [delivered, failuresIn_eq_nil recorded, recorded]; rfl
  heard
  made := by rw [handlerReportsIn, reports, failuresIn_eq_nil recorded]; rfl
  undelivered := by
    rw [undeliveredIn, reports]
    exact List.nil_sublist _

theorem OffStream.reporting (off : OffStream bus result) : Reporting bus result := by
  rcases reportsIn_of_others fun event member => (off.silent event member).1 with
    ⟨reports, lost⟩
  have recorded : recordedIn result.2 = [] := by
    refine List.filterMap_eq_nil_iff.mpr fun event member => ?_
    have other := (off.silent event member).2
    cases event with
    | ended => cases other
    | _ => rfl
  refine reporting_of_none ?_ ?_ off.delivered off.failed off.droppedErrors reports recorded ?_
  · rw [off.errors]
  · exact Nat.le_of_eq (congrArg (·.queued.length) off.errors)
  · rw [off.errors]
    exact fun heard => ⟨heard, lost⟩

/-- A report is made, at the end of a handler call that failed or about a message that was given
up. -/
theorem report_reporting (report : DeliveryError) {front : List Event}
    (errors : next.errors = bus.errors) (counters : next.counters = bus.counters)
    (silent : ∀ event ∈ front, event.ofReport = false)
    (outcomes : (recordedIn front).length = (failuresIn front).length)
    (made : handlerReportsIn [.reported report .queued] = failuresIn front)
    (lost : ((undeliveredIn [.reported report .queued]).map DeliveryError.message).Sublist
      ((droppedIn front).map Admitted.message)) :
    Reporting bus ((next.report report).1, front ++ (next.report report).2) := by
  rcases reportsIn_of_others silent with ⟨noReport, noLoss⟩
  have one (fate : ReportFate) : (reportsIn (front ++ [.reported report fate])).length = 1 := by
    rw [reportsIn_append, noReport]
    rfl
  have overflows (fate : ReportFate) : overflowedIn (front ++ [.reported report fate]) =
      overflowedIn [.reported report fate] := by
    rw [overflowedIn_append, overflowedIn_eq_nil noReport, List.nil_append]
  have handled (fate : ReportFate) : bus.counters.delivered +
      (failuresIn (front ++ [.reported report fate])).length =
        bus.counters.delivered + (recordedIn (front ++ [.reported report fate])).length := by
    rw [failuresIn_append, recordedIn_append, List.length_append, List.length_append, outcomes]
    rfl
  have told (fate : ReportFate) : handlerReportsIn (front ++ [.reported report fate]) =
      failuresIn (front ++ [.reported report fate]) := by
    rw [handlerReportsIn_append, failuresIn_append, ← made, handlerReportsIn, noReport]
    exact (List.append_nil _).symm
  have kept (fate : ReportFate) :
      ((undeliveredIn (front ++ [.reported report fate])).map DeliveryError.message).Sublist
        ((droppedIn (front ++ [.reported report fate])).map Admitted.message) := by
    rw [undeliveredIn_append, droppedIn_append, undeliveredIn, noReport]
    exact (List.append_nil _).symm ▸ lost
  simp only [Bus.report, errors, counters]
  split
  next dropped =>
    refine ⟨rfl, id, ?_, ?_, handled _, fun heard => absurd dropped heard, told _, kept _⟩
    · rw [one]
    · rw [overflows]
      rfl
  next heard =>
    split
    next room =>
      refine ⟨rfl, fun _ => ?_, ?_, ?_, handled _, fun heard => ⟨heard, ?_⟩, told _, kept _⟩
      · rw [List.length_append]
        exact room
      · rw [one]
      · rw [overflows]
        rfl
      · exact lostIn_append_eq_nil.mpr ⟨noLoss, rfl⟩
    next full =>
      refine ⟨rfl, id, ?_, ?_, handled _, fun heard => ⟨heard, ?_⟩, told _, kept _⟩
      · rw [one]
      · rw [overflows]
        rfl
      · exact lostIn_append_eq_nil.mpr ⟨noLoss, rfl⟩

/-- A report about a message that was given up stands for no failure of a handler. -/
theorem undelivered_reporting {report : DeliveryError} {admitted : Admitted}
    (errors : next.errors = bus.errors) (counters : next.counters = bus.counters)
    (undelivered : report.stage = .dispatch) (own : report.message = admitted.message) :
    Reporting bus ((next.report report).1, .dropped admitted :: (next.report report).2) := by
  have apart : handlerReportsIn [.reported report .queued] = failuresIn [.dropped admitted] := by
    simp [handlerReportsIn, reportsIn, Event.report?, undelivered, failuresIn, Event.failure?]
  refine report_reporting report errors counters (List.forall_mem_singleton.mpr rfl) rfl apart ?_
  simp [undeliveredIn, reportsIn, Event.report?, undelivered, droppedIn, Event.dropped?, own]

theorem finish_reporting {key : String} {outcome : Outcome} {now : Instant}
    (finished : bus.finish key outcome now = some result) : Reporting bus result := by
  simp only [finish, Option.bind_eq_bind, Option.bind_eq_some_iff] at finished
  rcases finished with ⟨worker, _, running, _, finished⟩
  cases finished
  cases failed : outcome.failure? with
  | none =>
      have none : failuresIn [.ended running outcome] = [] := by
        simp [failuresIn, Event.failure?, failed]
      refine ⟨rfl, id, rfl, rfl, ?_, fun heard => ⟨heard, rfl⟩, none.symm, List.nil_sublist _⟩
      rw [conclude, none]
      rfl
  | some error =>
      have one : failuresIn [.ended running outcome] = [(running.admitted.message, error)] := by
        simp [failuresIn, Event.failure?, failed]
      have reported (next : Bus) (errors : next.errors = bus.errors)
          (counters : next.counters = bus.counters) :=
        report_reporting ⟨running.admitted.message, error, .handler, now⟩ errors counters
          (List.forall_mem_singleton.mpr rfl) (one ▸ rfl) one.symm (List.nil_sublist _)
      exact reported _ rfl rfl

/-- What the consumer of the stream does makes no report. -/
theorem reporting_of_consumer (capacity : result.1.errors.capacity = bus.errors.capacity)
    (shorter : result.1.errors.queued.length ≤ bus.errors.queued.length)
    (counters : result.1.counters = bus.counters)
    (silent : ∀ event ∈ result.2, (∃ report, event = .received report) ∨
      ∃ report, event = .discarded report)
    (heard : result.1.errors.receiver ≠ .dropped →
      bus.errors.receiver ≠ .dropped ∧ lostIn result.2 = []) : Reporting bus result := by
  have unseen {α : Type} {view : Event → Option α}
      (received : ∀ report, view (.received report) = none)
      (discarded : ∀ report, view (.discarded report) = none) : result.2.filterMap view = [] := by
    refine List.filterMap_eq_nil_iff.mpr fun event member => ?_
    rcases silent event member with ⟨report, rfl⟩ | ⟨report, rfl⟩
    · exact received report
    · exact discarded report
  exact reporting_of_none capacity shorter (congrArg _ counters) (congrArg _ counters)
    (congrArg _ counters) (unseen (fun _ => rfl) fun _ => rfl) (unseen (fun _ => rfl) fun _ => rfl)
    heard

theorem dropReceiver_reporting (bus : Bus) : Reporting bus bus.dropReceiver := by
  refine reporting_of_consumer rfl (Nat.zero_le _) rfl (fun event member => ?_)
    fun heard => absurd rfl heard
  rcases List.mem_map.mp member with ⟨report, _, rfl⟩
  exact .inr ⟨report, rfl⟩

theorem receive_reporting (received : bus.receive = some result) : Reporting bus result := by
  simp only [Bus.receive] at received
  split at received
  next taken =>
    split at received
    next => cases received
    next report queued first =>
      cases received
      refine reporting_of_consumer rfl (by simp [first]) rfl (by simp) fun heard => ⟨heard, rfl⟩
  next => cases received

theorem takeErrors_reporting (claimed : bus.takeErrors = some next) :
    Reporting bus next.quietly := by
  simp only [Bus.takeErrors] at claimed
  split at claimed
  next unclaimed =>
    cases claimed
    exact reporting_of_consumer rfl (Nat.le_refl _) rfl (by simp [quietly])
      fun _ => ⟨by simp [unclaimed], rfl⟩
  next => cases claimed

theorem dropErrors_reporting (dropped : bus.dropErrors = some result) : Reporting bus result := by
  simp only [Bus.dropErrors] at dropped
  split at dropped <;> cases dropped
  exact dropReceiver_reporting bus

theorem drop_reporting (dropped : bus.drop = some result) : Reporting bus result := by
  simp only [Bus.drop] at dropped
  split at dropped
  next =>
    cases dropped
    split
    next =>
      exact { dropReceiver_reporting { bus with closed := true, handle := .dropped } with }
    next => exact { (quiet_offStream rfl rfl : OffStream bus bus.quietly).reporting with }
  next => cases dropped

/-- A message for a worker that has broken off is reported as not delivered. -/
theorem route_reporting {now : Instant} (routed : bus.route now = some result) :
    Reporting bus result := by
  simp only [route] at routed
  split at routed
  next admitted ingress _ _ =>
    cases routed
    simp only [assign]
    split
    next => exact OffStream.reporting ⟨rfl, rfl, rfl, rfl, by simp⟩
    next =>
      split
      next => exact undelivered_reporting rfl rfl rfl rfl
      next => exact OffStream.reporting ⟨rfl, rfl, rfl, rfl, by simp⟩
  next => cases routed

theorem begin_reporting (sound : Sound config bus) {key : String} {now : Instant}
    (begun : bus.begin key now = some result) : Reporting bus result := by
  rcases begin_some sound.served.queued begun with ⟨_, _, _, _, _, _, _, _, rfl⟩
  exact OffStream.reporting ⟨rfl, rfl, rfl, rfl, by simp [Event.ofReport, Event.ended?]⟩

/-- Every step keeps the accounts, also where workers have broken off. -/
theorem step_reporting (sound : Sound config bus) {step : Step}
    (taken : bus.step? step = some result) : Reporting bus result := by
  cases step with
  | route now => exact route_reporting taken
  | begin key now => exact begin_reporting sound taken
  | finish key outcome now => exact finish_reporting taken
  | takeErrors =>
      rcases Option.map_eq_some_iff.mp taken with ⟨next, claimed, rfl⟩
      exact takeErrors_reporting claimed
  | receive => exact receive_reporting taken
  | dropErrors => exact dropErrors_reporting taken
  | drop => exact drop_reporting taken
  | _ => exact (step_offStream taken rfl).reporting

/-- A worker that breaks off leaves the error stream and the counters alone. -/
theorem Broken.reporting (broken : Broken bus result) : Reporting bus result := by
  cases broken with
  | @intro key worker running admission found busy =>
      have others : ∀ event ∈ .brokenOff running :: worker.queue.map Event.dropped,
          event.ofReport = false := by simp [Event.ofReport]
      have recorded : recordedIn (.brokenOff running :: worker.queue.map .dropped) = [] := by
        simp [recordedIn, Event.recorded?]
      rcases reportsIn_of_others others with ⟨reports, lost⟩
      exact reporting_of_none rfl (Nat.le_refl _) rfl rfl rfl reports recorded
        fun heard => ⟨heard, lost⟩

/-! ## The accounts along a course -/

/-- What the counters and the error stream have to do with what was seen of a bus. -/
structure Balanced (config : BusConfig) (bus : Bus) (trace : List Event) : Prop where
  capacity : bus.errors.capacity = config.errorBuffer
  bounded : bus.errors.queued.length ≤ config.errorBuffer
  streams : leftIn trace ++ bus.errors.queued = arrivedIn trace
  failed : bus.counters.failed = (reportsIn trace).length
  dropped : bus.counters.droppedErrors = (overflowedIn trace).length
  handled : bus.counters.delivered + (failuresIn trace).length = (recordedIn trace).length
  heard : bus.errors.receiver ≠ .dropped → lostIn trace = []
  made : handlerReportsIn trace = failuresIn trace
  undelivered : ((undeliveredIn trace).map DeliveryError.message).Sublist
    ((droppedIn trace).map Admitted.message)

theorem ofConfig_balanced (config : BusConfig) : Balanced config (ofConfig config) [] where
  capacity := rfl
  bounded := Nat.zero_le _
  streams := rfl
  failed := rfl
  dropped := rfl
  handled := rfl
  heard := fun _ => rfl
  made := rfl
  undelivered := List.nil_sublist _

theorem Balanced.step (balanced : Balanced config bus trace) (reporting : Reporting bus result)
    (streams : Streams bus result) : Balanced config result.1 (trace ++ result.2) where
  capacity := reporting.capacity.trans balanced.capacity
  bounded := by
    rw [← balanced.capacity]
    exact reporting.bounded (balanced.capacity ▸ balanced.bounded)
  streams := by
    have last : leftIn result.2 ++ result.1.errors.queued =
        bus.errors.queued ++ arrivedIn result.2 := streams
    rw [leftIn_append, arrivedIn_append, List.append_assoc, last, ← List.append_assoc,
      balanced.streams]
  failed := by rw [reporting.failed, balanced.failed, reportsIn_append, List.length_append]
  dropped := by rw [reporting.dropped, balanced.dropped, overflowedIn_append, List.length_append]
  handled := by
    have before := balanced.handled
    have now := reporting.handled
    rw [failuresIn_append, recordedIn_append, List.length_append, List.length_append]
    omega
  heard := by
    intro heard
    rcases reporting.heard heard with ⟨before, kept⟩
    exact lostIn_append_eq_nil.mpr ⟨balanced.heard before, kept⟩
  made := by
    rw [handlerReportsIn_append, failuresIn_append, balanced.made, reporting.made]
  undelivered := by
    rw [undeliveredIn_append, droppedIn_append, List.map_append, List.map_append]
    exact balanced.undelivered.append reporting.undelivered

theorem Course.balanced (course : Course bus trace next) (started : Bus.start config = .ok bus) :
    Balanced config next trace := by
  cases start_ofConfig started
  induction course with
  | refl => exact ofConfig_balanced config
  | tail course advance ih =>
      cases advance with
      | step taken =>
          exact ih.step (step_reporting (course.sound started) taken) (step_streams taken)
      | brokenOff broken =>
          have broken := breakOff_broken broken
          exact ih.step broken.reporting broken.streams

namespace Balanced

theorem placed (balanced : Balanced config bus trace) : (reportsIn trace).Perm
    (receivedIn trace ++ bus.errors.queued ++ overflowedIn trace ++ lostIn trace) := by
  have arrived : (arrivedIn trace).Perm
      (receivedIn trace ++ trace.filterMap Event.discarded? ++ bus.errors.queued) := by
    rw [← balanced.streams]
    exact (leftIn_perm trace).append_right _
  have made := (reportsIn_perm trace).trans (arrived.append_right _)
  rw [List.perm_iff_count] at made ⊢
  intro report
  rw [made]
  simp only [List.count_append, lostIn]
  omega

theorem failed_eq (balanced : Balanced config bus trace) :
    bus.counters.failed = (receivedIn trace).length + bus.errors.queued.length +
      bus.counters.droppedErrors + (lostIn trace).length := by
  rw [balanced.failed, balanced.placed.length_eq, balanced.dropped]
  simp only [List.length_append]

theorem recorded (balanced : Balanced config bus trace) :
    bus.counters.delivered + bus.counters.failed =
      (recordedIn trace).length + (undeliveredIn trace).length := by
  have handled := balanced.handled
  rw [balanced.failed, length_reportsIn, balanced.made]
  omega

/-- All that left a stream to which somebody may listen was received. -/
theorem receivedIn_eq (balanced : Balanced config bus trace)
    (heard : bus.errors.receiver ≠ .dropped) :
    receivedIn trace ++ bus.errors.queued = arrivedIn trace := by
  have kept : trace.filterMap Event.discarded? = [] :=
    (List.append_eq_nil_iff.mp (balanced.heard heard)).1
  rw [← balanced.streams, leftIn_eq_receivedIn kept]

end Balanced

/-- A message that is reported without a handler call is of a conversation whose worker has broken
off. -/
theorem Course.broken_of_undelivered {report : DeliveryError} (course : Course bus trace next)
    (started : Bus.start config = .ok bus) (member : report ∈ undeliveredIn trace) :
    ofKey report.message.conversationKey (brokenOffIn trace) ≠ [] := by
  have dropped := (course.balanced started).undelivered.subset (List.mem_map_of_mem member)
  rcases List.mem_map.mp dropped with ⟨lost, lostMember, same⟩
  rcases List.append_of_mem (mem_droppedIn.mp lostMember) with ⟨before, after, split⟩
  have broken := course.broken_of_dropped started split
  rw [← same, split, brokenOffIn_append, ofKey_append]
  exact List.append_ne_nil_of_left_ne_nil broken _

/-- No message is left without a handler call as long as no worker breaks off. -/
theorem Course.undeliveredIn_eq_nil (course : Course bus trace next)
    (started : Bus.start config = .ok bus) (whole : brokenOffIn trace = []) :
    undeliveredIn trace = [] := by
  rw [List.eq_nil_iff_forall_not_mem]
  intro report member
  exact course.broken_of_undelivered started member (by rw [whole, ofKey_nil])

/-- The failures of a conversation are in the order in which its handler calls began. -/
theorem Course.failuresIn_sublist (course : Course bus trace next)
    (started : Bus.start config = .ok bus) (key : String) :
    (((failuresIn trace).map Prod.fst).filter (·.conversationKey = key)).Sublist
      ((ofKey key (startedIn trace)).map Admitted.message) := by
  have ended : (ofKey key (endedIn trace)).Sublist (ofKey key (startedIn trace)) := by
    rw [(course.line started key).started]
    exact List.sublist_append_left _ _
  have recorded : (ofKey key (recordedIn trace)).Sublist (ofKey key (endedIn trace)) :=
    (recordedIn_sublist_endedIn trace).filter _
  have own : ((recordedIn trace).map Admitted.message).filter (·.conversationKey = key) =
      (ofKey key (recordedIn trace)).map Admitted.message := List.filter_map ..
  exact ((failuresIn_sublist_recordedIn trace).filter _).trans
    (own ▸ (recorded.trans ended).map _)

/-! ## The end of the stream -/

/-- The consumer can receive the reports that are on the stream, one after the other. -/
theorem receives_all (reports : List DeliveryError) (queued : bus.errors.queued = reports)
    (taken : bus.errors.receiver = .taken) :
    Run bus (reports.map .received) { bus with errors := { bus.errors with queued := [] } } := by
  induction reports generalizing bus with
  | nil =>
      have same : { bus with errors := { bus.errors with queued := [] } } = bus := by
        rw [← queued]
      rw [same]
      exact .refl bus
  | cons report reports ih =>
      have first : bus.step? .receive =
          some ({ bus with errors := { bus.errors with queued := reports } },
            [.received report]) := by
        simp only [step?, Bus.receive, taken, queued, if_true]
      exact ((Run.refl bus).tail first).append (ih rfl taken)

/-- The reports of a bus have come to an end. -/
structure StreamEnds (bus : Bus) (trace : List Event) : Prop where
  /-- No message is on its way, and no handler is at work. -/
  rest : AtRest bus
  /-- Whatever happens from now on, its consumer gets the reports that are on the stream, in their
  order, and no others. -/
  last : ∀ later next, Course bus later next →
    next.reportsEnded = true ∧ leftIn later ++ next.errors.queued = bus.errors.queued
  /-- A consumer that listens can get them all before the stream is over. -/
  gets : bus.errors.receiver = .taken →
    ∃ next, Run bus (bus.errors.queued.map .received) next ∧ next.errors.queued = []
  /-- When the stream is over, such a consumer has got each report for which there was room. -/
  complete : bus.errors.receiver = .taken → bus.errors.queued = [] →
    receivedIn trace = arrivedIn trace

theorem Course.streamEnds (course : Course bus trace next)
    (started : Bus.start config = .ok bus) (ended : next.reportsEnded = true) :
    StreamEnds next trace where
  rest := (course.sound started).at_rest (reportsEnded_iff.mp ended).2.1
  last := fun _ _ later => later.after_end (course.sound started) ended
  gets := fun taken => ⟨_, receives_all _ rfl taken, rfl⟩
  complete := by
    intro taken empty
    have heard := (course.balanced started).receivedIn_eq (by simp [taken])
    rwa [empty, List.append_nil] at heard

/-! ## Every failure is accounted for -/

/-- Where the failed deliveries of a bus are found in what was seen of it, its counters and its
error stream. -/
structure FailuresAccounted (config : BusConfig) (bus : Bus) (trace : List Event) : Prop where
  /-- Each handler call that was recorded as a failure has made one report, with its message and its
  error, in the order in which they ended. No other handler call has made one: none that succeeded,
  and none at which a worker broke off. -/
  made : handlerReportsIn trace = failuresIn trace
  /-- The failures of a conversation are in the order in which its messages were handled. -/
  ordered : ∀ key, (((handlerReportsIn trace).map Prod.fst).filter (·.conversationKey = key)).Sublist
    ((ofKey key (startedIn trace)).map Admitted.message)
  /-- A report without a handler call is about a message that was given up, -/
  undelivered : ((undeliveredIn trace).map DeliveryError.message).Sublist
    ((droppedIn trace).map Admitted.message)
  /-- because the worker of its conversation has broken off. -/
  broken : ∀ report ∈ undeliveredIn trace,
    ofKey report.message.conversationKey (brokenOffIn trace) ≠ []
  /-- The counters tell of the outcomes that were recorded and of these messages. -/
  recorded : bus.counters.delivered + bus.counters.failed =
    (recordedIn trace).length + (undeliveredIn trace).length
  /-- As long as no worker breaks off, there are no such messages, and every outcome is recorded. -/
  whole : brokenOffIn trace = [] → undeliveredIn trace = [] ∧
    bus.counters.delivered + bus.counters.failed = (endedIn trace).length
  /-- Each report is in one place. -/
  placed : (reportsIn trace).Perm
    (receivedIn trace ++ bus.errors.queued ++ overflowedIn trace ++ lostIn trace)
  /-- The counters agree: each report was received, is on the stream, found no room, or is lost
  because nobody listens. -/
  failed : bus.counters.failed = (receivedIn trace).length + bus.errors.queued.length +
    bus.counters.droppedErrors + (lostIn trace).length
  overflowed : bus.counters.droppedErrors = (overflowedIn trace).length
  /-- Nothing is lost until the receiving end is dropped. -/
  heard : bus.errors.receiver ≠ .dropped → lostIn trace = []
  bounded : bus.errors.queued.length ≤ config.errorBuffer
  /-- The consumer gets reports in the order in which they were made. -/
  received : (receivedIn trace).Sublist (reportsIn trace)
  ends : bus.reportsEnded = true → StreamEnds bus trace

/-- Every failure is accounted for, at any time, whatever callers and the consumer of the error
stream do, and whether or not workers break off. -/
theorem failures_accounted (started : Bus.start config = .ok bus)
    (course : Course bus trace next) : FailuresAccounted config next trace := by
  have balanced := course.balanced started
  exact {
    made := balanced.made
    ordered := by
      intro key
      rw [balanced.made]
      exact course.failuresIn_sublist started key
    undelivered := balanced.undelivered
    broken := fun report member => course.broken_of_undelivered started member
    recorded := balanced.recorded
    whole := by
      intro whole
      have none := course.undeliveredIn_eq_nil started whole
      refine ⟨none, ?_⟩
      rw [balanced.recorded, none, recordedIn_of_whole whole, List.length_nil, Nat.add_zero]
    placed := balanced.placed
    failed := balanced.failed_eq
    overflowed := balanced.dropped
    heard := balanced.heard
    bounded := balanced.bounded
    received := receivedIn_sublist balanced.streams
    ends := course.streamEnds started }

/-- With room for one report, one that fails is received, one that breaks off finds no room, one
is discarded with the receiving end, and one is not heard. -/
theorem failures_accounted_of_four :
    ∃ config bus trace next, Bus.start config = .ok bus ∧ Course bus trace next ∧
      next.counters = ⟨5, 1, 4, 1, 1⟩ ∧ (receivedIn trace).map DeliveryError.error = ["offline"] ∧
      (overflowedIn trace).map DeliveryError.error =
        ["handler panicked: non-string panic payload"] ∧
      (lostIn trace).map DeliveryError.error = ["slow: late", "offline"] ∧
      next.reportsEnded = true ∧ FailuresAccounted config next trace := by
  let config : BusConfig := { BusConfig.standard with errorBuffer := 1 }
  let nudge (key : String) (outcome : Outcome) : List Step :=
    [.publish (emptyNudge "slack:dm:7" key) false none, .route .epoch, .begin "slack:dm:7" .epoch,
      .finish "slack:dm:7" outcome .epoch]
  have possible : ((ofConfig config).steps? ([.subscribe "dm-checkin" 0, .takeErrors] ++
      nudge "first" (.failed ["offline"]) ++ nudge "second" (.broke none) ++ [.receive] ++
      nudge "third" .succeeded ++ nudge "fourth" (.failed ["slow", "late"]) ++ [.dropErrors] ++
      nudge "fifth" (.failed ["offline"]) ++
      [.close, .drain, .retire "slack:dm:7", .halt, .resumeClose 5])).map (fun result =>
        (result.1.counters, (receivedIn result.2).map DeliveryError.error,
          (overflowedIn result.2).map DeliveryError.error,
          (lostIn result.2).map DeliveryError.error, result.1.reportsEnded)) =
      some (⟨5, 1, 4, 1, 1⟩, ["offline"], ["handler panicked: non-string panic payload"],
        ["slow: late", "offline"], true) := by
    decide +kernel
  rcases Option.map_eq_some_iff.mp possible with ⟨⟨next, trace⟩, taken, seen⟩
  simp only [Prod.mk.injEq] at seen
  rcases seen with ⟨counters, received, overflowed, lost, ended⟩
  have started : Bus.start config = .ok (ofConfig config) := rfl
  have course := (run_of_steps taken).course
  exact ⟨config, _, trace, next, started, course, counters, received, overflowed, lost, ended,
    failures_accounted started course⟩

/-- The only handler call that was made fails with an error that cannot be put into words. It makes
no report. The counters tell of one failure nevertheless, which is that of the next message, for
which no handler was called. -/
theorem unreported_after_breaking_off :
    ∃ bus trace next, Bus.start .standard = .ok bus ∧ Course bus trace next ∧
      (startedIn trace).length = 1 ∧ (endedIn trace).length = 1 ∧
      handlerReportsIn trace = [] ∧ recordedIn trace = [] ∧
      next.counters.delivered + next.counters.failed = 1 := by
  have possible : ((ofConfig .standard).breaksOff? [.subscribe "dm-checkin" 0,
      .publish (emptyNudge "slack:dm:7" "first") false none, .route .epoch,
      .begin "slack:dm:7" .epoch] "slack:dm:7"
      [.publish (emptyNudge "slack:dm:7" "second") false none, .route .epoch]).map (fun result =>
        decide ((startedIn result.2).length = 1 ∧ (endedIn result.2).length = 1 ∧
          handlerReportsIn result.2 = [] ∧ recordedIn result.2 = [] ∧
          result.1.counters.delivered + result.1.counters.failed = 1)) = some true := by
    decide +kernel
  rcases Option.map_eq_some_iff.mp possible with ⟨⟨next, trace⟩, taken, seen⟩
  have started : Bus.start .standard = .ok (ofConfig .standard) := rfl
  exact ⟨_, trace, next, started, course_of_breaksOff taken, of_decide_eq_true seen⟩

end Bus

end ConversationBus
