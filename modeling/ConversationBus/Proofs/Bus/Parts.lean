import ConversationBus.Bus.Step
import Mathlib.Algebra.GroupWithZero.Nat
import Mathlib.Data.List.Nodup
import Mathlib.Data.List.Perm.Basic

/-!
# The parts of a bus

The publish calls of a bus are a table by name and its workers a table by conversation. This module
says how the operations on these tables change them, and what is left of a bus by the operations
that report a failed delivery.
-/

namespace ConversationBus

section Tables

variable {α β : Type} [DecidableEq β] {key : α → β} {entries : List α} {entry : α}

theorem perm_cons_filter_ne (nodup : (entries.map key).Nodup) (member : entry ∈ entries) :
    entries.Perm (entry :: entries.filter fun other => key other ≠ key entry) := by
  induction entries with
  | nil => simp at member
  | cons head tail ih =>
      simp only [List.map_cons, List.nodup_cons, List.mem_map, not_exists, not_and] at nodup
      rcases List.mem_cons.mp member with rfl | inTail
      · have others : tail.filter (fun other => key other ≠ key entry) = tail := by
          apply List.filter_eq_self.mpr
          intro other otherMember
          simpa using nodup.1 other otherMember
        rw [List.filter_cons_of_neg (by simp), others]
      · have apart : key head ≠ key entry := fun equal => nodup.1 entry inTail equal.symm
        rw [List.filter_cons_of_pos (by simpa using apart)]
        exact ((ih nodup.2 inTail).cons head).trans (.swap entry head _)

/-- Putting an entry in place of the one with its key leaves the others alone. -/
theorem perm_map_replace {new : α} (nodup : (entries.map key).Nodup) (member : entry ∈ entries)
    (same : key new = key entry) :
    (entries.map fun other => if key other = key new then new else other).Perm
      (new :: entries.filter fun other => key other ≠ key entry) := by
  have moved := (perm_cons_filter_ne nodup member).map
    fun other => if key other = key new then new else other
  rw [List.map_cons, if_pos same.symm] at moved
  have kept : ∀ other ∈ entries.filter fun other => key other ≠ key entry,
      (if key other = key new then new else other) = id other := by
    intro other otherMember
    rw [same, if_neg (by simpa using (List.mem_filter.mp otherMember).2)]
    rfl
  rwa [List.map_congr_left kept, List.map_id] at moved

end Tables

/-- Events of the error stream. -/
def Event.ofStream : Event → Bool
  | .received _ | .discarded _ => true
  | _ => false

/-- Events at the end of a publish call: its return, or its message in the ingress queue. -/
def Event.ofPublishing : Event → Bool
  | .returned _ _ | .abandoned _ | .queued _ => true
  | _ => false

/-- Events of close calls. -/
def Event.ofClosing : Event → Bool
  | .closeReturned _ | .closeAbandoned _ => true
  | _ => false

namespace Bus

variable {bus : Bus}

/-! ## Calls -/

theorem call?_some {id : CallId} {call : PublishCall} (found : bus.call? id = some call) :
    call ∈ bus.calls ∧ call.id = id :=
  ⟨List.mem_of_find?_eq_some found, by simpa using List.find?_some found⟩

theorem call?_of_mem {call : PublishCall} (nodup : (bus.calls.map PublishCall.id).Nodup)
    (member : call ∈ bus.calls) : bus.call? call.id = some call := by
  cases found : bus.call? call.id with
  | none => simpa using List.find?_eq_none.mp found call member
  | some other =>
      rcases call?_some found with ⟨present, same⟩
      rw [List.inj_on_of_nodup_map nodup present member same]

theorem perm_removeCall {call : PublishCall} (nodup : (bus.calls.map PublishCall.id).Nodup)
    (member : call ∈ bus.calls) :
    bus.calls.Perm (call :: (bus.removeCall call.id).calls) :=
  perm_cons_filter_ne nodup member

/-- What does not look at whether a caller has given up does not see that one does. -/
theorem comp_cancel {β : Type} {view : PublishCall → β} (id : CallId)
    (blind : ∀ call, view { call with cancelled := true } = view call) :
    (view ∘ fun call => if call.id = id then { call with cancelled := true } else call) = view := by
  funext call
  simp only [Function.comp_apply]
  split
  next => exact blind call
  next => rfl

/-- The ways in which a publish call goes on: the bus or the caller ends it, it asks for a permit or
for a place after it was put off, or it takes up the permit or the place that was put aside. -/
inductive Resumed (bus : Bus) (putOff : Option PublishStage) :
    CallId → Bus × List Event → Prop where
  | ended {call : PublishCall} {error : BusError} (member : call ∈ bus.calls)
      (reason : bus.closed = true ∧ error = .closed ∨
        bus.closed = false ∧ call.cancelled = true ∧ error = .cancelled) :
      Resumed bus putOff call.id (bus.withdraw call, [.returned call.id (.error error)])
  | entering {admitted : Admitted} (member : ⟨admitted, .admission, false, false⟩ ∈ bus.calls)
      (going : bus.closed = false) :
      Resumed bus putOff admitted.call ((bus.removeCall admitted.call).enter admitted putOff)
  | permitted {admitted : Admitted} {admission : Semaphore}
      (member : ⟨admitted, .admission, true, false⟩ ∈ bus.calls) (going : bus.closed = false)
      (collected : bus.admission.collect? admitted.call = some admission) :
      Resumed bus putOff admitted.call
        (({ bus with admission }.removeCall admitted.call).proceed admitted putOff)
  | handing {admitted : Admitted} (member : ⟨admitted, .handOff, false, false⟩ ∈ bus.calls)
      (going : bus.closed = false) :
      Resumed bus putOff admitted.call ((bus.removeCall admitted.call).handOff admitted)
  | placed {admitted : Admitted} {slots : Semaphore}
      (member : ⟨admitted, .handOff, true, false⟩ ∈ bus.calls) (going : bus.closed = false)
      (collected : bus.slots.collect? admitted.call = some slots) :
      Resumed bus putOff admitted.call
        (({ bus with slots }.removeCall admitted.call).enqueue admitted)

theorem resume_resumed {id : CallId} {putOff : Option PublishStage} {result : Bus × List Event}
    (resumed : bus.resume id putOff = some result) : Resumed bus putOff id result := by
  simp only [resume, Option.bind_eq_bind, Option.bind_eq_some_iff] at resumed
  rcases resumed with ⟨⟨admitted, stage, inRow, cancelled⟩, found, resumed⟩
  rcases call?_some found with ⟨member, rfl⟩
  split at resumed
  next closed =>
    cases resumed
    exact .ended member (.inl ⟨closed, rfl⟩)
  next going =>
    rw [Bool.not_eq_true] at going
    split at resumed
    next given =>
      cases resumed
      exact .ended member (.inr ⟨going, given, rfl⟩)
    next waiting =>
      obtain rfl : cancelled = false := by simpa using waiting
      cases stage with
      | admission =>
          cases inRow with
          | false =>
              cases resumed
              exact .entering member going
          | true =>
              simp only [Option.bind_eq_some_iff] at resumed
              rcases resumed with ⟨admission, collected, resumed⟩
              cases resumed
              exact .permitted member going collected
      | handOff =>
          cases inRow with
          | false =>
              cases resumed
              exact .handing member going
          | true =>
              simp only [Option.bind_eq_some_iff] at resumed
              rcases resumed with ⟨slots, collected, resumed⟩
              cases resumed
              exact .placed member going collected

/-! ## Workers -/

theorem worker?_some {key : String} {worker : Worker} (found : bus.worker? key = some worker) :
    worker ∈ bus.workers ∧ worker.key = key :=
  ⟨List.mem_of_find?_eq_some found, by simpa using List.find?_some found⟩

theorem worker?_none {key : String} (absent : bus.worker? key = none) :
    key ∉ bus.workers.map Worker.key := by
  simpa [worker?] using absent

theorem worker?_of_mem {worker : Worker} (nodup : (bus.workers.map Worker.key).Nodup)
    (member : worker ∈ bus.workers) :
    bus.worker? worker.key = some worker := by
  cases found : bus.worker? worker.key with
  | none => exact absurd (List.mem_map_of_mem member) (worker?_none found)
  | some other =>
      rcases worker?_some found with ⟨present, same⟩
      rw [List.inj_on_of_nodup_map nodup present member same]

@[simp] theorem setWorker_keys (worker : Worker) :
    (bus.setWorker worker).workers.map Worker.key = bus.workers.map Worker.key := by
  simp only [setWorker, List.map_map]
  apply List.map_congr_left
  intro other _
  simp only [Function.comp_apply]
  split
  next same => exact same.symm
  next => rfl

theorem perm_setWorker {key : String} {old new : Worker}
    (nodup : (bus.workers.map Worker.key).Nodup) (found : bus.worker? key = some old)
    (same : new.key = key) :
    bus.workers.Perm (old :: bus.workers.filter fun other => other.key ≠ key) ∧
      (bus.setWorker new).workers.Perm
        (new :: bus.workers.filter fun other => other.key ≠ key) := by
  rcases worker?_some found with ⟨member, rfl⟩
  exact ⟨perm_cons_filter_ne nodup member, perm_map_replace nodup member same⟩

theorem worker?_setWorker {key : String} {old : Worker} (found : bus.worker? key = some old)
    (new : Worker) (same : new.key = key) (other : String) :
    (bus.setWorker new).worker? other = if other = key then some new else bus.worker? other := by
  have keys : ((fun worker : Worker => decide (worker.key = other)) ∘
      fun worker => if worker.key = new.key then new else worker) =
        fun worker => decide (worker.key = other) := by
    funext worker
    simp only [Function.comp_apply]
    split
    next equal => rw [equal]
    next => rfl
  simp only [worker?, setWorker, List.find?_map, keys]
  split
  next equal =>
    subst other
    rw [← worker?, found, Option.map_some, if_pos ((worker?_some found).2.trans same.symm)]
  next apart =>
    cases present : bus.worker? other with
    | none => rw [← worker?, present, Option.map_none]
    | some worker =>
        rw [← worker?, present, Option.map_some, if_neg]
        rw [(worker?_some present).2, same]
        exact apart

theorem worker?_append {next : Bus} (worker : Worker) (absent : bus.worker? worker.key = none)
    (grown : next.workers = bus.workers ++ [worker]) (key : String) :
    next.worker? key = if key = worker.key then some worker else bus.worker? key := by
  rw [worker?, grown, List.find?_append, ← worker?]
  split
  next equal =>
    subst key
    simp [absent]
  next apart => simp [Ne.symm apart]

theorem worker?_filter_ne {next : Bus} (gone : String)
    (left : next.workers = bus.workers.filter fun other => other.key ≠ gone) (key : String) :
    next.worker? key = if key = gone then none else bus.worker? key := by
  rw [worker?, left, List.find?_filter]
  split
  next same =>
    apply List.find?_eq_none.mpr
    intro worker _
    simp [same]
  next apart =>
    rw [worker?]
    congr 1
    funext worker
    by_cases same : worker.key = key
    · simp [same, apart]
    · simp [same]

/-! ## Steps beside the messages -/

/-- A step that is about the handlers, the error stream or the owner's handle. -/
inductive Aside (bus : Bus) : Bus × List Event → Prop where
  | intro {handlers : List (Topic × HandlerId)} {closed : Bool} {errors : ErrorStream}
      {handle : Handle} {events : List Event} (grown : bus.handlers <+: handlers)
      (kept : bus.closed = true → closed = true) (silent : ∀ event ∈ events, event.ofStream)
      (fixed : bus.closed = true → handlers = bus.handlers) :
      Aside bus ({ bus with handlers, closed, errors, handle }, events)

theorem whileHeld_some {result : Option (Bus × List Event)} {next : Bus × List Event}
    (taken : bus.whileHeld result = some next) : bus.handle = .held ∧ result = some next := by
  simp only [whileHeld] at taken
  split at taken
  next held => exact ⟨held, taken⟩
  next => cases taken

theorem Aside.refl : Aside bus bus.quietly :=
  .intro List.prefix_rfl id (by simp) fun _ => rfl

theorem subscribe_aside {topic : String} {handler : HandlerId} {next : Bus}
    (subscribed : bus.subscribe topic handler = .ok next) : Aside bus next.quietly := by
  simp only [subscribe] at subscribed
  split at subscribed
  next => cases subscribed
  next =>
    split at subscribed
    next => cases subscribed
    next going =>
      split at subscribed
      next => cases subscribed
      next =>
        cases subscribed
        exact .intro (List.prefix_append _ _) id (by simp) fun closed => absurd closed going

theorem takeErrors_aside {next : Bus} (taken : bus.takeErrors = some next) :
    Aside bus next.quietly := by
  simp only [takeErrors] at taken
  split at taken <;> cases taken
  exact .intro List.prefix_rfl id (by simp) fun _ => rfl

theorem receive_aside {result : Bus × List Event} (received : bus.receive = some result) :
    Aside bus result := by
  simp only [receive] at received
  repeat' split at received
  all_goals cases received
  exact .intro List.prefix_rfl id (by simp [Event.ofStream]) fun _ => rfl

theorem dropErrors_aside {result : Bus × List Event} (dropped : bus.dropErrors = some result) :
    Aside bus result := by
  simp only [dropErrors] at dropped
  split at dropped <;> cases dropped
  exact .intro List.prefix_rfl id (by simp [Event.ofStream]) fun _ => rfl

theorem letGo_aside : Aside bus bus.letGo.quietly := by
  simp only [letGo]
  split
  next => exact .intro List.prefix_rfl id (by simp) fun _ => rfl
  next => exact .refl

theorem drop_aside {result : Bus × List Event} (dropped : bus.drop = some result) :
    Aside bus result := by
  simp only [drop] at dropped
  repeat' split at dropped
  all_goals cases dropped
  all_goals exact .intro List.prefix_rfl (fun _ => rfl) (by simp [Event.ofStream]) fun _ => rfl

/-! ## Close calls -/

/-- The ways in which a close call goes on when it has its turn: it returns after the wait for the
dispatcher, it begins to wait, or there is nothing that it could wait for. -/
inductive Turn (bus : Bus) : CallId → Bus × List Event → Prop where
  | returned {call : CloseCall} {rest : List CloseCall} (first : bus.closing = call :: rest)
      (waiting : call.waiting = true) (finished : bus.dispatcher = .finished) :
      Turn bus call.id ({ bus with closing := rest }, [.closeReturned call.id])
  | waits {call : CloseCall} {rest : List CloseCall} (first : bus.closing = call :: rest)
      (fresh : call.waiting = false) (joinable : bus.joinable = true)
      (going : bus.dispatcher ≠ .finished) :
      Turn bus call.id
        ({ bus with closed := true, joinable := false, closing := ⟨call.id, true⟩ :: rest }, [])
  | passes {call : CloseCall} {rest : List CloseCall} (first : bus.closing = call :: rest)
      (fresh : call.waiting = false)
      (nothing : bus.dispatcher ≠ .finished → bus.joinable = false) :
      Turn bus call.id
        ({ bus with closed := true, joinable := false, closing := rest }, [.closeReturned call.id])

/-- Puts a close call that begins into the row. -/
def joinRow (bus : Bus) : Bus :=
  { bus with nextCall := bus.nextCall + 1, closing := bus.closing ++ [⟨bus.nextCall, false⟩] }

/-- The steps that are about close calls. -/
inductive Closing (bus : Bus) : Bus × List Event → Prop where
  | joined : Closing bus (bus.joinRow, [])
  | began {id : CallId} {result : Bus × List Event} (turn : Turn bus.joinRow id result) :
      Closing bus result
  | resumed {id : CallId} {result : Bus × List Event} (turn : Turn bus id result) :
      Closing bus result
  | abandoned (id : CallId) :
      Closing bus (bus.abandonClose id, (bus.closeCalls id).map .closeAbandoned)

/-- What a step that is about close calls leaves alone. -/
inductive Closes (bus : Bus) : Bus × List Event → Prop where
  | intro {nextCall : CallId} {closed : Bool} {closing : List CloseCall} {joinable : Bool}
      {events : List Event} (later : bus.nextCall ≤ nextCall)
      (kept : bus.closed = true → closed = true)
      (silent : ∀ event ∈ events, event.ofClosing) :
      Closes bus ({ bus with nextCall, closed, closing, joinable }, events)

theorem resumeClose_turn {id : CallId} {result : Bus × List Event}
    (resumed : bus.resumeClose id = some result) : Turn bus id result := by
  simp only [resumeClose] at resumed
  split at resumed
  next => cases resumed
  next head rest first =>
    split at resumed
    next => cases resumed
    next same =>
      obtain rfl : head.id = id := by simpa using same
      split at resumed
      next waiting =>
        split at resumed
        next finished =>
          cases resumed
          exact .returned first waiting finished
        next => cases resumed
      next fresh =>
        have fresh : head.waiting = false := by simpa using fresh
        split at resumed
        next going =>
          cases resumed
          exact .waits first fresh going.1 going.2
        next nothing =>
          cases resumed
          exact .passes first fresh fun going => by simpa [going] using nothing

theorem close_closing (bus : Bus) : Closing bus bus.close := by
  simp only [close]
  cases resumed : resumeClose { bus with
      nextCall := bus.nextCall + 1, closing := bus.closing ++ [⟨bus.nextCall, false⟩] }
      bus.nextCall with
  | none => exact .joined
  | some result => exact .began (resumeClose_turn resumed)

theorem Turn.closes {id : CallId} {result : Bus × List Event} (turn : Turn bus id result) :
    Closes bus result := by
  cases turn with
  | returned => exact .intro (Nat.le_refl _) (fun closed => closed) (by simp [Event.ofClosing])
  | waits | passes => exact .intro (Nat.le_refl _) (fun _ => rfl) (by simp [Event.ofClosing])

theorem Closing.closes {result : Bus × List Event} (moved : Closing bus result) :
    Closes bus result := by
  cases moved with
  | joined => exact .intro (Nat.le_succ _) id (by simp)
  | began turn =>
      cases turn.closes with
      | intro later kept silent => exact .intro (Nat.le_of_succ_le later) kept silent
  | resumed turn => exact turn.closes
  | abandoned id =>
      exact .intro (Nat.le_refl _) (fun closed => closed) (by simp [Event.ofClosing])

/-! ## Reporting -/

/-- A report counts a failure and touches nothing else but the error stream. -/
theorem report_eq (bus : Bus) (report : DeliveryError) : ∃ droppedErrors errors fate,
    bus.report report =
      ({ bus with
          counters := { bus.counters with failed := bus.counters.failed + 1, droppedErrors }
          errors },
        [.reported report fate]) := by
  simp only [Bus.report]
  split
  next => exact ⟨_, _, _, rfl⟩
  next =>
    split
    next => exact ⟨_, _, _, rfl⟩
    next => exact ⟨_, _, _, rfl⟩

/-- The end of the handling of a message gives its permit back and counts the message once. -/
theorem conclude_eq (bus : Bus) (admitted : Admitted) (failure : Option String)
    (now : Instant) :
    ∃ delivered failed droppedErrors errors reports,
      bus.conclude admitted failure now =
        ({ bus with
            admission := bus.admission.release
            counters := { bus.counters with delivered, failed, droppedErrors }
            errors },
          reports) ∧
      delivered + failed = bus.counters.delivered + bus.counters.failed + 1 ∧
      ∀ event ∈ reports, ∃ report fate, event = .reported report fate := by
  cases failure with
  | none =>
      exact ⟨bus.counters.delivered + 1, bus.counters.failed, _, _, _, rfl, by omega, by simp⟩
  | some error =>
      obtain ⟨droppedErrors, errors, fate, reported⟩ :=
        report_eq bus.releasePermit ⟨admitted.message, error, .handler, now⟩
      refine ⟨_, _, _, _, _, reported, ?_, by simp⟩
      simp only [releasePermit]
      omega

end Bus

end ConversationBus
