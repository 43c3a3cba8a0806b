import ConversationBus.Proofs.Bus.Stream
import ConversationBus.Proofs.Bus.Work

/-!
# A shutdown comes to its end

Once a bus is closed, what it does by itself leads to its end. Something can be done as long as the
dispatcher has not finished, and whatever is done leaves less to do: for each publish call to be
refused, for each message to be handled, for each worker and for the dispatcher to stop, and for
each close call to return. Callers need not do anything for it, but the handlers have to return.
-/

namespace ConversationBus

/-- What a close call has still to do: to have its turn, and to wait for the dispatcher. -/
def CloseCall.rank (call : CloseCall) : Nat :=
  if call.waiting then 1 else 2

namespace Bus

/-- Whether a bus takes a step by itself: a call that waits goes on, the dispatcher or a worker does
something, or a handler returns. To begin a call or to give one up is the business of callers. -/
def Step.own : Step → Bool
  | .resume .. | .resumeClose .. | .route .. | .begin .. | .finish .. | .drain | .retire ..
  | .halt => true
  | _ => false

/-- The steps that a bus takes by itself. The return of a handler may also break its worker off. -/
inductive Internal (bus : Bus) : Bus × List Event → Prop where
  | own {step : Step} {result : Bus × List Event} (own : step.own = true)
      (taken : bus.step? step = some result) : Internal bus result
  | brokenOff {key : String} {result : Bus × List Event}
      (broken : bus.breakOff key = some result) : Internal bus result

/-- The sequences of so many such steps, with their traces. -/
inductive Internally : Bus → Nat → List Event → Bus → Prop where
  | refl (bus : Bus) : Internally bus 0 [] bus
  | tail {bus mid : Bus} {count : Nat} {trace : List Event} {result : Bus × List Event}
      (steps : Internally bus count trace mid) (taken : Internal mid result) :
      Internally bus (count + 1) (trace ++ result.2) result.1

/-- What a bus has still to do until its end. -/
def remaining (bus : Bus) : Nat :=
  bus.work + bus.calls.length + (bus.closing.map CloseCall.rank).sum

variable {config : BusConfig} {bus mid next : Bus} {result : Bus × List Event} {count : Nat}
  {trace : List Event}

theorem Internally.append {more : Nat} {later : List Event}
    (first : Internally bus count trace mid) (rest : Internally mid more later next) :
    Internally bus (count + more) (trace ++ later) next := by
  induction rest with
  | refl => simpa using first
  | tail _ taken ih =>
      rw [← List.append_assoc]
      exact ih.tail taken

theorem internally_of_steps {steps : List Step} (own : ∀ step ∈ steps, step.own = true)
    (taken : bus.steps? steps = some (next, trace)) :
    Internally bus steps.length trace next := by
  induction steps generalizing bus trace with
  | nil =>
      cases taken
      exact .refl _
  | cons step later ih =>
      simp only [steps?, Option.bind_eq_bind, Option.bind_eq_some_iff] at taken
      rcases taken with ⟨⟨mid, events⟩, first, ⟨_, trace⟩, rest, equal⟩
      cases equal
      rw [List.forall_mem_cons] at own
      have begun : Internally bus 1 events mid := (Internally.refl bus).tail (.own own.1 first)
      rw [List.length_cons, Nat.add_comm]
      exact begun.append (ih own.2 rest)

/-! ## Every step leaves less to do -/

/-- What a step of its own does to a bus that is closed. A call is not forgotten: it waits on or
returns. -/
structure Nearer (bus : Bus) (result : Bus × List Event) : Prop where
  closed : result.1.closed = true
  less : result.1.remaining < bus.remaining
  refused : ∀ call ∈ bus.calls,
    call ∈ result.1.calls ∨ .returned call.id (.error .closed) ∈ result.2
  released : ∀ call ∈ bus.closing,
    call.id ∈ result.1.closing.map CloseCall.id ∨ .closeReturned call.id ∈ result.2

theorem Toil.nearer (toil : Toil bus result.1) (closed : bus.closed = true) :
    Nearer bus result where
  closed := toil.closed.trans closed
  less := by
    have less := toil.less
    simp only [remaining, toil.calls, toil.closing]
    omega
  refused := by
    intro call member
    rw [toil.calls]
    exact .inl member
  released := by
    intro call member
    rw [toil.closing]
    exact .inl (List.mem_map_of_mem member)

/-- A publish call that is refused leaves only the list of calls shorter. -/
theorem withdraw_calls (bus : Bus) (call : PublishCall) :
    (bus.withdraw call).calls = (bus.removeCall call.id).calls ∧
      (bus.withdraw call).closing = bus.closing ∧ (bus.withdraw call).closed = bus.closed ∧
      (bus.withdraw call).work = bus.work := by
  simp only [withdraw]
  split
  next => exact ⟨rfl, rfl, rfl, rfl⟩
  next => exact ⟨rfl, rfl, rfl, rfl⟩

/-- The closing of a bus comes before anything else that a publish call waits for. -/
theorem resume_nearer (books : Books config bus 0 0) (closed : bus.closed = true) {id : CallId}
    {putOff : Option PublishStage} (resumed : bus.resume id putOff = some result) :
    Nearer bus result := by
  cases resume_resumed resumed with
  | @ended call error member reason =>
      obtain rfl : error = .closed := by simpa [closed] using reason
      rcases withdraw_calls bus call with ⟨calls, closing, same, work⟩
      have split := perm_removeCall books.ids member
      exact {
        closed := same.trans closed
        less := by
          have length := split.length_eq
          rw [List.length_cons] at length
          simp only [remaining, calls, closing, work]
          omega
        refused := by
          intro other present
          rw [calls]
          rcases List.mem_cons.mp (split.mem_iff.mp present) with rfl | left
          · exact .inr List.mem_cons_self
          · exact .inl left
        released := by
          intro other present
          rw [closing]
          exact .inl (List.mem_map_of_mem present) }
  | entering _ going | permitted _ going | handing _ going | placed _ going =>
      simp [closed] at going

/-- A close call waits for the dispatcher once at most, and returns after that. -/
theorem Turn.nearer {id : CallId} (turn : Turn bus id result) (closed : bus.closed = true) :
    Nearer bus result := by
  cases turn with
  | returned first waiting =>
      exact {
        closed
        less := by simp [remaining, work, first, CloseCall.rank, waiting]
        refused := fun call member => .inl member
        released := by
          rw [first, List.forall_mem_cons]
          exact ⟨.inr List.mem_cons_self, fun call member => .inl (List.mem_map_of_mem member)⟩ }
  | waits first fresh =>
      exact {
        closed := rfl
        less := by simp [remaining, work, first, CloseCall.rank, fresh]
        refused := fun call member => .inl member
        released := by
          rw [first, List.forall_mem_cons]
          exact ⟨.inl List.mem_cons_self,
            fun call member => .inl (List.mem_cons_of_mem _ (List.mem_map_of_mem member))⟩ }
  | passes first fresh =>
      exact {
        closed := rfl
        less := by simp [remaining, work, first, CloseCall.rank, fresh]
        refused := fun call member => .inl member
        released := by
          rw [first, List.forall_mem_cons]
          exact ⟨.inr List.mem_cons_self, fun call member => .inl (List.mem_map_of_mem member)⟩ }

theorem Internal.nearer (internal : Internal bus result) (books : Books config bus 0 0)
    (closed : bus.closed = true) : Nearer bus result := by
  cases internal with
  | brokenOff broken => exact ((breakOff_broken broken).toil books).nearer closed
  | @own step _ own taken =>
      cases step with
      | resume call putOff => exact resume_nearer books closed taken
      | resumeClose call => exact (resumeClose_turn taken).nearer closed
      | route now => exact ((route_routed taken).toil books).nearer closed
      | begin key now => exact (begin_toil books taken).nearer closed
      | finish key outcome now => exact (finish_toil books taken).nearer closed
      | drain =>
          rcases Option.map_eq_some_iff.mp taken with ⟨next, drained, rfl⟩
          exact (drain_toil drained).nearer closed
      | retire key =>
          rcases Option.map_eq_some_iff.mp taken with ⟨next, retired, rfl⟩
          exact (retire_toil books retired).nearer closed
      | halt =>
          rcases Option.map_eq_some_iff.mp taken with ⟨next, halted, rfl⟩
          exact (halt_toil halted).nearer closed
      | _ => cases own

theorem Internal.sound (internal : Internal bus result) (sound : Sound config bus) :
    Sound config result.1 := by
  cases internal with
  | own _ taken => exact sound.step taken
  | brokenOff broken => exact sound.breakOff broken

/-! ## Some step is possible -/

/-- A closed bus that cannot do anything by itself has come to its end. -/
theorem Sound.at_end (sound : Sound config bus) (closed : bus.closed = true)
    (stuck : ∀ result, ¬ Internal bus result) :
    bus.dispatcher = .finished ∧ bus.closing = [] := by
  have impossible (step : Step) (own : step.own = true) : bus.step? step = none := by
    cases taken : bus.step? step with
    | none => rfl
    | some result => exact absurd (.own own taken) (stuck result)
  have idle : Idle bus .epoch := {
    route := impossible (.route .epoch) rfl
    begin := fun worker _ _ => impossible (.begin worker.key .epoch) rfl
    finish := fun worker _ _ _ =>
      ⟨.succeeded, impossible (.finish worker.key .succeeded .epoch) rfl⟩
    retire := fun worker _ _ => by
      simpa [step?] using impossible (.retire worker.key) rfl
    drain := by simpa [step?] using impossible .drain rfl
    halt := by simpa [step?] using impossible .halt rfl }
  have returned : bus.calls = [] := by
    cases calls : bus.calls with
    | nil => rfl
    | cons call rest =>
        have refused := impossible (.resume call.id none) rfl
        simp [step?, resume, call?, calls, closed] at refused
  have finished := idle.finished sound.toBooks closed returned
  refine ⟨finished, ?_⟩
  cases first : bus.closing with
  | nil => rfl
  | cons call rest =>
      have waits := impossible (.resumeClose call.id) rfl
      cases waiting : call.waiting with
      | true => simp [step?, resumeClose, first, finished, waiting] at waits
      | false => simp [step?, resumeClose, first, finished, waiting] at waits

/-! ## After the end -/

theorem reportsEnded_iff : bus.reportsEnded = true ↔
    bus.closed = true ∧ bus.dispatcher = .finished ∧
      ∀ call ∈ bus.closing, call.waiting = false := by
  simp [reportsEnded, and_assoc]

/-- A close call that has its turn after the end does not wait. -/
theorem Turn.reportsEnded {id : CallId} (turn : Turn bus id result)
    (ended : bus.reportsEnded = true) : result.1.reportsEnded = true := by
  rw [reportsEnded_iff] at ended ⊢
  rcases ended with ⟨closed, finished, nobody⟩
  cases turn with
  | returned first | passes first =>
      rw [first, List.forall_mem_cons] at nobody
      exact ⟨by simp [closed], finished, nobody.2⟩
  | waits _ _ _ going => exact absurd finished going

theorem Closing.reportsEnded (moved : Closing bus result) (ended : bus.reportsEnded = true) :
    result.1.reportsEnded = true := by
  have joined : bus.joinRow.reportsEnded = true := by
    rw [reportsEnded_iff] at ended ⊢
    exact ⟨ended.1, ended.2.1, List.forall_mem_append.mpr
      ⟨ended.2.2, List.forall_mem_singleton.mpr rfl⟩⟩
  cases moved with
  | joined => exact joined
  | began turn => exact turn.reportsEnded joined
  | resumed turn => exact turn.reportsEnded ended
  | abandoned id =>
      rw [reportsEnded_iff] at ended ⊢
      exact ⟨ended.1, ended.2.1, fun call member =>
        ended.2.2 call (List.mem_of_mem_filter member)⟩

theorem Change.reportsEnded (change : Change bus result) (rest : AtRest bus)
    (ended : bus.reportsEnded = true) :
    result.1.reportsEnded = true ∧ arrivedIn result.2 = [] := by
  have nobody := (reportsEnded_iff.mp ended).2.2
  cases change.idling rest with
  | aside moved =>
      cases moved with
      | intro _ kept silent =>
          constructor
          · exact reportsEnded_iff.mpr ⟨kept rest.closed, rest.finished, nobody⟩
          · apply List.filterMap_eq_nil_iff.mpr
            intro event member
            have stream := silent event member
            cases event with
            | received | discarded => rfl
            | _ => cases stream
  | closing moved =>
      have still := moved.reportsEnded ended
      cases moved.closes with
      | intro _ _ silent =>
          exact ⟨still, arrivedIn_of_others fun event member =>
            Event.ofReport_of_closing (silent event member)⟩
  | cancelled | refused => exact ⟨ended, rfl⟩

/-- After the end no worker breaks off, and the consumer of the error stream gets what is on it, and
nothing else. -/
theorem Course.after_end (course : Course bus trace next) (sound : Sound config bus)
    (ended : bus.reportsEnded = true) :
    next.reportsEnded = true ∧ leftIn trace ++ next.errors.queued = bus.errors.queued := by
  have quiet : Sound config next ∧ next.reportsEnded = true ∧ arrivedIn trace = [] := by
    induction course with
    | refl => exact ⟨sound, ended, rfl⟩
    | tail _ advance ih =>
        rcases ih with ⟨sound, ended, quiet⟩
        have finished := (reportsEnded_iff.mp ended).2.1
        rcases sound.cases advance with change | rejected | broken
        · rcases change.reportsEnded (sound.at_rest finished) ended with ⟨ended, still⟩
          refine ⟨sound.advance advance, ended, ?_⟩
          rw [arrivedIn_append, quiet, still, List.append_nil]
        · cases rejected with
          | intro _ routing => simp [finished] at routing
        · cases broken with
          | intro _ found busy =>
              have idle := ((sound.at_rest finished).idle _ (worker?_some found).1).2.2
              cases idle.symm.trans busy
  rcases quiet with ⟨_, ended, quiet⟩
  refine ⟨ended, ?_⟩
  rw [course.streams, quiet, List.append_nil]

/-! ## The end -/

structure ShutDown (bus : Bus) : Prop extends AtRest bus where
  free : bus.admission.free = bus.maxInFlight
  closing : bus.closing = []
  /-- The error stream has ended: whatever happens from now on, its consumer gets the reports that
  are on it, in their order, and no others. -/
  ended : bus.reportsEnded = true ∧ ∀ trace next, Course bus trace next →
    next.reportsEnded = true ∧ leftIn trace ++ next.errors.queued = bus.errors.queued

theorem Sound.shutDown (sound : Sound config bus) (closed : bus.closed = true)
    (stuck : ∀ result, ¬ Internal bus result) : ShutDown bus := by
  rcases sound.at_end closed stuck with ⟨finished, nobody⟩
  have rest := sound.at_rest finished
  have ended : bus.reportsEnded = true := by simp [reportsEnded_iff, closed, finished, nobody]
  exact { rest with
    free := sound.all_free rest.returned rest.empty fun worker member => (rest.idle worker member).2
    closing := nobody
    ended := ⟨ended, fun _ _ course => course.after_end sound ended⟩ }

/-- What a sequence of own steps does to a closed bus: each step has its part in what remained, and
each call that waited at the beginning waits still or has returned. -/
structure Descent (bus : Bus) (count : Nat) (trace : List Event) (next : Bus) : Prop where
  closed : next.closed = true
  less : next.remaining + count ≤ bus.remaining
  refused : ∀ call ∈ bus.calls,
    call ∈ next.calls ∨ .returned call.id (.error .closed) ∈ trace
  released : ∀ call ∈ bus.closing,
    call.id ∈ next.closing.map CloseCall.id ∨ .closeReturned call.id ∈ trace

theorem Internally.descent (steps : Internally bus count trace next) (sound : Sound config bus)
    (closed : bus.closed = true) : Sound config next ∧ Descent bus count trace next := by
  induction steps with
  | refl =>
      exact ⟨sound, closed, Nat.le_refl _, fun call member => .inl member,
        fun call member => .inl (List.mem_map_of_mem member)⟩
  | tail _ taken ih =>
      rcases ih with ⟨sound, descent⟩
      have nearer := taken.nearer sound.toBooks descent.closed
      refine ⟨taken.sound sound, nearer.closed, ?_, ?_, ?_⟩
      · have all := descent.less
        have last := nearer.less
        omega
      · intro call member
        rcases descent.refused call member with waits | returned
        · exact (nearer.refused call waits).imp_right (List.mem_append_right _)
        · exact .inr (List.mem_append_left _ returned)
      · intro call member
        rcases descent.released call member with waits | returned
        · rcases List.mem_map.mp waits with ⟨other, present, same⟩
          rw [← same]
          exact (nearer.released other present).imp_right (List.mem_append_right _)
        · exact .inr (List.mem_append_left _ returned)

/-- What a closed bus does by itself comes to an end, and the end is a complete one. -/
structure Terminating (bus : Bus) : Prop where
  /-- The bus can do something by itself until the dispatcher has finished. -/
  possible : bus.dispatcher ≠ .finished → ∃ result, Internal bus result
  /-- Whatever it does, less remains. -/
  less : ∀ result, Internal bus result → result.1.remaining < bus.remaining
  /-- It takes no more steps than remain. -/
  bounded : ∀ count trace next, Internally bus count trace next → count ≤ bus.remaining
  /-- When no step is possible any more, the bus has shut down, each publish call that waited was
  refused, and each close call has returned. -/
  ends : ∀ count trace next, Internally bus count trace next → (∀ result, ¬ Internal next result) →
    ShutDown next ∧ (∀ call ∈ bus.calls, .returned call.id (.error .closed) ∈ trace) ∧
      ∀ call ∈ bus.closing, .closeReturned call.id ∈ trace

/-- The shutdown of a bus cannot get stuck, wherever on a course it is closed. -/
theorem shutdown_terminates (started : Bus.start config = .ok bus)
    (course : Course bus trace mid) (closed : mid.closed = true) : Terminating mid where
  possible := by
    intro going
    by_contra stuck
    exact going ((course.sound started).at_end closed (not_exists.mp stuck)).1
  less := fun result internal => (internal.nearer (course.sound started).toBooks closed).less
  bounded := by
    intro count trace next steps
    have less := (steps.descent (course.sound started) closed).2.less
    omega
  ends := by
    intro count trace next steps stuck
    rcases steps.descent (course.sound started) closed with ⟨sound, descent⟩
    have down := sound.shutDown descent.closed stuck
    refine ⟨down, ?_, ?_⟩
    · intro call member
      simpa [down.returned] using descent.refused call member
    · intro call member
      simpa [down.closing] using descent.released call member

/-- Two publish calls were accepted and a third waits for a permit when the bus is closed. Nine
steps lead to the end: the third call is refused, the handler fails once, and its report stays on
the error stream. -/
theorem shutdown_terminates_in_nine :
    ∃ config bus prior mid trace next, Bus.start config = .ok bus ∧ Course bus prior mid ∧
      mid.closed = true ∧ mid.calls.map PublishCall.id = [2] ∧ (∃ result, Internal mid result) ∧
      Internally mid 9 trace next ∧ .returned 2 (.error .closed) ∈ trace ∧ ShutDown next ∧
      next.errors.queued.length = 1 := by
  let config : BusConfig := { BusConfig.standard with maxInFlight := 2, ingressBuffer := 1 }
  let later : List Step := [.resume 2 none, .route .epoch,
    .finish "slack:dm:7" (.failed ["offline"]) .epoch, .begin "slack:dm:7" .epoch,
    .finish "slack:dm:7" .succeeded .epoch, .drain, .retire "slack:dm:7", .halt, .resumeClose 3]
  have possible : ((ofConfig config).steps? [.subscribe "dm-checkin" 0,
      .publish (emptyNudge "slack:dm:7" "first") false none, .route .epoch,
      .begin "slack:dm:7" .epoch, .publish (emptyNudge "slack:dm:7" "second") false none,
      .publish (emptyNudge "slack:dm:8" "third") false none, .close]).bind (fun prior =>
        (prior.1.steps? later).map fun result =>
          (prior.1.closed, prior.1.dispatcher, prior.1.calls.map PublishCall.id, result.1.closed,
            result.1.remaining, result.1.errors.queued.length)) =
      some (true, .routing, [2], true, 0, 1) := by
    decide +kernel
  rcases Option.bind_eq_some_iff.mp possible with ⟨⟨mid, prior⟩, before, rest⟩
  rcases Option.map_eq_some_iff.mp rest with ⟨⟨next, trace⟩, after, seen⟩
  simp only [Prod.mk.injEq] at seen
  rcases seen with ⟨closed, routing, waits, stillClosed, nothing, one⟩
  have started : Bus.start config = .ok (ofConfig config) := rfl
  have course := (run_of_steps before).course
  have steps : Internally mid 9 trace next := internally_of_steps (by decide) after
  have terminating := shutdown_terminates started course closed
  have stuck : ∀ result, ¬ Internal next result := by
    intro result internal
    have reached := ((run_of_steps before).append (run_of_steps after)).course
    have less := (shutdown_terminates started reached stillClosed).less result internal
    omega
  rcases terminating.ends 9 trace next steps stuck with ⟨down, refused, _⟩
  have pending : 2 ∈ mid.calls.map PublishCall.id := by simp [waits]
  rcases List.mem_map.mp pending with ⟨call, member, same⟩
  exact ⟨config, _, prior, mid, trace, next, started, course, closed, waits,
    terminating.possible (by simp [routing]), steps, same ▸ refused call member, down, one⟩

end Bus

end ConversationBus
