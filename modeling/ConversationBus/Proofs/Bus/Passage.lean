import ConversationBus.Proofs.Bus.Way

/-!
# Publish calls get through

A publish call needs a permit and a place in the ingress queue. While a permit is free, it gets both
without any handler having to return: the dispatcher empties the ingress queue whatever the workers
do, and the calls before it in the row go on or give up.
-/

namespace ConversationBus.Bus

variable {config : BusConfig} {bus next : Bus} {result : Bus × List Event} {admitted : Admitted}
  {free : Nat}

/-- From a state that was just reached, with what was seen of the last step, the publish call of a
message can return without an error by steps of the dispatcher and of calls that wait. The message
is in the ingress queue then, and at least so many permits are free. -/
def Completes (result : Bus × List Event) (admitted : Admitted) (free : Nat) : Prop :=
  ∃ later next, Way Step.brings result.1 later next ∧
    .returned admitted.call (.ok ()) ∈ result.2 ++ later ∧ admitted ∈ next.ingress ∧
    free ≤ next.admission.free

namespace Completes

theorem mono {fewer : Nat} (completes : Completes result admitted free) (less : fewer ≤ free) :
    Completes result admitted fewer := by
  rcases completes with ⟨later, next, way, returned, queued, enough⟩
  exact ⟨later, next, way, returned, queued, Nat.le_trans less enough⟩

/-- More may have been seen of the last step. -/
theorem seen {events more : List Event} (completes : Completes (next, events) admitted free)
    (known : events ⊆ more) : Completes (next, more) admitted free := by
  rcases completes with ⟨later, last, way, returned, queued, enough⟩
  refine ⟨later, last, way, ?_, queued, enough⟩
  rcases List.mem_append.mp returned with old | new
  · exact List.mem_append_left _ (known old)
  · exact List.mem_append_right _ new

theorem before {step : Step} (brings : step.brings = true) (taken : bus.step? step = some result)
    (completes : Completes result admitted free) : Completes (bus, []) admitted free := by
  rcases completes with ⟨later, next, way, returned, queued, enough⟩
  exact ⟨_, next, .head brings taken way, returned, queued, enough⟩

end Completes

/-! ## A place in the ingress queue -/

theorem enqueue_completes (bus : Bus) (admitted : Admitted) :
    Completes (bus.enqueue admitted) admitted bus.admission.free := by
  refine ⟨[], _, .refl _, ?_, ?_, Nat.le_refl _⟩
  · simp [enqueue]
  · simp [enqueue]

theorem resume_placed (books : Books config bus 0 0) (going : bus.closed = false)
    (member : ⟨admitted, .handOff, true, false⟩ ∈ bus.calls)
    (granted : admitted.call ∈ bus.slots.granted) :
    bus.step? (.resume admitted.call none) =
      some (({ bus with
        slots := { bus.slots with granted := bus.slots.granted.erase admitted.call } }.removeCall
          admitted.call).enqueue admitted) := by
  have found := call?_of_mem books.ids member
  simp only [PublishCall.id] at found
  simp [step?, resume, found, going, Semaphore.collect?_granted granted]

theorem resume_cancelled (books : Books config bus 0 0) (going : bus.closed = false)
    {call : PublishCall} (member : call ∈ bus.calls) (cancelled : call.cancelled = true) :
    bus.step? (.resume call.id none) =
      some (bus.withdraw call, [.returned call.id (.error .cancelled)]) := by
  simp [step?, resume, call?_of_mem books.ids member, going, cancelled]

/-- What is before a publish call that waits for a place: for each call of the row a message has to
leave the ingress queue, and one has to be there. -/
def ahead (bus : Bus) : Nat :=
  2 * bus.slots.waiting.length + bus.ingress.isEmpty.toNat

/-- While a publish call waits for a place, the dispatcher moves a message, or one comes to the
ingress queue, or a call gives up. -/
theorem Sound.row_moves (sound : Sound config bus) (going : bus.closed = false)
    (room : 0 < config.ingressCapacity) (member : ⟨admitted, .handOff, true, false⟩ ∈ bus.calls)
    (waits : admitted.call ∉ bus.slots.granted) :
    ∃ step result, step.brings = true ∧ bus.step? step = some result ∧
      result.1.closed = false ∧ ⟨admitted, .handOff, true, false⟩ ∈ result.1.calls ∧
      bus.admission.free ≤ result.1.admission.free ∧ result.1.ahead < bus.ahead := by
  have standing := sound.slots.row.mem_iff.mpr (mem_rowOf member rfl)
  have waiting : admitted.call ∈ bus.slots.waiting :=
    (List.mem_append.mp standing).resolve_right waits
  have row := List.length_pos_of_mem waiting
  cases first : bus.ingress with
  | cons other rest =>
      rcases route_possible (sound.routing going) first with ⟨result, taken⟩
      have moved := (route_routed taken).moved first
      refine ⟨_, result, rfl, taken, moved.closed.trans going, moved.calls ▸ member, moved.free, ?_⟩
      have some := Bool.toNat_le rest.isEmpty
      simp only [ahead, moved.slots, moved.ingress, Semaphore.release_waiting, List.length_tail]
      omega
  | nil =>
      have none : bus.slots.free = 0 := by
        by_contra some
        simp [sound.slots.idle (Nat.pos_of_ne_zero some)] at waiting
      have places := sound.room
      simp only [Semaphore.permits, none, first, List.length_nil] at places
      have granted : 0 < bus.slots.granted.length := by omega
      rcases List.exists_mem_of_length_pos granted with ⟨id, aside⟩
      have inRow := sound.slots.row.mem_iff.mp (List.mem_append_right _ aside)
      rcases exists_of_mem_rowOf inRow with ⟨call, present, rfl, stage, stands⟩
      have apart : admitted.call ≠ call.id := fun same => waits (same ▸ aside)
      rcases call with ⟨other, _, _, cancelled⟩
      cases stage
      cases stands
      cases cancelled with
      | true =>
          have taken := resume_cancelled sound.toBooks going present rfl
          refine ⟨_, _, rfl, taken, going, ?_, Semaphore.free_le_release _, ?_⟩
          · exact List.mem_filter.mpr ⟨member, decide_eq_true apart⟩
          · have shorter := Semaphore.withdraw_waiting aside
            simp only [ahead, withdraw, removeCall, shorter, first, List.length_tail]
            omega
      | false =>
          have taken := resume_placed sound.toBooks going present aside
          refine ⟨_, _, rfl, taken, going, ?_, Nat.le_refl _, ?_⟩
          · exact List.mem_filter.mpr ⟨member, decide_eq_true apart⟩
          · simp [ahead, enqueue, removeCall, first]

/-- A publish call that waits for a place gets one. -/
theorem Sound.completes_in_row (sound : Sound config bus) (going : bus.closed = false)
    (room : 0 < config.ingressCapacity) (member : ⟨admitted, .handOff, true, false⟩ ∈ bus.calls) :
    Completes (bus, []) admitted bus.admission.free := by
  induction left : bus.ahead using Nat.strongRecOn generalizing bus with
  | ind count ih =>
      by_cases granted : admitted.call ∈ bus.slots.granted
      · have taken := resume_placed sound.toBooks going member granted
        exact (enqueue_completes _ _).before rfl taken
      · rcases sound.row_moves going room member granted with
          ⟨step, result, brings, taken, stillGoing, stays, enough, less⟩
        have rest := ih _ (left ▸ less) (sound.step taken) stillGoing stays rfl
        exact ((rest.mono enough).seen (List.nil_subset _)).before brings taken

/-- A publish call that has its permit asks for a place, and gets one. -/
theorem handOff_completes (sound : Sound config (bus.handOff admitted).1)
    (going : bus.closed = false) (room : 0 < config.ingressCapacity) :
    Completes (bus.handOff admitted) admitted bus.admission.free := by
  simp only [handOff] at sound ⊢
  split
  next slots taken => exact enqueue_completes _ admitted
  next slots waits =>
    simp only [waits] at sound
    exact sound.completes_in_row going room (List.mem_append_right _ List.mem_cons_self)

/-- Each publish call that has its permit can return without an error, unless its caller has given
up. -/
theorem Sound.completes_handOff (sound : Sound config bus) (going : bus.closed = false)
    (room : 0 < config.ingressCapacity) {inRow : Bool}
    (member : ⟨admitted, .handOff, inRow, false⟩ ∈ bus.calls) :
    Completes (bus, []) admitted bus.admission.free := by
  cases inRow with
  | true => exact sound.completes_in_row going room member
  | false =>
      have found := call?_of_mem sound.ids member
      simp only [PublishCall.id] at found
      have taken : bus.step? (.resume admitted.call none) =
          some ((bus.removeCall admitted.call).handOff admitted) := by
        simp [step?, resume, found, going]
      exact (handOff_completes (sound.step taken) going room).before rfl taken

/-! ## A permit -/

/-- A publish call that asks for a permit while one is free goes on at once. -/
theorem enter_of_free (oneFree : 0 < bus.admission.free) (admitted : Admitted)
    (putOff : Option PublishStage) :
    ∃ admission, admission.free + 1 = bus.admission.free ∧
      bus.enter admitted putOff = { bus with admission }.proceed admitted putOff := by
  cases free : bus.admission.free with
  | zero => simp [free] at oneFree
  | succ left =>
      refine ⟨{ bus.admission with free := left }, rfl, ?_⟩
      simp [enter, Semaphore.request, free]

/-- While a permit is free, each publish call that waits can return without an error, unless its
caller has given up. -/
theorem Sound.completes (sound : Sound config bus) (going : bus.closed = false)
    (room : 0 < config.ingressCapacity) (oneFree : 0 < bus.admission.free) {call : PublishCall}
    (member : call ∈ bus.calls) (willing : call.cancelled = false) :
    Completes (bus, []) call.admitted (bus.admission.free - 1) := by
  have found := call?_of_mem sound.ids member
  rcases call with ⟨admitted, stage, inRow, cancelled⟩
  cases willing
  simp only [PublishCall.id] at found
  cases stage with
  | handOff => exact (sound.completes_handOff going room member).mono (Nat.sub_le _ _)
  | admission =>
      cases inRow with
      | false =>
          have removed : 0 < (bus.removeCall admitted.call).admission.free := oneFree
          rcases enter_of_free removed admitted none with ⟨admission, one, entered⟩
          have taken : bus.step? (.resume admitted.call none) =
              some ({ bus.removeCall admitted.call with admission }.handOff admitted) := by
            simp [step?, resume, found, going, entered, proceed]
          have rest := handOff_completes (sound.step taken) going room
          refine (rest.mono ?_).before rfl taken
          simp only [removeCall] at one ⊢
          omega
      | true =>
          -- Nobody waits while a permit is free, so that one is put aside for this call.
          have standing := sound.admission.row.mem_iff.mpr (mem_rowOf member rfl)
          rw [sound.admission.idle oneFree, List.nil_append] at standing
          have collected := Semaphore.collect?_granted standing
          simp only [PublishCall.id] at collected
          have taken : bus.step? (.resume admitted.call none) =
              some (({ bus with admission := { bus.admission with
                granted := bus.admission.granted.erase admitted.call } }.removeCall
                  admitted.call).handOff admitted) := by
            simp [step?, resume, found, going, collected, proceed]
          have rest := handOff_completes (sound.step taken) going room
          exact (rest.mono (Nat.sub_le _ _)).before rfl taken

/-- While a permit is free on an open bus, a publish call that begins with a message that the bus
takes can return without an error, also where it is put off at one of its waits. -/
theorem publish_completes (sound : Sound config bus) (room : 0 < config.ingressCapacity)
    (oneFree : 0 < bus.admission.free) {message : Message} {topic : Topic}
    (accepted : bus.accept message = .ok topic) {putOff : Option PublishStage}
    {result : Bus × List Event} (taken : bus.step? (.publish message false putOff) = some result) :
    Completes result ⟨bus.nextCall, message, topic⟩ (bus.admission.free - 1) := by
  have after := sound.step taken
  rcases whileHeld_some taken with ⟨_, begun⟩
  have going := (accept_ok accepted).2.1
  -- The name of the next call has no part in whether a message is taken.
  have alike : accept { bus with nextCall := bus.nextCall + 1 } message = .ok topic := accepted
  simp only [publish, alike] at begun
  split at begun
  next =>
    cases begun
    have member : ⟨⟨bus.nextCall, message, topic⟩, .admission, false, false⟩ ∈
        bus.calls ++ [⟨⟨bus.nextCall, message, topic⟩, .admission, false, false⟩] := by simp
    exact (after.completes going room oneFree member rfl).seen (List.nil_subset _)
  next =>
    have renamed : 0 < { bus with nextCall := bus.nextCall + 1 }.admission.free := oneFree
    rcases enter_of_free renamed ⟨bus.nextCall, message, topic⟩ putOff with
      ⟨admission, one, entered⟩
    have left : bus.admission.free - 1 ≤ admission.free :=
      Nat.sub_le_of_le_add (Nat.le_of_eq one.symm)
    simp only [Bool.false_eq_true, if_false, entered, proceed] at begun
    split at begun
    next =>
      cases begun
      have member : ⟨⟨bus.nextCall, message, topic⟩, .handOff, false, false⟩ ∈
          bus.calls ++ [⟨⟨bus.nextCall, message, topic⟩, .handOff, false, false⟩] := by simp
      have rest := after.completes_handOff going room member
      exact (rest.mono left).seen (List.nil_subset _)
    next =>
      cases begun
      have rest := handOff_completes after going room
      exact (rest.mono left).seen (List.subset_cons_self _ _)

end ConversationBus.Bus
