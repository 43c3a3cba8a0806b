import ConversationBus.Proofs.Bus.Run

/-!
# The story of a publish call

What a trace tells of one publish call follows a fixed course. The call begins with a message. It
then waits, or its message enters the ingress queue and it returns, or it ends without that. Nothing
is told of it afterwards.
-/

namespace ConversationBus.Bus

variable {config : BusConfig} {bus next : Bus} {result : Bus × List Event} {admitted : Admitted}
  {id : CallId} {trace told : List Event}

/-! ## The message of a waiting call -/

def pending (bus : Bus) (id : CallId) : Option Admitted :=
  (bus.call? id).map PublishCall.admitted

theorem pending_cancel (other : CallId) : (bus.cancel other).pending id = bus.pending id := by
  have names : (fun call : PublishCall => decide (call.id = id)) ∘
      (fun call : PublishCall =>
        if call.id = other then { call with cancelled := true } else call) =
        fun call => decide (call.id = id) := comp_cancel other fun _ => rfl
  rw [pending, call?, cancel, List.find?_map, names, Option.map_map, comp_cancel other fun _ => rfl,
    pending, call?]

theorem pending_removeCall (other : CallId) :
    (bus.removeCall other).pending id = if id = other then none else bus.pending id := by
  simp only [pending, call?, removeCall, List.find?_filter]
  split
  next same =>
    simp [same]
  next apart =>
    congr 2
    funext call
    by_cases named : call.id = id
    · simp [named, apart]
    · simp [named]

theorem pending_suspend (call : PublishCall) (fresh : bus.pending call.id = none) (id : CallId) :
    (bus.suspend call).pending id =
      if id = call.id then some call.admitted else bus.pending id := by
  simp only [pending, call?, suspend, List.find?_append]
  split
  next same =>
    subst id
    have absent : bus.calls.find? (fun other => decide (other.id = call.id)) = none := by
      simpa [pending, call?] using fresh
    simp [absent]
  next apart => simp [Ne.symm apart]

theorem pending_of_mem {call : PublishCall} (nodup : (bus.calls.map PublishCall.id).Nodup)
    (member : call ∈ bus.calls) : bus.pending call.id = some call.admitted := by
  cases found : bus.call? call.id with
  | none => simpa [call?] using List.find?_eq_none.mp found call member
  | some other =>
      rcases call?_some found with ⟨present, same⟩
      rw [pending, found, List.inj_on_of_nodup_map nodup present member same, Option.map_some]

theorem pending_none (books : Books config bus 0 0) (ahead : bus.nextCall ≤ id) :
    bus.pending id = none := by
  cases found : bus.call? id with
  | none => rw [pending, found, Option.map_none]
  | some call =>
      rcases call?_some found with ⟨member, rfl⟩
      exact absurd (books.known call member) (Nat.not_lt.mpr ahead)

/-! ## Stories -/

inductive Story (bus : Bus) (id : CallId) : List Event → Prop where
  | silent (gone : bus.pending id = none) : Story bus id []
  | waiting {admitted : Admitted} (known : id < bus.nextCall)
      (pending : bus.pending id = some admitted) : Story bus id [.called id admitted.message]
  | queued {admitted : Admitted} (known : id < bus.nextCall) (gone : bus.pending id = none)
      (same : admitted.call = id) :
      Story bus id [.called id admitted.message, .queued admitted, .returned id (.ok ())]
  | failed {message : Message} {event : Event} (known : id < bus.nextCall)
      (gone : bus.pending id = none)
      (last : event = .abandoned id ∨ ∃ error, event = .returned id (.error error)) :
      Story bus id [.called id message, event]

/-- A story goes on unchanged where nothing is told of the call. -/
theorem Story.of_same (story : Story bus id told) (pending : next.pending id = bus.pending id)
    (later : bus.nextCall ≤ next.nextCall) : Story next id told := by
  cases story with
  | silent gone => exact .silent (pending.trans gone)
  | waiting known waits =>
      exact .waiting (Nat.lt_of_lt_of_le known later) (pending.trans waits)
  | queued known gone same =>
      exact .queued (Nat.lt_of_lt_of_le known later) (pending.trans gone) same
  | failed known gone last =>
      exact .failed (Nat.lt_of_lt_of_le known later) (pending.trans gone) last

/-- Nothing is told of a call that has not begun. -/
theorem Story.eq_nil (story : Story bus id told) (ahead : bus.nextCall ≤ id) : told = [] := by
  cases story with
  | silent => rfl
  | waiting known | queued known | failed known => exact absurd known (Nat.not_lt.mpr ahead)

/-- While a call waits, it is only told that it began. -/
theorem Story.eq_called (story : Story bus id told) (pending : bus.pending id = some admitted) :
    told = [.called id admitted.message] ∧ id < bus.nextCall := by
  cases story with
  | silent gone | queued _ gone | failed _ gone => simp [gone] at pending
  | waiting known waits =>
      cases waits.symm.trans pending
      exact ⟨rfl, known⟩

/-- The story of a call whose message goes on from where the call stood. -/
theorem Brought.story (brought : Brought bus admitted result)
    (gone : bus.pending admitted.call = none) (known : admitted.call < bus.nextCall) :
    Story result.1 admitted.call
      (.called admitted.call admitted.message :: toldOf admitted.call result.2) := by
  cases brought with
  | queued =>
      have all : toldOf admitted.call [.queued admitted, .returned admitted.call (.ok ())] =
          [.queued admitted, .returned admitted.call (.ok ())] := by simp [toldOf, Event.about]
      rw [enqueue, all]
      exact .queued known gone rfl
  | waits admission slots stage inRow cancelled =>
      have waits := pending_suspend ⟨admitted, stage, inRow, cancelled⟩ gone admitted.call
      exact .waiting known (waits.trans (if_pos rfl))

theorem Brought.other (brought : Brought bus admitted result)
    (gone : bus.pending admitted.call = none) (apart : id ≠ admitted.call) :
    result.1.pending id = bus.pending id ∧ result.1.nextCall = bus.nextCall ∧
      toldOf id result.2 = [] := by
  cases brought with
  | queued => exact ⟨rfl, rfl, by simp [enqueue, toldOf, Event.about, Ne.symm apart]⟩
  | waits admission slots stage inRow cancelled =>
      have waits := pending_suspend ⟨admitted, stage, inRow, cancelled⟩ gone id
      exact ⟨waits.trans (if_neg apart), rfl, rfl⟩

theorem toldOf_eq_nil {events : List Event} (silent : ∀ event ∈ events, event.about id = false) :
    toldOf id events = [] :=
  List.filter_eq_nil_iff.mpr fun event member => by simp [silent event member]

/-- A change that tells nothing of a call and leaves it waiting as before keeps its story. -/
theorem Story.silent_step (story : Story bus id told)
    (pending : result.1.pending id = bus.pending id)
    (later : bus.nextCall ≤ result.1.nextCall) (silent : toldOf id result.2 = []) :
    Story result.1 id (told ++ toldOf id result.2) := by
  rw [silent, List.append_nil]
  exact story.of_same pending later

/-- Every change takes the story of every call on by what it tells. -/
theorem Change.story (books : Books config bus 0 0) (change : Change bus result)
    (story : Story bus id told) : Story result.1 id (told ++ toldOf id result.2) := by
  cases change with
  | aside moved =>
      cases moved with
      | intro _ _ silent =>
          refine story.silent_step rfl (Nat.le_refl _) (toldOf_eq_nil ?_)
          intro event member
          cases event with
          | received | discarded => rfl
          | _ => cases silent _ member
  | closing moved =>
      cases moved.closes with
      | intro later _ silent =>
          refine story.silent_step rfl later (toldOf_eq_nil ?_)
          intro event member
          cases event with
          | closeReturned | closeAbandoned => rfl
          | _ => cases silent _ member
  | cancelled other => exact story.silent_step (pending_cancel other) (Nat.le_refl _) rfl
  | refused message error =>
      by_cases same : id = bus.nextCall
      · subst id
        have gone := pending_none books (Nat.le_refl _)
        rw [story.eq_nil (Nat.le_refl _)]
        simpa [toldOf, Event.about] using .failed (Nat.lt_succ_self _) gone (.inr ⟨error, rfl⟩)
      · exact story.silent_step rfl (Nat.le_succ _) (by simp [toldOf, Event.about, Ne.symm same])
  | entered accepted brought =>
      have gone := pending_none books (Nat.le_refl bus.nextCall)
      by_cases same : id = bus.nextCall
      · subst id
        rw [story.eq_nil (Nat.le_refl _)]
        simpa [toldOf, Event.about] using brought.story gone (Nat.lt_succ_self _)
      · rcases brought.other gone same with ⟨kept, later, silent⟩
        refine story.silent_step kept (Nat.le_of_succ_le (Nat.le_of_eq later.symm)) ?_
        simpa [toldOf, Event.about, Ne.symm same] using silent
  | @resumed call _ member going brought =>
      have gone : (bus.removeCall call.id).pending call.id = none :=
        (pending_removeCall call.id).trans (if_pos rfl)
      by_cases same : id = call.id
      · subst id
        rcases story.eq_called (pending_of_mem books.ids member) with ⟨rfl, known⟩
        exact brought.story gone known
      · rcases brought.other gone same with ⟨kept, later, silent⟩
        refine story.silent_step (kept.trans ?_) (Nat.le_of_eq later.symm) silent
        exact (pending_removeCall call.id).trans (if_neg same)
  | @withdrawn call event admission slots member last =>
      have about (other : CallId) : event.about other = decide (call.id = other) := by
        rcases last with rfl | ⟨error, rfl⟩
        · rfl
        · rfl
      by_cases same : id = call.id
      · subst id
        rcases story.eq_called (pending_of_mem books.ids member) with ⟨rfl, known⟩
        rw [show toldOf call.id [event] = [event] from List.filter_cons_of_pos (by simp [about])]
        exact .failed known ((pending_removeCall call.id).trans (if_pos rfl)) last
      · exact story.silent_step ((pending_removeCall call.id).trans (if_neg same)) (Nat.le_refl _)
          (toldOf_eq_nil (by simp [about, Ne.symm same]))
  | hired | assigned | started | drained | retired | halted =>
      exact story.silent_step rfl (Nat.le_refl _) rfl
  | finished outcome droppedErrors errors found busy counted silent =>
      refine story.silent_step rfl (Nat.le_refl _) (toldOf_eq_nil ?_)
      intro event member
      rcases List.mem_cons.mp member with rfl | report
      · rfl
      · rcases silent event report with ⟨report, fate, rfl⟩
        rfl

theorem Rejected.story (rejected : Rejected bus result) (story : Story bus id told) :
    Story result.1 id (told ++ toldOf id result.2) := by
  cases rejected with
  | intro => exact story.silent_step rfl (Nat.le_refl _) rfl

theorem Broken.story (broken : Broken bus result) (story : Story bus id told) :
    Story result.1 id (told ++ toldOf id result.2) := by
  cases broken with
  | intro =>
      refine story.silent_step rfl (Nat.le_refl _) (toldOf_eq_nil ?_)
      simp [Event.about]

theorem Course.story (course : Course bus trace next) (started : Bus.start config = .ok bus)
    (id : CallId) : Story next id (toldOf id trace) := by
  refine course.invariant (fun bus trace => Story bus id (toldOf id trace)) started (.silent rfl)
    ?_ ?_ ?_
  · intro bus trace result sound change story
    rw [toldOf_append]
    exact change.story sound.toBooks story
  · intro bus trace result _ rejected story
    rw [toldOf_append]
    exact rejected.story story
  · intro bus trace result _ broken story
    rw [toldOf_append]
    exact broken.story story

/-! ## What a story implies -/

/-- The story of a call whose message entered the ingress queue. -/
def queuedStory (admitted : Admitted) : List Event :=
  [.called admitted.call admitted.message, .queued admitted, .returned admitted.call (.ok ())]

/-- A call begins once, and nothing is told of it before. -/
theorem Story.nil_of_called {before after : List Event} {message : Message}
    (story : Story bus id (before ++ .called id message :: after)) : before = [] := by
  generalize split : before ++ .called id message :: after = told at story
  cases before with
  | nil => rfl
  | cons first before =>
      have member : .called id message ∈ told.tail := by simp [← split]
      cases story with
      | silent | waiting | queued => simp at member
      | failed known gone last =>
          rcases last with rfl | ⟨error, rfl⟩
          · simp at member
          · simp at member

theorem Story.of_queued (story : Story bus id told) (queued : .queued admitted ∈ told) :
    admitted.call = id ∧ told = queuedStory admitted := by
  cases story with
  | silent | waiting => simp at queued
  | queued known gone same =>
      obtain rfl : admitted = _ := by simpa using queued
      subst id
      exact ⟨rfl, rfl⟩
  | failed known gone last =>
      rcases last with rfl | ⟨error, rfl⟩
      · simp at queued
      · simp at queued

theorem Story.of_returned {other : CallId} (story : Story bus id told)
    (returned : .returned other (.ok ()) ∈ told) :
    ∃ admitted, admitted.call = id ∧ told = queuedStory admitted := by
  cases story with
  | silent | waiting => simp at returned
  | @queued admitted known gone same =>
      subst id
      exact ⟨admitted, rfl, rfl⟩
  | failed known gone last =>
      rcases last with rfl | ⟨error, rfl⟩
      · simp at returned
      · simp at returned

/-- When a call has returned without an error, its message has entered the ingress queue. -/
theorem Story.queued_of_returned {before after : List Event} {other : CallId}
    (story : Story bus id (before ++ after)) (returned : .returned other (.ok ()) ∈ before) :
    ∃ admitted, admitted.call = id ∧ before = queuedStory admitted := by
  rcases story.of_returned (List.mem_append_left after returned) with ⟨admitted, same, told⟩
  refine ⟨admitted, same, ?_⟩
  match before, told with
  | [], _ => simp at returned
  | [first], told =>
      cases told
      simp at returned
  | [first, second], told =>
      cases told
      simp at returned
  | first :: second :: third :: before, told =>
      simp only [queuedStory, List.cons_append, List.cons.injEq, List.append_eq_nil_iff] at told
      rw [told.1, told.2.1, told.2.2.1, told.2.2.2.1, queuedStory]

/-- Before a call begins, its message is not in the ingress queue. -/
theorem Course.not_queued_before {before after : List Event} {message : Message}
    (course : Course bus (before ++ .called id message :: after) next)
    (started : Bus.start config = .ok bus) (queued : admitted ∈ queuedIn before) :
    admitted.call ≠ id := by
  rintro rfl
  have told := course.story started admitted.call
  rw [toldOf_append, toldOf, toldOf, List.filter_cons_of_pos (by simp [Event.about])] at told
  have nothing := told.nil_of_called
  rw [List.filter_eq_nil_iff] at nothing
  exact nothing _ (mem_queuedIn.mp queued) (by simp [Event.about])

/-- When a call has returned without an error, the message that it began with has entered the
ingress queue. -/
theorem Course.queued_before {before after : List Event} {message : Message}
    (course : Course bus (before ++ after) next) (started : Bus.start config = .ok bus)
    (called : .called id message ∈ before) (returned : .returned id (.ok ()) ∈ before) :
    ∃ admitted ∈ queuedIn before, admitted.call = id ∧ admitted.message = message := by
  have told := course.story started id
  rw [toldOf_append] at told
  obtain ⟨admitted, rfl, story⟩ :=
    told.queued_of_returned (mem_toldOf.mpr ⟨returned, by simp [Event.about]⟩)
  have begun : .called admitted.call message ∈ queuedStory admitted :=
    story ▸ mem_toldOf.mpr ⟨called, by simp [Event.about]⟩
  have queued : .queued admitted ∈ toldOf admitted.call before := by simp [story, queuedStory]
  refine ⟨admitted, mem_queuedIn.mpr (mem_toldOf.mp queued).1, rfl, ?_⟩
  simpa [queuedStory, eq_comm] using begun

theorem Story.length_queuedIn_le (story : Story bus id told) : (queuedIn told).length ≤ 1 := by
  cases story with
  | silent | waiting | queued => simp [Event.queued?]
  | failed known gone last =>
      rcases last with rfl | ⟨error, rfl⟩
      · simp [Event.queued?]
      · simp [Event.queued?]

/-- The story of a call whose message entered the ingress queue along a course. -/
theorem Course.toldOf_of_queued (course : Course bus trace next)
    (started : Bus.start config = .ok bus)
    (queued : admitted ∈ queuedIn trace) : toldOf admitted.call trace = queuedStory admitted := by
  have member : .queued admitted ∈ toldOf admitted.call trace :=
    mem_toldOf.mpr ⟨mem_queuedIn.mp queued, by simp [Event.about]⟩
  exact ((course.story started admitted.call).of_queued member).2

/-- The message that entered the ingress queue is the one that its call began with. -/
theorem Course.called_iff {message : Message} (course : Course bus trace next)
    (started : Bus.start config = .ok bus) (queued : admitted ∈ queuedIn trace) :
    .called admitted.call message ∈ trace ↔ message = admitted.message := by
  have told : .called admitted.call message ∈ toldOf admitted.call trace ↔
      .called admitted.call message ∈ trace := by simp [mem_toldOf, Event.about]
  rw [← told, course.toldOf_of_queued started queued]
  simp [queuedStory]

/-- A call returns without an error just if its message entered the ingress queue. -/
theorem Course.returned_iff (course : Course bus trace next) (started : Bus.start config = .ok bus) :
    .returned id (.ok ()) ∈ trace ↔ id ∈ (queuedIn trace).map Admitted.call := by
  constructor
  · intro returned
    have member : .returned id (.ok ()) ∈ toldOf id trace :=
      mem_toldOf.mpr ⟨returned, by simp [Event.about]⟩
    rcases (course.story started id).of_returned member with ⟨admitted, rfl, told⟩
    have queued : .queued admitted ∈ toldOf admitted.call trace := by simp [told, queuedStory]
    exact List.mem_map_of_mem (mem_queuedIn.mpr (mem_toldOf.mp queued).1)
  · intro member
    rcases List.mem_map.mp member with ⟨admitted, queued, rfl⟩
    have returned : .returned admitted.call (.ok ()) ∈ toldOf admitted.call trace := by
      simp [course.toldOf_of_queued started queued, queuedStory]
    exact (mem_toldOf.mp returned).1

/-- The message of a call that ended otherwise has not entered the ingress queue. -/
theorem Course.not_queued_of_failed (course : Course bus trace next)
    (started : Bus.start config = .ok bus)
    (failed : .abandoned admitted.call ∈ trace ∨
      ∃ error, .returned admitted.call (.error error) ∈ trace) : admitted ∉ queuedIn trace := by
  intro queued
  have told := course.toldOf_of_queued started queued
  rcases failed with abandoned | ⟨error, returned⟩
  · have member : .abandoned admitted.call ∈ toldOf admitted.call trace :=
      mem_toldOf.mpr ⟨abandoned, by simp [Event.about]⟩
    simp [told, queuedStory] at member
  · have member : .returned admitted.call (.error error) ∈ toldOf admitted.call trace :=
      mem_toldOf.mpr ⟨returned, by simp [Event.about]⟩
    simp [told, queuedStory] at member

end ConversationBus.Bus
