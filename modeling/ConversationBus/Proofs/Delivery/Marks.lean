import ConversationBus.Delivery.Inbound
import ConversationBus.Proofs.Flow.Dialogue
import Mathlib.Control.Monad.Basic

/-!
# Events are published until they are marked

Events arrive on a channel one after another, each perhaps many times, while the bus may refuse a
message and the store may fail at any call. An event is marked only after the bus took it, and a
mark keeps it from being offered again. So an event is never lost for a mark, and the bus takes it
twice only where a mark could not be saved.
-/

namespace ConversationBus

def offeredIn (exchanges : List Exchange) : List Message :=
  exchanges.filterMap Exchange.offered?

def takenIn (exchanges : List Exchange) : List Message :=
  exchanges.filterMap Exchange.taken?

/-- The marks that were to be saved, and whether they were. -/
def marksIn (exchanges : List Exchange) : List (InboxRecord × Bool) :=
  exchanges.filterMap Exchange.mark?

/-- A message of an event as the caller wrote it, except that what the caller left open of its
origin is filled in. -/
structure Message.StampOf (channel : Channel) (id : String) (original message : Message) :
    Prop where
  channel : message.channel = some (original.channel.getD channel)
  direction : message.direction = some (original.direction.getD .inbound)
  platformMessageId : message.extensions.platformMessageId =
    some (original.extensions.platformMessageId.getD id)
  rest : message = { original with
    channel := message.channel
    direction := message.direction
    extensions := { original.extensions with
      platformMessageId := message.extensions.platformMessageId } }

theorem Message.stampOf_stamped (message : Message) (channel : Channel) (id : String) :
    StampOf channel id message (message.stamped channel id) where
  channel := Option.or_some
  direction := Option.or_some
  platformMessageId := Option.or_some
  rest := rfl

namespace Inbound

structure Event where
  id : String
  message : Message

def receive (channel : Channel) (event : Event) : Flow (Except InboundError Bool) :=
  publish channel event.id event.message

abbrev Received := Performed Event (Except InboundError Bool)

/-- An event has an id, and its message is for the channel or for none. -/
def Acceptable (channel : Channel) (event : Event) : Prop :=
  Text.allBlank event.id = false ∧
    (event.message.channel = none ∨ event.message.channel = some channel)

variable {channel : Channel} {event : Event} {before : Holdings} {exchanges : List Exchange}
  {result : Except InboundError Bool}

theorem check_eq_ok : check channel event.id event.message = .ok () ↔ Acceptable channel event := by
  simp only [check, Acceptable]
  cases Text.allBlank event.id with
  | true => simp
  | false =>
      cases event.message.channel with
      | none => simp
      | some actual => simp [ite_eq_left_iff]

abbrev Event.mark (event : Event) (channel : Channel) (seenAt : Instant) : InboxRecord :=
  ⟨channel, event.id, event.message.conversationKey, seenAt⟩

/-- The dialogues of an event: it is refused, its look-up fails, it is marked already, the bus does
not take it, or it is taken and its mark is saved or not. -/
inductive Receiving (channel : Channel) (event : Event) (before : Holdings) :
    List Exchange → Except InboundError Bool → Prop where
  | refused {error : InboundError} (unacceptable : ¬ Acceptable channel event) :
      Receiving channel event before [] (.error error)
  | unread (acceptable : Acceptable channel event) (error : StoreError) :
      Receiving channel event before [⟨.findInbox channel event.id, .error error⟩]
        (.error (.store error))
  | known {record : InboxRecord} (acceptable : Acceptable channel event)
      (held : before.inbox channel event.id = some record) :
      Receiving channel event before [⟨.findInbox channel event.id, .ok (some record)⟩] (.ok false)
  | untaken (acceptable : Acceptable channel event)
      (unknown : before.inbox channel event.id = none) (error : BusError) :
      Receiving channel event before
        [⟨.findInbox channel event.id, .ok none⟩,
          ⟨.publish (event.message.stamped channel event.id), .error error⟩] (.error (.bus error))
  | unmarked (acceptable : Acceptable channel event)
      (unknown : before.inbox channel event.id = none) (now : Instant) (error : StoreError) :
      Receiving channel event before
        [⟨.findInbox channel event.id, .ok none⟩,
          ⟨.publish (event.message.stamped channel event.id), .ok ()⟩, ⟨.now, now⟩,
          ⟨.saveInbox (event.mark channel now), .error error⟩] (.error (.store error))
  | marked (acceptable : Acceptable channel event)
      (unknown : before.inbox channel event.id = none) (now : Instant) :
      Receiving channel event before
        [⟨.findInbox channel event.id, .ok none⟩,
          ⟨.publish (event.message.stamped channel event.id), .ok ()⟩, ⟨.now, now⟩,
          ⟨.saveInbox (event.mark channel now), .ok ()⟩] (.ok true)

theorem receiving (dialogue : (receive channel event).Dialogue before exchanges result) :
    Receiving channel event before exchanges result := by
  simp only [receive, publish] at dialogue
  split at dialogue
  next error refused =>
    rcases Flow.dialogue_done.mp dialogue with ⟨rfl, rfl⟩
    refine .refused fun acceptable => ?_
    cases (check_eq_ok.mpr acceptable).symm.trans refused
  next checked =>
    have acceptable := check_eq_ok.mp checked
    rcases Flow.dialogue_act.mp dialogue with ⟨found | found, _, rfl, admitted, dialogue⟩
    · rcases Flow.dialogue_done.mp dialogue with ⟨rfl, rfl⟩
      exact .unread acceptable found
    · change found = before.inbox channel event.id at admitted
      cases found with
      | some record =>
          rcases Flow.dialogue_done.mp dialogue with ⟨rfl, rfl⟩
          exact .known acceptable admitted.symm
      | none =>
          rcases Flow.dialogue_act.mp dialogue with ⟨taken | ⟨⟨⟩⟩, _, rfl, _, dialogue⟩
          · rcases Flow.dialogue_done.mp dialogue with ⟨rfl, rfl⟩
            exact .untaken acceptable admitted.symm taken
          · rcases Flow.dialogue_act.mp dialogue with ⟨now, _, rfl, _, dialogue⟩
            rcases Flow.dialogue_act.mp dialogue with ⟨saved | ⟨⟨⟩⟩, _, rfl, _, dialogue⟩
            · rcases Flow.dialogue_done.mp dialogue with ⟨rfl, rfl⟩
              exact .unmarked acceptable admitted.symm now saved
            · rcases Flow.dialogue_done.mp dialogue with ⟨rfl, rfl⟩
              exact .marked acceptable admitted.symm now

/-! ## What an event leaves behind -/

/-- Nothing is published or marked, or an event that was not marked is taken by the bus, and its
mark is saved or not. -/
theorem Receiving.effect (receiving : Receiving channel event before exchanges result) :
    (takenIn exchanges = [] ∧ marksIn exchanges = [] ∧ before.afterAll exchanges = before ∧
      result ≠ .ok true) ∨
    (before.inbox channel event.id = none ∧
      takenIn exchanges = [event.message.stamped channel event.id] ∧ ∃ now,
        (∃ error, marksIn exchanges = [(event.mark channel now, false)] ∧
          before.afterAll exchanges = before ∧ result = .error (.store error)) ∨
        (marksIn exchanges = [(event.mark channel now, true)] ∧
          before.afterAll exchanges = before.putInbox (event.mark channel now) ∧
          result = .ok true)) := by
  cases receiving with
  | refused | unread | known | untaken => exact .inl ⟨rfl, rfl, rfl, by simp⟩
  | unmarked acceptable unknown now error =>
      exact .inr ⟨unknown, rfl, now, .inl ⟨error, rfl, rfl, rfl⟩⟩
  | marked acceptable unknown now => exact .inr ⟨unknown, rfl, now, .inr ⟨rfl, rfl, rfl⟩⟩

theorem Receiving.others (receiving : Receiving channel event before exchanges result)
    {place : Channel} {id : String} (other : ¬ (place = channel ∧ id = event.id)) :
    (before.afterAll exchanges).inbox place id = before.inbox place id := by
  rcases receiving.effect with ⟨_, _, same, _⟩ | ⟨_, _, now, ⟨_, _, same, _⟩ | ⟨_, same, _⟩⟩
  · rw [same]
  · rw [same]
  · rw [same, Holdings.inbox_putInbox, if_neg other]

theorem Receiving.keeps (receiving : Receiving channel event before exchanges result)
    {place : Channel} {id : String} {record : InboxRecord}
    (held : before.inbox place id = some record) :
    (before.afterAll exchanges).inbox place id = some record := by
  by_cases own : place = channel ∧ id = event.id
  · rcases own with ⟨rfl, rfl⟩
    rcases receiving.effect with ⟨_, _, same, _⟩ | ⟨unknown, _⟩
    · rw [same, held]
    · simp [held] at unknown
  · rw [receiving.others own, held]

theorem Receiving.silent (receiving : Receiving channel event before exchanges result)
    {record : InboxRecord} (held : before.inbox channel event.id = some record) :
    offeredIn exchanges = [] := by
  cases receiving with
  | refused | unread | known => rfl
  | untaken acceptable unknown | unmarked acceptable unknown | marked acceptable unknown =>
      simp [held] at unknown

/-- The dialogue of an acceptable event begins with this answer to its look-up. -/
structure Begins (channel : Channel) (event : Event)
    (answer : Except StoreError (Option InboxRecord)) (exchanges : List Exchange) : Prop where
  acceptable : Acceptable channel event
  first : exchanges.head? = some ⟨.findInbox channel event.id, answer⟩

variable {answer : Except StoreError (Option InboxRecord)}

/-- What follows from the answer to the look-up of an acceptable event: a failure ends the dialogue,
a mark skips the event, and if there is none the event is offered to the bus. -/
theorem Receiving.decided (receiving : Receiving channel event before exchanges result)
    (begins : Begins channel event answer exchanges) :
    (∃ error, answer = .error error ∧ result = .error (.store error) ∧ offeredIn exchanges = []) ∨
    (∃ record, answer = .ok (some record) ∧ before.inbox channel event.id = some record ∧
      result = .ok false) ∨
    (answer = .ok none ∧ before.inbox channel event.id = none ∧ result ≠ .ok false ∧
      offeredIn exchanges = [event.message.stamped channel event.id]) := by
  have first := begins.first
  cases receiving with
  | refused unacceptable => exact absurd begins.acceptable unacceptable
  | unread acceptable error =>
      cases first
      exact .inl ⟨error, rfl, rfl, rfl⟩
  | @known record acceptable held =>
      cases first
      exact .inr (.inl ⟨record, rfl, held, rfl⟩)
  | untaken acceptable unknown | unmarked acceptable unknown | marked acceptable unknown =>
      cases first
      exact .inr (.inr ⟨rfl, unknown, by simp, rfl⟩)

/-- An event that is not acceptable is refused without a word. -/
theorem Receiving.refusal (receiving : Receiving channel event before exchanges result)
    (unacceptable : ¬ Acceptable channel event) :
    exchanges = [] ∧ ∃ error, result = .error error := by
  cases receiving with
  | refused => exact ⟨rfl, _, rfl⟩
  | unread acceptable | known acceptable | untaken acceptable | unmarked acceptable
  | marked acceptable => exact absurd acceptable unacceptable

theorem Receiving.untouched (receiving : Receiving channel event before exchanges (.ok false)) :
    offeredIn exchanges = [] ∧ marksIn exchanges = [] ∧ before.afterAll exchanges = before := by
  cases receiving with
  | known => exact ⟨rfl, rfl, rfl⟩

/-- An event counts as published if it was taken and its mark was saved. -/
theorem Receiving.published_iff (receiving : Receiving channel event before exchanges result) :
    result = .ok true ↔ takenIn exchanges ≠ [] ∧ ∃ seenAt,
      (event.mark channel seenAt, true) ∈ marksIn exchanges := by
  rcases receiving.effect with ⟨none, nothing, _, other⟩ |
    ⟨_, one, now, ⟨error, unsaved, _, rfl⟩ | ⟨saved, _, rfl⟩⟩
  · simp [none, other]
  · simp [unsaved]
  · simp [one, saved]

/-- A mark is written after the message was taken. -/
theorem Receiving.announced (receiving : Receiving channel event before exchanges result)
    {earlier later : List Exchange} {record : InboxRecord} {answer : Except StoreError Unit}
    (split : exchanges = earlier ++ ⟨.saveInbox record, answer⟩ :: later) :
    takenIn earlier ≠ [] ∧ ∃ seenAt, record = event.mark channel seenAt := by
  have written : (record, answer.isOk) ∈ marksIn exchanges := by
    rw [split, marksIn, List.filterMap_append]
    exact List.mem_append_right _ List.mem_cons_self
  cases receiving with
  | refused | unread | known | untaken => cases written
  | unmarked acceptable unknown now | marked acceptable unknown now =>
      let front : List Exchange := [⟨.findInbox channel event.id, .ok none⟩,
        ⟨.publish (event.message.stamped channel event.id), .ok ()⟩, ⟨.now, now⟩]
      have before : earlier = front := (eq_front_of_split Exchange.mark? rfl rfl rfl split).1
      have same := (Prod.mk.inj (List.mem_singleton.mp written)).1
      exact ⟨by simp [before, front, takenIn, Exchange.taken?], now, same⟩

/-- What is offered is the message of the event, with its origin filled in. -/
theorem Receiving.faithful (receiving : Receiving channel event before exchanges result)
    {message : Message} (offered : message ∈ offeredIn exchanges) :
    event.message.StampOf channel event.id message := by
  cases receiving with
  | refused | unread | known => cases offered
  | untaken | unmarked | marked =>
      cases List.mem_singleton.mp offered
      exact event.message.stampOf_stamped channel event.id

/-! ## Histories -/

def offeredOf (id : String) (history : List Received) : List Message :=
  shownOf (·.id = id) offeredIn history

def takenOf (id : String) (history : List Received) : List Message :=
  shownOf (·.id = id) takenIn history

/-- The events with an id whose mark could not be saved. -/
def unmarkedOf (id : String) (history : List Received) : List Received :=
  history.filter fun entry => entry.call.id = id ∧ ∃ mark ∈ marksIn entry.exchanges, mark.2 = false

/-- What is known of an id: whether it was marked at first and is marked now, and how often the bus
took a message for it. -/
structure Known (channel : Channel) (id : String) (initially : Option InboxRecord)
    (history : List Received) (held : Option InboxRecord) : Prop where
  unmarked : held = none → (takenOf id history).length = (unmarkedOf id history).length
  marked : (takenOf id history).length ≤ 1 + (unmarkedOf id history).length
  source : ∀ record, held = some record → initially = some record ∨
    ∃ entry ∈ history, entry.call.id = id ∧ takenIn entry.exchanges ≠ [] ∧
      ∃ seenAt, record = entry.call.mark channel seenAt

variable {id : String} {initially : Option InboxRecord} {history : List Received} {entry : Received}

theorem takenOf_concat :
    takenOf id (history ++ [entry]) =
      takenOf id history ++ if entry.call.id = id then takenIn entry.exchanges else [] :=
  shownOf_concat

theorem unmarkedOf_concat :
    unmarkedOf id (history ++ [entry]) = unmarkedOf id history ++
      if entry.call.id = id ∧ ∃ mark ∈ marksIn entry.exchanges, mark.2 = false then [entry]
      else [] := by
  rw [unmarkedOf, List.filter_append, List.filter_cons, List.filter_nil]
  simp only [decide_eq_true_eq]
  rfl

theorem Known.next (known : Known channel id initially history (before.inbox channel id))
    (receiving : Receiving channel entry.call before entry.exchanges entry.result) :
    Known channel id initially (history ++ [entry])
      ((before.afterAll entry.exchanges).inbox channel id) := by
  have source : ∀ record, before.inbox channel id = some record → initially = some record ∨
      ∃ earlier ∈ history ++ [entry], earlier.call.id = id ∧ takenIn earlier.exchanges ≠ [] ∧
        ∃ seenAt, record = earlier.call.mark channel seenAt := by
    intro record held
    rcases known.source record held with first | ⟨earlier, member, told⟩
    · exact .inl first
    · exact .inr ⟨earlier, List.mem_append_left _ member, told⟩
  by_cases own : entry.call.id = id
  -- A message is taken only while there is no mark, when both counts are still equal.
  · subst own
    rcases receiving.effect with ⟨none, nothing, same, _⟩ |
      ⟨unknown, one, now, ⟨error, unsaved, same, _⟩ | ⟨saved, last, _⟩⟩
    · have taken : takenOf entry.call.id (history ++ [entry]) = takenOf entry.call.id history := by
        simp [takenOf_concat, none]
      have unmarked : unmarkedOf entry.call.id (history ++ [entry]) =
          unmarkedOf entry.call.id history := by
        simp [unmarkedOf_concat, nothing]
      rw [same]
      refine ⟨?_, ?_, source⟩
      · rw [taken, unmarked]
        exact known.unmarked
      · rw [taken, unmarked]
        exact known.marked
    · have counted := known.unmarked unknown
      rw [same]
      refine ⟨?_, ?_, source⟩
      · intro _
        simp [takenOf_concat, one, unmarkedOf_concat, unsaved, counted]
      · simp [takenOf_concat, one, unmarkedOf_concat, unsaved, counted]
    · have counted := known.unmarked unknown
      have held : (before.afterAll entry.exchanges).inbox channel entry.call.id =
          some (entry.call.mark channel now) := by
        rw [last, Holdings.inbox_putInbox, if_pos ⟨rfl, rfl⟩]
      rw [held]
      refine ⟨?_, ?_, ?_⟩
      · rintro ⟨⟩
      · simp [takenOf_concat, one, unmarkedOf_concat, saved, counted, Nat.add_comm]
      · rintro record ⟨⟩
        exact .inr ⟨entry, by simp, rfl, by simp [one], now, rfl⟩
  · rw [receiving.others fun same => own same.2.symm]
    refine ⟨?_, ?_, source⟩
    · simpa only [takenOf_concat, unmarkedOf_concat, own, false_and, if_false, List.append_nil]
        using known.unmarked
    · simpa only [takenOf_concat, unmarkedOf_concat, own, false_and, if_false, List.append_nil]
        using known.marked

section Sessions

variable {σ : Type} [RecordStore σ] [FaithfulStore σ] {start world : Surroundings σ}

/-- Whatever is marked and taken is known from the history. -/
theorem known_of_session (session : Session (receive channel) start history world) (id : String) :
    Known channel id (start.holdings.inbox channel id) history
      (world.holdings.inbox channel id) := by
  refine session.invariant (fun history held =>
    Known channel id (start.holdings.inbox channel id) history (held.inbox channel id)) ?_ ?_
  · exact ⟨fun _ => rfl, Nat.zero_le _, fun record held => .inl held⟩
  · intro history before entry dialogue known
    exact known.next (receiving dialogue)

/-- The marks of other channels stay as they are. -/
theorem elsewhere_of_session (session : Session (receive channel) start history world)
    {place : Channel} (other : place ≠ channel) (id : String) :
    world.holdings.inbox place id = start.holdings.inbox place id := by
  refine session.invariant
    (fun _ held => held.inbox place id = start.holdings.inbox place id) rfl ?_
  intro history before entry dialogue same
  rw [(receiving dialogue).others fun own => other own.1, same]

/-- Nothing is offered for an id that is marked, from then on. -/
theorem silent_of_session (session : Session (receive channel) start history world)
    {record : InboxRecord} (held : start.holdings.inbox channel id = some record) :
    offeredOf id history = [] := by
  refine (session.invariant
    (fun history held => held.inbox channel id = some record ∧ offeredOf id history = [])
    ⟨held, rfl⟩ ?_).2
  rintro history before entry dialogue ⟨held, silent⟩
  have receiving := receiving dialogue
  refine ⟨receiving.keeps held, ?_⟩
  by_cases own : entry.call.id = id
  · subst own
    rw [offeredOf, shownOf_concat, if_pos rfl, receiving.silent held, List.append_nil]
    exact silent
  · rw [offeredOf, shownOf_concat, if_neg own, List.append_nil]
    exact silent

/-- What the store answers to the look-up of an event. -/
def lookUp (world : Surroundings σ) (channel : Channel) (event : Event) :
    Except StoreError (Option InboxRecord) :=
  (world.backing.findInbox channel event.id).1

omit [FaithfulStore σ] in
/-- An acceptable event is looked up before anything else. -/
theorem begins_of_acceptable (world : Surroundings σ) {event : Event}
    (acceptable : Acceptable channel event) :
    Begins channel event (lookUp world channel event)
      (world.perform (receive channel) event).exchanges := by
  refine ⟨acceptable, ?_⟩
  simp only [Surroundings.perform, receive, publish, check_eq_ok.mpr acceptable, Flow.transcript]
  rfl

theorem receiving_of_perform (world : Surroundings σ) (channel : Channel) (event : Event) :
    Receiving channel event world.holdings (world.perform (receive channel) event).exchanges
      (world.perform (receive channel) event).result :=
  receiving (world.perform_dialogue (receive channel) event).1

theorem result_eq_skipped_iff (world : Surroundings σ) (event : Event) :
    (world.perform (receive channel) event).result = .ok false ↔
      Acceptable channel event ∧ (∃ found, lookUp world channel event = .ok found) ∧
        (world.holdings.inbox channel event.id).isSome := by
  have receiving := receiving_of_perform world channel event
  by_cases acceptable : Acceptable channel event
  · rcases receiving.decided (begins_of_acceptable world acceptable) with
      ⟨error, failed, result, _⟩ | ⟨record, found, held, result⟩ | ⟨_, unknown, result, _⟩
    · simp [result, failed]
    · simp [result, acceptable, found, held]
    · simp [result, unknown]
  · rcases receiving.refusal acceptable with ⟨_, error, result⟩
    simp [result, acceptable]

theorem offered_of_unmarked (world : Surroundings σ) {event : Event}
    {found : Option InboxRecord} (acceptable : Acceptable channel event)
    (answered : lookUp world channel event = .ok found)
    (unknown : world.holdings.inbox channel event.id = none) :
    offeredIn (world.perform (receive channel) event).exchanges =
      [event.message.stamped channel event.id] := by
  have receiving := receiving_of_perform world channel event
  rcases receiving.decided (begins_of_acceptable world acceptable) with
    ⟨error, failed, _⟩ | ⟨record, _, held, _⟩ | ⟨_, _, _, offered⟩
  · cases answered.symm.trans failed
  · cases unknown.symm.trans held
  · exact offered

theorem silent_of_unread (world : Surroundings σ) {event : Event} {error : StoreError}
    (acceptable : Acceptable channel event) (failed : lookUp world channel event = .error error) :
    (world.perform (receive channel) event).result = .error (.store error) ∧
      offeredIn (world.perform (receive channel) event).exchanges = [] := by
  have receiving := receiving_of_perform world channel event
  rcases receiving.decided (begins_of_acceptable world acceptable) with
    ⟨other, same, result, silent⟩ | ⟨record, found, _⟩ | ⟨found, _⟩
  · cases failed.symm.trans same
    exact ⟨result, silent⟩
  · cases failed.symm.trans found
  · cases failed.symm.trans found

/-- Events are published until they are marked. What is said of an event is said of any that
follows the history. -/
structure PublishedUntilMarked (channel : Channel) (start : Surroundings σ)
    (history : List Received) (world : Surroundings σ) : Prop where
  /-- An event is skipped if and only if it is acceptable, the store answers its look-up and a mark
  is stored. -/
  skipped : ∀ event, (world.perform (receive channel) event).result = .ok false ↔
    Acceptable channel event ∧ (∃ found, lookUp world channel event = .ok found) ∧
      (world.holdings.inbox channel event.id).isSome
  /-- Nothing is offered, written or changed for an event that is skipped. -/
  untouched : ∀ event, (world.perform (receive channel) event).result = .ok false →
    offeredIn (world.perform (receive channel) event).exchanges = [] ∧
      marksIn (world.perform (receive channel) event).exchanges = [] ∧
      (world.afterCall (receive channel) event).holdings = world.holdings
  /-- An acceptable event whose look-up the store answers is offered to the bus if no mark is
  stored. -/
  offered : ∀ event found, Acceptable channel event → lookUp world channel event = .ok found →
    world.holdings.inbox channel event.id = none →
    offeredIn (world.perform (receive channel) event).exchanges =
      [event.message.stamped channel event.id]
  /-- The failure of a look-up is passed on, and nothing is offered. -/
  unread : ∀ event error, Acceptable channel event →
    lookUp world channel event = .error error →
    (world.perform (receive channel) event).result = .error (.store error) ∧
      offeredIn (world.perform (receive channel) event).exchanges = []
  /-- An event that is not acceptable is refused without a word to the store or the bus. -/
  refused : ∀ event, ¬ Acceptable channel event →
    (world.perform (receive channel) event).exchanges = [] ∧
      ∃ error, (world.perform (receive channel) event).result = .error error
  /-- An event counts as published if and only if the bus took its message and its mark was
  saved. -/
  published : ∀ event, (world.perform (receive channel) event).result = .ok true ↔
    takenIn (world.perform (receive channel) event).exchanges ≠ [] ∧ ∃ seenAt,
      (event.mark channel seenAt, true) ∈
        marksIn (world.perform (receive channel) event).exchanges
  /-- The mark of an event that counts as published is found afterwards. -/
  marked : ∀ event, (world.perform (receive channel) event).result = .ok true → ∃ seenAt,
    (world.afterCall (receive channel) event).holdings.inbox channel event.id =
      some (event.mark channel seenAt)
  /-- A mark is written only after the bus took the message of its event. -/
  announced : ∀ event earlier record answer later,
    (world.perform (receive channel) event).exchanges =
      earlier ++ ⟨.saveInbox record, answer⟩ :: later →
      takenIn earlier ≠ [] ∧ ∃ seenAt, record = event.mark channel seenAt
  /-- Whatever is marked was marked at first, or belongs to an event whose message the bus took. -/
  source : ∀ place id record, world.holdings.inbox place id = some record →
    start.holdings.inbox place id = some record ∨
      place = channel ∧ ∃ entry ∈ history, entry.call.id = id ∧ takenIn entry.exchanges ≠ [] ∧
        ∃ seenAt, record = entry.call.mark channel seenAt
  /-- Nothing is ever offered again for an id that is marked. -/
  silent : ∀ id record, world.holdings.inbox channel id = some record →
    ∀ later last, Session (receive channel) world later last → offeredOf id later = []
  /-- The bus takes at most one message for an id, and one more for each mark of it that could not
  be saved. -/
  bounded : ∀ id, (takenOf id history).length ≤ 1 + (unmarkedOf id history).length
  /-- What is offered is the message of the event, with its origin filled in. -/
  faithful : ∀ event, ∀ message ∈ offeredIn (world.perform (receive channel) event).exchanges,
    event.message.StampOf channel event.id message

/-- Whatever the bus and the store do, events are published until they are marked. -/
theorem published_until_marked (session : Session (receive channel) start history world) :
    PublishedUntilMarked channel start history world where
  skipped := result_eq_skipped_iff world
  offered _ _ acceptable answered unknown := offered_of_unmarked world acceptable answered unknown
  unread _ _ acceptable failed := silent_of_unread world acceptable failed
  refused event unacceptable :=
    (receiving_of_perform world channel event).refusal unacceptable
  untouched := by
    intro event skipped
    rcases world.perform_dialogue (receive channel) event with ⟨dialogue, after⟩
    rw [skipped] at dialogue
    rw [after]
    exact (receiving dialogue).untouched
  published event := (receiving_of_perform world channel event).published_iff
  marked := by
    intro event published
    rcases world.perform_dialogue (receive channel) event with ⟨dialogue, after⟩
    rw [after]
    rcases (receiving dialogue).effect with ⟨_, _, _, other⟩ |
      ⟨_, _, now, ⟨error, _, _, failed⟩ | ⟨_, last, _⟩⟩
    · exact absurd published other
    · cases published.symm.trans failed
    · refine ⟨now, ?_⟩
      rw [last, Holdings.inbox_putInbox, if_pos ⟨rfl, rfl⟩]
  announced := by
    intro event earlier record answer later split
    exact (receiving_of_perform world channel event).announced split
  source := by
    intro place id record held
    by_cases here : place = channel
    · subst here
      rcases (known_of_session session id).source record held with first | told
      · exact .inl first
      · exact .inr ⟨rfl, told⟩
    · exact .inl ((elsewhere_of_session session here id).symm.trans held)
  silent := by
    intro id record held later last rest
    exact silent_of_session rest held
  bounded id := (known_of_session session id).marked
  faithful := by
    intro event message offered
    exact (receiving_of_perform world channel event).faithful offered

/-- An event arrives four times: the bus does not take it, its mark is not saved, it is published
and marked, and it is skipped. Then another one arrives twice, and is published and skipped. -/
theorem published_until_marked_redelivered :
    ∃ (start world : Surroundings MemoryStore) (history : List Received),
      Session (receive .slack) start history world ∧
      history.map (·.result) =
        [.error (.bus .closed), .error (.store .connection), .ok true, .ok false, .ok true,
          .ok false] ∧
      (takenOf "77" history).length = 2 ∧ (unmarkedOf "77" history).length = 1 ∧
      (takenOf "78" history).length = 1 ∧ PublishedUntilMarked .slack start history world := by
  let event : Event := ⟨"77", .plain "chat-message" "conversation" "greeting" [] .epoch⟩
  let events : List Event :=
    [event, event, event, event, { event with id := "78" }, { event with id := "78" }]
  let start : Surroundings MemoryStore :=
    { Surroundings.plain MemoryStore.empty .epoch with
      backing := ⟨.empty, [], fun number _ => if number = 2 then some .connection else none⟩
      publisher := fun number _ => if number = 0 then .error .closed else .ok () }
  have session := Session.of_performAll start (receive .slack) events
  have results : (start.performAll (receive .slack) events).1.map (·.result) =
      [.error (.bus .closed), .error (.store .connection), .ok true, .ok false, .ok true,
        .ok false] := by
    decide +kernel
  have taken : (takenOf "77" (start.performAll (receive .slack) events).1).length = 2 := by
    decide +kernel
  have unmarked : (unmarkedOf "77" (start.performAll (receive .slack) events).1).length = 1 := by
    decide +kernel
  have once : (takenOf "78" (start.performAll (receive .slack) events).1).length = 1 := by
    decide +kernel
  exact ⟨start, _, _, session, results, taken, unmarked, once, published_until_marked session⟩

end Sessions

end Inbound

end ConversationBus
