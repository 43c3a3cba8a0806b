import ConversationBus.Proofs.Delivery.History
import ConversationBus.Proofs.Delivery.Marks
import ConversationBus.Proofs.Delivery.Storable
import ConversationBus.Proofs.Store.Counts
import Mathlib.Data.List.Dedup

/-!
# One store in place of the other

The delivery layer cannot tell a database from a store in memory: what a flow exchanges with its
surroundings is the same on both, and the database stays the mirror of the store in memory. This
holds for every fault, outcome and clock, as long as the clock shows a year of four digits, and
wherever the database is closed and opened again. In the end both hold the same records.
-/

namespace ConversationBus

/-! ## Surroundings with another store -/

namespace FaultyStore

variable {σ τ α : Type}

def map (change : σ → τ) (backing : FaultyStore σ) : FaultyStore τ :=
  { backing with store := change backing.store }

variable {change : σ → τ} {backing : FaultyStore σ} {call : StoreCall}

/-- Where two stores answer a call alike, they do so with faults. -/
theorem attempt_map {one : σ → Except StoreError (α × σ)} {other : τ → Except StoreError (α × τ)}
    (alike : other (change backing.store) =
      (one backing.store).map fun answered => (answered.1, change answered.2)) :
    (backing.map change).attempt call other =
      ((backing.attempt call one).1, (backing.attempt call one).2.map change) := by
  simp only [attempt, map]
  split
  next => rfl
  next =>
    rw [alike]
    cases one backing.store with
    | error error => rfl
    | ok answered => rfl

theorem attempt_look_map {one : σ → Except StoreError α} {other : τ → Except StoreError α}
    (alike : other (change backing.store) = one backing.store) :
    (backing.map change).attempt call (fun store => (other store).map (·, store)) =
      ((backing.attempt call fun store => (one store).map (·, store)).1,
        (backing.attempt call fun store => (one store).map (·, store)).2.map change) := by
  refine attempt_map ?_
  rw [alike]
  cases one backing.store with
  | error error => rfl
  | ok found => rfl

theorem attempt_save_map {one : σ → Except StoreError σ} {other : τ → Except StoreError τ}
    (alike : other (change backing.store) = (one backing.store).map change) :
    (backing.map change).attempt call (fun store => (other store).map ((), ·)) =
      ((backing.attempt call fun store => (one store).map ((), ·)).1,
        (backing.attempt call fun store => (one store).map ((), ·)).2.map change) := by
  refine attempt_map ?_
  rw [alike]
  cases one backing.store with
  | error error => rfl
  | ok saved => rfl

end FaultyStore

namespace Surroundings

variable {σ τ α : Type}

def map (change : σ → τ) (world : Surroundings σ) : Surroundings τ :=
  { world with backing := world.backing.map change }

/-- The same surroundings with the mirror of the store. -/
abbrev mirror (world : Surroundings MemoryStore) : Surroundings Database :=
  world.map MemoryStore.mirror

/-- What the store keeps can be stored as rows, and so can the times of the clock. -/
structure Dated (world : Surroundings MemoryStore) : Prop where
  kept : world.backing.store.WellKept
  storable : ∀ reading, (world.clock reading).Storable

namespace Dated

variable {world : Surroundings MemoryStore} (dated : world.Dated)

include dated

/-- The mirror answers every action alike and stays the mirror. -/
theorem answer_mirror (action : Action) :
    answer action world.mirror =
      ((answer action world).1, (answer action world).2.mirror) := by
  cases action with
  | findInbox channel id =>
      exact congrArg world.mirror.withStore
        (FaultyStore.attempt_look_map (dated.kept.findInbox channel id))
  | saveInbox record =>
      exact congrArg world.mirror.withStore
        (FaultyStore.attempt_save_map (MemoryStore.saveInbox_mirror _ record))
  | findOutbox channel key =>
      exact congrArg world.mirror.withStore
        (FaultyStore.attempt_look_map (dated.kept.findOutbox channel key))
  | saveOutbox record =>
      exact congrArg world.mirror.withStore
        (FaultyStore.attempt_save_map (MemoryStore.saveOutbox_mirror _ record))
  | publish | send | now | cancelled | close => rfl

/-- What a look-up finds can be stored, and so can what the store keeps after an action. -/
theorem answer_dated {action : Action} (storable : action.Storable) :
    Exchange.Timely ⟨action, (answer action world).1⟩ ∧ (answer action world).2.Dated := by
  cases action with
  | findInbox channel id =>
      rcases world.backing.attempt_look .findInbox (RecordStore.findInbox · channel id) with
        ⟨same, told⟩
      refine ⟨?_, same.symm ▸ dated.kept, dated.storable⟩
      change Exchange.Timely ⟨.findInbox channel id, (world.backing.findInbox channel id).1⟩
      rcases told with ⟨error, failed⟩ | ⟨found, looked, told⟩
      · rw [FaultyStore.findInbox, failed]
        exact trivial
      · rw [FaultyStore.findInbox, told]
        cases found with
        | none => exact trivial
        | some record =>
            exact dated.kept.inboxStorable record (Table.mem_of_find? (Except.ok.inj looked))
  | saveInbox record =>
      refine ⟨trivial, ?_, dated.storable⟩
      rcases world.backing.attempt_save .saveInbox (RecordStore.saveInbox · record) with
        ⟨error, failed, same⟩ | ⟨told, saved⟩
      · exact same.symm ▸ dated.kept
      · exact Except.ok.inj saved ▸ dated.kept.afterInbox storable
  | findOutbox channel key =>
      rcases world.backing.attempt_look .findOutbox (RecordStore.findOutbox · channel key) with
        ⟨same, told⟩
      refine ⟨?_, same.symm ▸ dated.kept, dated.storable⟩
      change Exchange.Timely ⟨.findOutbox channel key, (world.backing.findOutbox channel key).1⟩
      rcases told with ⟨error, failed⟩ | ⟨found, looked, told⟩
      · rw [FaultyStore.findOutbox, failed]
        exact trivial
      · rw [FaultyStore.findOutbox, told]
        cases found with
        | none => exact trivial
        | some record =>
            exact dated.kept.outboxStorable record (Table.mem_of_find? (Except.ok.inj looked))
  | saveOutbox record =>
      refine ⟨trivial, ?_, dated.storable⟩
      rcases world.backing.attempt_save .saveOutbox (RecordStore.saveOutbox · record) with
        ⟨error, failed, same⟩ | ⟨told, saved⟩
      · exact same.symm ▸ dated.kept
      · exact Except.ok.inj saved ▸ dated.kept.afterOutbox storable
  | now => exact ⟨dated.storable world.readings, dated.kept, dated.storable⟩
  | publish | send | cancelled | close => exact ⟨trivial, dated.kept, dated.storable⟩

/-- A flow that saves what can be stored has the same dialogue and the same result on the mirror,
which stays the mirror. -/
theorem run_mirror {flow : Flow α} (storable : flow.Storable) :
    flow.transcript answer world.mirror = flow.transcript answer world ∧
      world.mirror.run flow = ((world.run flow).1, (world.run flow).2.mirror) ∧
      (world.run flow).2.Dated := by
  induction flow generalizing world with
  | done result => exact ⟨rfl, rfl, dated⟩
  | act action next ih =>
      rcases dated.answer_dated storable.1 with ⟨timely, later⟩
      have rest := ih (answer action world).1 later (storable.2 _ timely)
      have answered := dated.answer_mirror action
      simp only [Flow.transcript, Surroundings.run, Flow.run, answered]
      exact ⟨congrArg _ rest.1, rest.2⟩

end Dated

end Surroundings

namespace Interchange

/-! ## Requests to the delivery layer -/

/-- A call of the delivery layer: the last state of a send is asked for, a send is moved or
delivered, or an event arrives on a channel. -/
inductive Request where
  | record (channel : Channel) (key : String)
  | send (operation : Outbound.Operation)
  | receive (channel : Channel) (event : Inbound.Event)

inductive Reply where
  | record (result : Except OutboxError (Option OutboxRecord))
  | send (result : Except OutboxError OutboxRecord)
  | receive (result : Except InboundError Bool)

def Request.flow : Request → Flow Reply
  | .record channel key => (Outbound.record channel key).bind fun result => .done (.record result)
  | .send operation => operation.flow.bind fun result => .done (.send result)
  | .receive channel event =>
    (Inbound.receive channel event).bind fun result => .done (.receive result)

abbrev Served := Performed Request Reply

theorem Request.storable (request : Request) : request.flow.Storable := by
  cases request with
  | record channel key => exact (Outbound.storable_record channel key).bind fun _ => trivial
  | send operation =>
      refine Flow.Storable.bind ?_ fun _ => trivial
      cases operation with
      | startAttempt draft => exact Outbound.storable_move draft .startAttempt
      | markSent draft accepted deduped =>
          exact Outbound.storable_move draft (.markSent accepted deduped)
      | markFailed draft errorText => exact Outbound.storable_move draft (.markFailed errorText)
      | deliver draft => exact Outbound.storable_deliver draft
  | receive channel event =>
      exact (Inbound.storable_publish channel event.id event.message).bind fun _ => trivial

/-! ## A database that is closed and opened -/

/-- What happens to a store: a call is made, or it is closed and opened again. -/
inductive Event where
  | request (request : Request)
  | reopen

def requestsIn : List Event → List Request
  | [] => []
  | .request request :: later => request :: requestsIn later
  | .reopen :: later => requestsIn later

/-- The surroundings when the database was written to a file and read from it. Nothing is held if
the file cannot be read. -/
def reopened (world : Surroundings Database) : Surroundings Database :=
  world.map fun database => (Database.ofFile? database.toFile).getD .empty

/-- Lets events happen to a database one after the other. -/
def serve (world : Surroundings Database) : List Event → List Served × Surroundings Database
  | [] => ([], world)
  | .request request :: later =>
    let (served, last) := serve (world.afterCall Request.flow request) later
    (world.perform Request.flow request :: served, last)
  | .reopen :: later => serve (reopened world) later

theorem reopened_mirror {world : Surroundings MemoryStore} (dated : world.Dated) :
    reopened world.mirror = world.mirror := by
  have back : Database.ofFile? world.backing.store.mirror.toFile =
      some world.backing.store.mirror := Database.ofFile?_toFile dated.kept.keyed
  simp only [reopened, Surroundings.mirror, Surroundings.map, FaultyStore.map, back,
    Option.getD_some]

/-- Calls are served alike on the mirror, whenever it is closed and opened. -/
theorem serve_mirror {world : Surroundings MemoryStore} (dated : world.Dated)
    (events : List Event) :
    let last := world.performAll Request.flow (requestsIn events)
    serve world.mirror events = (last.1, last.2.mirror) ∧ last.2.Dated := by
  induction events generalizing world with
  | nil => exact ⟨rfl, dated⟩
  | cons event events ih =>
      cases event with
      | reopen =>
          rw [serve, reopened_mirror dated]
          exact ih dated
      | request request =>
          rcases dated.run_mirror request.storable with ⟨transcript, run, later⟩
          have performed : world.mirror.perform Request.flow request =
              world.perform Request.flow request := by
            simp only [Surroundings.perform, transcript, run]
          have after : world.mirror.afterCall Request.flow request =
              (world.afterCall Request.flow request).mirror := by
            simp only [Surroundings.afterCall, run]
          rcases ih later with ⟨served, last⟩
          simp only [serve, requestsIn, Surroundings.performAll, performed, after]
          exact ⟨by rw [Surroundings.afterCall, served], last⟩

/-! ## Sends that were begun -/

/-- The send of which an attempt was saved. -/
def begun? : Exchange → Option SendIdentity
  | ⟨.saveOutbox record, .ok ()⟩ =>
    if record.status = .pending then some record.identity else none
  | _ => none

/-- The sends of which an attempt was saved, once for each attempt. -/
def begunIn (history : List Served) : List SendIdentity :=
  history.flatMap fun entry => entry.exchanges.filterMap begun?

/-- The sends that the store has a record of are those that it had one of before, and those that
were begun. -/
def Begins (before : Holdings) (exchanges : List Exchange) : Prop :=
  ∀ identity, ((before.afterAll exchanges).outbox identity).isSome ↔
    (before.outbox identity).isSome ∨ identity ∈ exchanges.filterMap begun?

theorem begins_of_saves {draft : OutboxDraft} {transition : Transition} {time : Option Instant}
    {before : Holdings} {exchanges : List Exchange}
    (saves : Outbound.SavesMoves draft transition time before exchanges) :
    Begins before exchanges := by
  intro identity
  induction saves with
  | done => simp
  | looked rest ih | read rest ih | sent rest ih | unsaved rest ih => exact ih
  | @saved transition before exchanges now next applied rest ih =>
      have moves := (moves_of_applied applied).2
      refine ih.trans ?_
      by_cases pending : next.status = .pending
      · have begun : begun? ⟨.saveOutbox next, .ok ()⟩ = some next.identity := if_pos pending
        rw [List.filterMap_cons_some begun, List.mem_cons, Holdings.outbox_putOutbox]
        split
        next same => simp [same]
        next other => simp [other]
      · have silent : begun? ⟨.saveOutbox next, .ok ()⟩ = none := if_neg pending
        rw [List.filterMap_cons_none silent, Holdings.outbox_putOutbox]
        split
        next same =>
          -- A move that begins no attempt leads on from a record.
          have known : (before.outbox identity).isSome := by
            rw [same, moves.identity]
            cases held : before.outbox draft.identity with
            | some record => rfl
            | none =>
                rw [held] at moves
                cases moves with
                | first => exact absurd rfl pending
          simp [known]
        next => rfl

theorem Request.begins {request : Request} {before : Holdings} {exchanges : List Exchange}
    {result : Reply} (dialogue : request.flow.Dialogue before exchanges result) :
    Begins before exchanges := by
  cases request with
  | record channel key =>
      rcases Flow.dialogue_act.mp dialogue with ⟨answer, rest, rfl, _, dialogue⟩
      cases answer with
      | error error =>
          rcases Flow.dialogue_done.mp dialogue with ⟨rfl, _⟩
          simp [Begins, Holdings.afterAll, Holdings.after, begun?]
      | ok found =>
          rcases Flow.dialogue_done.mp dialogue with ⟨rfl, _⟩
          simp [Begins, Holdings.afterAll, Holdings.after, begun?]
  | send operation =>
      rcases Flow.dialogue_bind.mp dialogue with ⟨first, last, held, rfl, called, rest⟩
      rcases Flow.dialogue_done.mp rest with ⟨rfl, _⟩
      rw [List.append_nil]
      exact begins_of_saves (Outbound.Operation.savesMoves called)
  | receive channel event =>
      rcases Flow.dialogue_bind.mp dialogue with ⟨first, last, held, rfl, called, rest⟩
      rcases Flow.dialogue_done.mp rest with ⟨rfl, _⟩
      rw [List.append_nil]
      cases Inbound.receiving called with
      | refused | unread | known | untaken | unmarked | marked =>
          simp [Begins, Holdings.afterAll, Holdings.after, Holdings.putInbox, begun?]

/-- On a store that is empty at first, the sends that it has a record of are those begun. -/
theorem begun_of_session {σ : Type} [RecordStore σ] [FaithfulStore σ]
    {start world : Surroundings σ} {history : List Served} (empty : start.holdings = .empty)
    (session : Session Request.flow start history world) (identity : SendIdentity) :
    (world.holdings.outbox identity).isSome ↔ identity ∈ begunIn history := by
  refine session.invariant
    (fun history held => (held.outbox identity).isSome ↔ identity ∈ begunIn history) ?_ ?_
  · simp [empty, Holdings.empty, begunIn]
  · intro history before entry dialogue known
    rw [Request.begins dialogue identity, known]
    simp [begunIn]

/-- The records of a store that is well kept are as many as the sends begun. -/
theorem length_records {world : Surroundings MemoryStore} {history : List Served}
    (kept : world.backing.store.WellKept)
    (begun : ∀ identity, (world.holdings.outbox identity).isSome ↔ identity ∈ begunIn history) :
    world.backing.store.outbox.values.length = (begunIn history).dedup.length := by
  let store := world.backing.store
  let identityOf : Channel × String → SendIdentity := fun key => ⟨key.1, key.2⟩
  have injective : Function.Injective identityOf := by
    rintro ⟨channel, key⟩ ⟨other, otherKey⟩ same
    cases same
    rfl
  have identities : ((store.outbox.rows.map (·.1)).map identityOf).Perm (begunIn history).dedup := by
    refine (List.perm_ext_iff_of_nodup (kept.outboxKeyed.once.map injective)
      (List.nodup_dedup _)).mpr ?_
    rintro ⟨channel, key⟩
    rw [List.mem_dedup, ← begun ⟨channel, key⟩]
    have listed : identityOf (channel, key) ∈ (store.outbox.rows.map (·.1)).map identityOf ↔
        (channel, key) ∈ store.outbox.rows.map (·.1) := List.mem_map_of_injective injective
    exact listed.trans Table.find?_isSome_iff.symm
  have same := identities.length_eq
  rw [List.length_map, List.length_map] at same
  rw [Table.values, List.length_map, same]

/-! ## The same on both stores -/

/-- What a store in memory and a database have in common after the same requests: every call was
answered alike, look-ups find the same, all rows can be read and pass the checks of the schema, and
each status is counted as often as it is found in memory, all of them together as often as sends
were begun. -/
structure Alike (memory : List Served × Surroundings MemoryStore)
    (database : List Served × Surroundings Database) : Prop where
  served : database.1 = memory.1
  findInbox : ∀ channel id, RecordStore.findInbox database.2.backing.store channel id =
    RecordStore.findInbox memory.2.backing.store channel id
  findOutbox : ∀ channel key, RecordStore.findOutbox database.2.backing.store channel key =
    RecordStore.findOutbox memory.2.backing.store channel key
  inboxRecords : database.2.backing.store.inbox.values.mapM InboxRow.record =
    .ok memory.2.backing.store.inbox.values
  outboxRecords : database.2.backing.store.outbox.values.mapM OutboxRow.record =
    .ok memory.2.backing.store.outbox.values
  inboxChecked : ∀ row ∈ database.2.backing.store.inbox.values,
    checkMember true storedChannels row.channel = .ok ()
  outboxChecked : ∀ row ∈ database.2.backing.store.outbox.values,
    checkMember true storedChannels row.channel = .ok () ∧
      checkMember true storedStatuses row.status = .ok ()
  counted : ∃ counts, database.2.backing.store.countByStatus = .ok counts ∧
    StatusCounts memory.2.backing.store.outbox.values counts ∧
    (counts.map (·.2)).sum = (begunIn memory.1).dedup.length

variable {start : Surroundings MemoryStore}

/-- A database can take the place of a store in memory. Whatever is asked of the delivery layer,
whatever fails and whenever the database is closed and opened, both are alike in the end, as long as
the clock shows a year of four digits, and leap seconds at the end of a minute only. -/
theorem stores_interchangeable (empty : start.backing.store = .empty)
    (storable : ∀ reading, (start.clock reading).Storable) (events : List Event) :
    Alike (start.performAll Request.flow (requestsIn events))
      (serve (start.map fun _ => .empty) events) := by
  have dated : start.Dated := ⟨empty ▸ MemoryStore.wellKept_empty, storable⟩
  have mirrored : (start.map fun _ => Database.empty) = start.mirror := by
    simp only [Surroundings.mirror, Surroundings.map, FaultyStore.map, empty]
    rfl
  have holdings : start.holdings = .empty := by
    change start.backing.store.holdings = .empty
    rw [empty]
    rfl
  rcases serve_mirror dated events with ⟨served, last⟩
  have begun := begun_of_session holdings
    (Session.of_performAll start Request.flow (requestsIn events))
  rcases MemoryStore.countByStatus_mirror
    (start.performAll Request.flow (requestsIn events)).2.backing.store with
    ⟨counts, told, counted⟩
  rw [mirrored, served]
  exact {
    served := rfl
    findInbox := last.kept.findInbox
    findOutbox := last.kept.findOutbox
    inboxRecords := last.kept.inboxRecords
    outboxRecords := last.kept.outboxRecords
    inboxChecked := MemoryStore.inboxChecked _
    outboxChecked := MemoryStore.outboxChecked _
    counted := ⟨counts, told, counted, counted.total.trans (length_records last.kept begun)⟩ }

/-- An event arrives twice, one send is begun again after a failure and another one is delivered.
One call of the store fails, the clock shows a leap second, and the database is opened again before
each repetition. -/
theorem stores_interchangeable_reopened :
    ∃ (start : Surroundings MemoryStore) (events : List Event),
      start.backing.store = .empty ∧ (∀ reading, (start.clock reading).Storable) ∧
      events.length = 9 ∧
      begunIn (start.performAll Request.flow (requestsIn events)).1 =
        [⟨.slack, "greeting"⟩, ⟨.slack, "greeting"⟩, ⟨.peer, "share"⟩] ∧
      Alike (start.performAll Request.flow (requestsIn events))
        (serve (start.map fun _ => .empty) events) := by
  let draft : OutboxDraft :=
    { channel := .slack, idempotencyKey := "greeting", contactId := some "contact", peerId := none,
      itemId := none, contentType := none, payload := [0, 34, 255] }
  let event : Inbound.Event :=
    ⟨"1182736450001", .plain "dm-checkin" "slack:dm:7" "checkin-1" [] .epoch⟩
  let events : List Event := [
    .request (.receive .slack event), .reopen, .request (.receive .slack event),
    .request (.send (.startAttempt draft)), .request (.send (.markFailed draft "late")), .reopen,
    .request (.send (.startAttempt draft)),
    .request (.send (.deliver { draft with channel := .peer, idempotencyKey := "share" })),
    .request (.record .slack "greeting")]
  let leapSecond : Instant := ⟨⟨2016, 12, 31⟩, 86399, 1500000000, by decide⟩
  let start : Surroundings MemoryStore :=
    { Surroundings.plain MemoryStore.empty leapSecond with
      backing := ⟨.empty, [], fun number _ => if number = 1 then some .connection else none⟩ }
  have shown : leapSecond.Storable := by decide
  have storable : ∀ reading, (start.clock reading).Storable := fun _ => shown
  have begun : begunIn (start.performAll Request.flow (requestsIn events)).1 =
      [⟨.slack, "greeting"⟩, ⟨.slack, "greeting"⟩, ⟨.peer, "share"⟩] := by
    decide +kernel
  exact ⟨start, events, rfl, storable, rfl, begun, stores_interchangeable rfl storable events⟩

end Interchange

end ConversationBus
