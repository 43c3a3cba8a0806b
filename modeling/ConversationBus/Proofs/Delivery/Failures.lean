import ConversationBus.Proofs.Store.Interchange
import ConversationBus.Proofs.Store.Places

/-!
# What a failed call leaves behind

A call of the delivery layer that fails leaves the store as it was, so it can be made again. There
is one exception: a delivery whose attempt was saved leaves the record of that attempt, which is
what keeps the send from being repeated unseen. This is so for every store, whichever of its calls
fail, and whatever the bus and the platform answer.
-/

namespace ConversationBus

/-! ## What is saved -/

def Exchange.saved? : Exchange → Option (InboxRecord ⊕ OutboxRecord)
  | ⟨.saveInbox record, .ok ()⟩ => some (.inl record)
  | ⟨.saveOutbox record, .ok ()⟩ => some (.inr record)
  | _ => none

def savedIn (exchanges : List Exchange) : List (InboxRecord ⊕ OutboxRecord) :=
  exchanges.filterMap Exchange.saved?

section Told

variable {σ α : Type} [RecordStore σ]

/-- The exchanges of a flow with a store, and the store in the end. -/
def Told : σ → List Exchange → σ → Prop
  | store, [], last => last = store
  | store, exchange :: later, last => ∃ next, exchange.ToldBy store next ∧ Told next later last

def saveRecord (store : σ) : InboxRecord ⊕ OutboxRecord → Except StoreError σ
  | .inl record => RecordStore.saveInbox store record
  | .inr record => RecordStore.saveOutbox store record

theorem Exchange.ToldBy.saved {store next : σ} {exchange : Exchange}
    (told : exchange.ToldBy store next) :
    exchange.saved?.toList.foldlM saveRecord store = .ok next := by
  obtain ⟨action, answer⟩ := exchange
  cases action with
  | findInbox channel id | findOutbox channel key =>
      cases answer with
      | error error => exact congrArg Except.ok told.symm
      | ok found => exact congrArg Except.ok told.2.symm
  | saveInbox record | saveOutbox record =>
      cases answer with
      | error error => exact congrArg Except.ok told.symm
      | ok => simpa [Exchange.saved?, saveRecord, Exchange.ToldBy] using told
  | publish | send | now | cancelled | close => exact congrArg Except.ok told.symm

/-- A store changes by what is saved, and by nothing else. -/
theorem Told.saved {store last : σ} {exchanges : List Exchange} (told : Told store exchanges last) :
    (savedIn exchanges).foldlM saveRecord store = .ok last := by
  induction exchanges generalizing store with
  | nil => exact congrArg Except.ok told.symm
  | cons exchange later ih =>
      rcases told with ⟨next, first, rest⟩
      have apart : savedIn (exchange :: later) = exchange.saved?.toList ++ savedIn later := by
        rw [savedIn, List.filterMap_cons]
        cases exchange.saved? with
        | none => rfl
        | some record => rfl
      rw [apart, List.foldlM_append, first.saved]
      exact ih rest

/-- A flow that is run comes to its end with what the store tells. -/
theorem Surroundings.run_told (world : Surroundings σ) (flow : Flow α) :
    flow.Leads (flow.transcript answer world) (.done (world.run flow).1) ∧
      Told world.backing.store (flow.transcript answer world)
        (world.run flow).2.backing.store := by
  induction flow generalizing world with
  | done result => exact ⟨.refl _, rfl⟩
  | act action next ih =>
      rcases ih _ (answer action world).2 with ⟨leads, told⟩
      exact ⟨.act _ leads, _, world.answer_told action, told⟩

end Told

theorem mem_savedIn {exchanges : List Exchange} {record : OutboxRecord}
    (member : ⟨.saveOutbox record, .ok ()⟩ ∈ exchanges) : .inr record ∈ savedIn exchanges :=
  List.mem_filterMap.mpr ⟨_, member, rfl⟩

/-! ## How operations end -/

variable {exchanges : List Exchange}

/-- Exchanges by which nothing is saved and nothing is sent. -/
structure Harmless (exchanges : List Exchange) : Prop where
  saved : savedIn exchanges = []
  sent : sendsIn exchanges = []

namespace Outbound

variable {draft : OutboxDraft} {transition : Transition}
  {result : Except OutboxError OutboxRecord}

/-- A move that ends has failed and done nothing, or its record was saved last of all. -/
theorem move_ends (leads : (move draft transition).Leads exchanges (.done result)) :
    (∃ error, result = .error error) ∧ Harmless exchanges ∨
      ∃ current now next, applyTransition current draft transition now = .ok next ∧
        result = .ok next ∧ exchanges =
          [lookUp draft (.ok current), ⟨.now, now⟩, ⟨.saveOutbox next, .ok ()⟩] := by
  rcases Flow.leads_act.mp leads with ⟨current | current, _, rfl, looked⟩
  · rcases Flow.leads_done.mp looked with ⟨rfl, rfl⟩
    exact .inl ⟨⟨_, rfl⟩, rfl, rfl⟩
  · rcases Flow.leads_act.mp looked with ⟨now, _, rfl, timed⟩
    split at timed
    next error refused =>
      rcases Flow.leads_done.mp timed with ⟨rfl, rfl⟩
      exact .inl ⟨⟨_, rfl⟩, rfl, rfl⟩
    next next applied =>
      rcases Flow.leads_act.mp timed with ⟨failure | ⟨⟨⟩⟩, _, rfl, saved⟩
      · rcases Flow.leads_done.mp saved with ⟨rfl, rfl⟩
        exact .inl ⟨⟨_, rfl⟩, rfl, rfl⟩
      · rcases Flow.leads_done.mp saved with ⟨rfl, rfl⟩
        exact .inr ⟨current, now, next, applied, rfl, rfl⟩

theorem harmless_of_move {error : OutboxError}
    (leads : (move draft transition).Leads exchanges (.done (.error error))) :
    Harmless exchanges := by
  rcases move_ends leads with ⟨-, harmless⟩ | ⟨_, _, _, _, succeeded, _⟩
  · exact harmless
  · cases succeeded

/-- A delivery that fails has done nothing, or its attempt was saved and then the send was run. -/
theorem deliver_ends {error : OutboxError}
    (leads : (deliver draft).Leads exchanges (.done (.error error))) :
    Harmless exchanges ∨ ∃ known current now first outcome later,
      applyTransition current draft .startAttempt now = .ok first ∧ Harmless later ∧
        exchanges = [lookUp draft (.ok known), lookUp draft (.ok current), ⟨.now, now⟩,
          ⟨.saveOutbox first, .ok ()⟩] ++ ⟨.send, outcome⟩ :: later := by
  rcases Flow.leads_act.mp leads with ⟨known | known, later, rfl, looked⟩
  · rcases Flow.leads_done.mp looked with ⟨rfl, -⟩
    exact .inl ⟨rfl, rfl⟩
  · have attempted : (attempt draft).Leads later (.done (.error error)) := by
      cases known with
      | none => exact looked
      | some held =>
          dsimp only at looked
          split at looked
          next => cases (Flow.leads_done.mp looked).2
          next => exact looked
    rcases Flow.leads_bind.mp attempted with ⟨front, back, begun, rfl, begins, goesOn⟩
    rcases move_ends begins with
      ⟨⟨failure, rfl⟩, harmless⟩ | ⟨current, now, first, applied, rfl, rfl⟩
    · rcases Flow.leads_done.mp goesOn with ⟨rfl, -⟩
      rw [List.append_nil]
      exact .inl ⟨harmless.saved, harmless.sent⟩
    · rcases Flow.leads_act.mp goesOn with ⟨outcome, later, rfl, closes⟩
      have closed : Harmless later := by
        cases outcome with
        | ok receipt => exact harmless_of_move closes
        | error failure => exact harmless_of_move closes
      exact .inr ⟨known, current, now, first, outcome, later, applied, closed, rfl⟩

end Outbound

namespace Inbound

/-- An event that is not published has changed nothing, and if the bus took its message, then its
mark could not be saved. -/
theorem receive_ends {channel : Channel} {event : Event} {error : InboundError}
    (leads : (receive channel event).Leads exchanges (.done (.error error))) :
    Harmless exchanges ∧ (takenIn exchanges = [] ∨ ∃ earlier seenAt failure,
      exchanges = earlier ++ [⟨.saveInbox (event.mark channel seenAt), .error failure⟩] ∧
        error = .store failure) := by
  simp only [receive, publish] at leads
  split at leads
  next =>
    rcases Flow.leads_done.mp leads with ⟨rfl, -⟩
    exact ⟨⟨rfl, rfl⟩, .inl rfl⟩
  next =>
    rcases Flow.leads_act.mp leads with ⟨found | found, _, rfl, looked⟩
    · rcases Flow.leads_done.mp looked with ⟨rfl, -⟩
      exact ⟨⟨rfl, rfl⟩, .inl rfl⟩
    · cases found with
      | some record => cases (Flow.leads_done.mp looked).2
      | none =>
          rcases Flow.leads_act.mp looked with ⟨refusal | ⟨⟨⟩⟩, _, rfl, offered⟩
          · rcases Flow.leads_done.mp offered with ⟨rfl, -⟩
            exact ⟨⟨rfl, rfl⟩, .inl rfl⟩
          · rcases Flow.leads_act.mp offered with ⟨seenAt, _, rfl, timed⟩
            rcases Flow.leads_act.mp timed with ⟨failure | ⟨⟨⟩⟩, _, rfl, saved⟩
            · rcases Flow.leads_done.mp saved with ⟨rfl, same⟩
              cases same
              exact ⟨⟨rfl, rfl⟩, .inr ⟨[_, _, _], seenAt, failure, rfl, rfl⟩⟩
            · cases (Flow.leads_done.mp saved).2

end Inbound

/-! ## Failed calls -/

namespace Interchange

/-- Whether a call succeeded. -/
def Reply.isOk : Reply → Bool
  | .record result => result.isOk
  | .send result => result.isOk
  | .receive result => result.isOk

section Failed

variable {σ κ ρ τ : Type} [DecidableEq κ] [RecordStore σ] [TableStore σ κ ρ τ]

/-- A store after a delivery of which nothing but the attempt was saved: it has the pending record
of that attempt in the place of the send, and is otherwise the store before it. -/
structure Attempted (draft : OutboxDraft) (first : OutboxRecord) (before after : σ) : Prop where
  begun : ∃ current now,
    RecordStore.findOutbox before draft.channel draft.idempotencyKey = .ok current ∧
      applyTransition current draft .startAttempt now = .ok first
  pending : first.status = .pending
  identity : first.identity = draft.identity
  saved : RecordStore.saveOutbox before first = .ok after
  row : (TableStore.outbox after).find? (TableStore.key σ draft.channel draft.idempotencyKey) =
    some (TableStore.outboxRow σ first)
  others : ∀ key, key ≠ TableStore.key σ draft.channel draft.idempotencyKey →
    (TableStore.outbox after).rowsAt key = (TableStore.outbox before).rowsAt key
  events : TableStore.inbox after = TableStore.inbox before

/-- What a call that failed has done to the store and to the world outside. -/
structure Spared (request : Request) (exchanges : List Exchange) (reply : Reply)
    (before after : σ) : Prop where
  /-- The store is as it was, unless a delivery saved its attempt. -/
  unchanged : (∀ draft first, request = .send (.deliver draft) →
    ⟨.saveOutbox first, .ok ()⟩ ∉ exchanges) → after = before
  /-- A delivery whose attempt was saved leaves the record of that attempt and nothing else. -/
  attempted : ∀ draft first, request = .send (.deliver draft) →
    ⟨.saveOutbox first, .ok ()⟩ ∈ exchanges → Attempted draft first before after
  /-- The bus took the message of an event only if its mark could not be saved, which is the
  error. -/
  taken : ∀ channel event, request = .receive channel event → takenIn exchanges ≠ [] →
    ∃ earlier seenAt failure,
      exchanges = earlier ++ [⟨.saveInbox (event.mark channel seenAt), .error failure⟩] ∧
        reply = .receive (.error (.store failure))
  /-- A send ran only if it was the send of a delivery whose attempt was saved before. -/
  sent : ∀ earlier outcome later, exchanges = earlier ++ ⟨.send, outcome⟩ :: later →
    ∃ draft first, request = .send (.deliver draft) ∧ ⟨.saveOutbox first, .ok ()⟩ ∈ earlier

theorem attempted_of_saved {draft : OutboxDraft} {current : Option OutboxRecord} {now : Instant}
    {first : OutboxRecord} {before after : σ}
    (looked : RecordStore.findOutbox before draft.channel draft.idempotencyKey = .ok current)
    (applied : applyTransition current draft .startAttempt now = .ok first)
    (saved : RecordStore.saveOutbox before first = .ok after) :
    Attempted draft first before after := by
  have moves := (moves_of_applied applied).2
  have own : TableStore.key σ first.channel first.idempotencyKey =
      TableStore.key σ draft.channel draft.idempotencyKey := by
    have same := moves.identity
    rw [OutboxRecord.identity, OutboxDraft.identity, SendIdentity.mk.injEq] at same
    rw [same.1, same.2]
  rcases TableStore.saveOutbox_eq before first with ⟨next, stored, events, sends⟩
  cases saved.symm.trans stored
  rw [own] at sends
  exact {
    begun := ⟨current, now, looked, applied⟩
    pending := moves.status
    identity := moves.identity
    saved
    row := by rw [sends, Table.find?_put, if_pos rfl]
    others := fun key other => by rw [sends, Table.rowsAt_put, if_neg other]
    events }

theorem spared_of_harmless {request : Request} {exchanges : List Exchange} {reply : Reply}
    {before after : σ} (told : Told before exchanges after) (harmless : Harmless exchanges)
    (taken : ∀ channel event, request = .receive channel event → takenIn exchanges ≠ [] →
      ∃ earlier seenAt failure,
        exchanges = earlier ++ [⟨.saveInbox (event.mark channel seenAt), .error failure⟩] ∧
          reply = .receive (.error (.store failure))) :
    Spared request exchanges reply before after where
  unchanged _ := by
    have saved := told.saved
    rw [harmless.saved] at saved
    exact (Except.ok.inj saved).symm
  attempted _ _ _ member := by
    have saved := mem_savedIn member
    rw [harmless.saved] at saved
    cases saved
  taken
  sent _ _ _ split := by
    have sent := sendsIn_of_split split
    rw [harmless.sent] at sent
    cases sent

/-- A delivery that fails after its attempt was saved leaves that attempt. -/
theorem spared_of_attempt {draft : OutboxDraft} {known current : Option OutboxRecord}
    {now : Instant} {first : OutboxRecord} {outcome : Except SendFailure SendReceipt}
    {later : List Exchange} {reply : Reply} {before after : σ}
    (applied : applyTransition current draft .startAttempt now = .ok first)
    (harmless : Harmless later)
    (told : Told before ([Outbound.lookUp draft (.ok known), Outbound.lookUp draft (.ok current),
      ⟨.now, now⟩, ⟨.saveOutbox first, .ok ()⟩] ++ ⟨.send, outcome⟩ :: later) after) :
    Spared (.send (.deliver draft)) ([Outbound.lookUp draft (.ok known),
      Outbound.lookUp draft (.ok current), ⟨.now, now⟩, ⟨.saveOutbox first, .ok ()⟩] ++
        ⟨.send, outcome⟩ :: later) reply before after := by
  have one : savedIn ([Outbound.lookUp draft (.ok known), Outbound.lookUp draft (.ok current),
      ⟨.now, now⟩, ⟨.saveOutbox first, .ok ()⟩] ++ ⟨.send, outcome⟩ :: later) = [.inr first] := by
    show .inr first :: savedIn later = [.inr first]
    rw [harmless.saved]
  have saved : RecordStore.saveOutbox before first = .ok after := by
    have saved := told.saved
    rw [one] at saved
    simpa [saveRecord] using saved
  have looked : RecordStore.findOutbox before draft.channel draft.idempotencyKey = .ok current := by
    rcases told with ⟨_, ⟨-, rfl⟩, _, ⟨looked, -⟩, -⟩
    exact looked
  refine {
    unchanged := fun unsaved => absurd (List.mem_append_left _ (by simp)) (unsaved draft first rfl)
    attempted := ?_
    taken := fun _ _ other => nomatch other
    sent := ?_ }
  · intro other record same member
    cases same
    have member := mem_savedIn member
    rw [one, List.mem_singleton] at member
    cases member
    exact attempted_of_saved looked applied saved
  · intro earlier other rest split
    rcases eq_front_of_split Exchange.outcome? rfl harmless.sent rfl split with ⟨rfl, -⟩
    exact ⟨draft, first, rfl, by simp⟩

/-- A call that fails leaves the store as it was, or with the attempt of a delivery; the bus took a
message and a send ran only where the store tells why. -/
theorem failed_call_is_spared (world : Surroundings σ) (request : Request)
    (failed : (world.perform Request.flow request).result.isOk = false) :
    Spared request (world.perform Request.flow request).exchanges
      (world.perform Request.flow request).result world.backing.store
      (world.afterCall Request.flow request).backing.store := by
  rcases world.run_told request.flow with ⟨leads, told⟩
  change request.flow.Leads (world.perform Request.flow request).exchanges
    (.done (world.perform Request.flow request).result) at leads
  change Told world.backing.store (world.perform Request.flow request).exchanges
    (world.afterCall Request.flow request).backing.store at told
  generalize (world.perform Request.flow request).exchanges = exchanges at *
  generalize (world.perform Request.flow request).result = reply at *
  generalize (world.afterCall Request.flow request).backing.store = after at *
  cases request with
  | record channel key =>
      rcases Flow.leads_bind.mp leads with ⟨first, _, _, rfl, looks, ends⟩
      rcases Flow.leads_done.mp ends with ⟨rfl, rfl⟩
      rw [List.append_nil] at told ⊢
      refine spared_of_harmless told ?_ fun _ _ other => nomatch other
      rcases Flow.leads_act.mp looks with ⟨error | found, _, rfl, looked⟩
      · rcases Flow.leads_done.mp looked with ⟨rfl, -⟩
        exact ⟨rfl, rfl⟩
      · rcases Flow.leads_done.mp looked with ⟨rfl, -⟩
        exact ⟨rfl, rfl⟩
  | send operation =>
      rcases Flow.leads_bind.mp leads with ⟨first, _, result, rfl, called, ends⟩
      rcases Flow.leads_done.mp ends with ⟨rfl, rfl⟩
      rw [List.append_nil] at told ⊢
      cases result with
      | ok record => cases failed
      | error error =>
          cases operation with
          | startAttempt draft | markSent draft accepted deduped | markFailed draft errorText =>
              exact spared_of_harmless told (Outbound.harmless_of_move called)
                fun _ _ other => nomatch other
          | deliver draft =>
              rcases Outbound.deliver_ends called with
                harmless | ⟨known, current, now, begun, outcome, later, applied, closed, rfl⟩
              · exact spared_of_harmless told harmless fun _ _ other => nomatch other
              · exact spared_of_attempt applied closed told
  | receive channel event =>
      rcases Flow.leads_bind.mp leads with ⟨first, _, result, rfl, called, ends⟩
      rcases Flow.leads_done.mp ends with ⟨rfl, rfl⟩
      rw [List.append_nil] at told ⊢
      cases result with
      | ok published => cases failed
      | error error =>
          rcases Inbound.receive_ends called with ⟨harmless, reason⟩
          refine spared_of_harmless told harmless ?_
          rintro _ _ ⟨rfl, rfl⟩ taken
          rcases reason with none | ⟨earlier, seenAt, failure, split, rfl⟩
          · exact absurd none taken
          · exact ⟨earlier, seenAt, failure, split, rfl⟩

end Failed

/-- A send runs and its outcome is not saved, so the attempt stays pending; an event is published
and its mark is not saved, so nothing is marked. -/
theorem failed_call_is_spared_unsaved :
    ∃ (memory : Surroundings MemoryStore) (draft : OutboxDraft) (database : Surroundings Database)
      (event : Inbound.Event),
      let delivery := Request.send (.deliver draft)
      let arrival := Request.receive .slack event
      (memory.perform Request.flow delivery).result.isOk = false ∧
      sendsIn (memory.perform Request.flow delivery).exchanges = [.ok ⟨true, false⟩] ∧
      (memory.afterCall Request.flow delivery).backing.store.outbox.values.map (·.status) =
        [.pending] ∧
      Spared delivery (memory.perform Request.flow delivery).exchanges
        (memory.perform Request.flow delivery).result memory.backing.store
        (memory.afterCall Request.flow delivery).backing.store ∧
      (database.perform Request.flow arrival).result.isOk = false ∧
      takenIn (database.perform Request.flow arrival).exchanges ≠ [] ∧
      Spared arrival (database.perform Request.flow arrival).exchanges
        (database.perform Request.flow arrival).result database.backing.store
        (database.afterCall Request.flow arrival).backing.store := by
  let draft : OutboxDraft :=
    { channel := .slack, idempotencyKey := "greeting", contactId := none, peerId := none,
      itemId := none, contentType := none, payload := [] }
  let event : Inbound.Event := ⟨"77", .plain "chat-message" "conversation" "greeting" [] .epoch⟩
  let memory : Surroundings MemoryStore :=
    { Surroundings.plain MemoryStore.empty .epoch with
      backing := ⟨.empty, [], fun number _ => if number = 4 then some .connection else none⟩ }
  let database : Surroundings Database :=
    { Surroundings.plain Database.empty .epoch with
      backing := ⟨.empty, [], fun number _ => if number = 1 then some .connection else none⟩ }
  have undelivered :
      (memory.perform Request.flow (.send (.deliver draft))).result.isOk = false := by
    decide +kernel
  have sent : sendsIn (memory.perform Request.flow (.send (.deliver draft))).exchanges =
      [.ok ⟨true, false⟩] := by
    decide +kernel
  have pending : (memory.afterCall Request.flow
      (.send (.deliver draft))).backing.store.outbox.values.map (·.status) = [.pending] := by
    decide +kernel
  have unmarked :
      (database.perform Request.flow (.receive .slack event)).result.isOk = false := by
    decide +kernel
  have taken : takenIn (database.perform Request.flow (.receive .slack event)).exchanges ≠ [] := by
    decide +kernel
  exact ⟨memory, draft, database, event, undelivered, sent, pending,
    failed_call_is_spared memory _ undelivered, unmarked, taken,
    failed_call_is_spared database _ unmarked⟩

end Interchange

end ConversationBus
