import ConversationBus.Proofs.Delivery.Moves
import Mathlib.Data.List.Pairwise
import Mathlib.Data.Prod.Lex
import Mathlib.Order.Lattice

/-!
# A record is the account of its moves

The moves of the outbox and whole deliveries are called one after another on a store that may fail
at any call. Every move that is saved is noted with its draft and its time. What the store holds of
a send is at every moment what these notes prescribe: each part of the record is read off the first
attempt, the latest attempt or the last move, and nothing else has a say in it.
-/

namespace ConversationBus

namespace Instant

/-- The parts of an instant, compared one after another. -/
def orderKey (instant : Instant) : Int ×ₗ Nat ×ₗ Nat ×ₗ Nat ×ₗ Nat :=
  let (year, month, day, second, nanosecond) := instant.sortKey
  toLex (year, toLex (month, toLex (day, toLex (second, nanosecond))))

theorem orderKey_injective : Function.Injective orderKey := by
  rintro ⟨⟨year, month, day⟩, second, nanosecond, _⟩ ⟨⟨_, _, _⟩, _, _, _⟩ same
  cases same
  rfl

/-- Instants are ordered by their parts. -/
instance : LinearOrder Instant :=
  LinearOrder.lift' orderKey orderKey_injective

end Instant

namespace Transition

/-- What the platform said in a move: that it took the send, and that it had seen it before. -/
def flags : Transition → Bool × Bool
  | .markSent accepted deduped => (accepted, deduped)
  | .startAttempt | .markFailed _ => (false, false)

/-- The failure that a move saves. -/
def errorText? : Transition → Option String
  | .markFailed errorText => some errorText
  | .startAttempt | .markSent .. => none

end Transition

/-! ## Moves that were saved -/

/-- A move that was saved, with its draft and its time. -/
structure SavedMove where
  draft : OutboxDraft
  transition : Transition
  time : Instant

namespace SavedMove

/-- The moves that begin an attempt. -/
def starts (moves : List SavedMove) : List SavedMove :=
  moves.filter (·.transition = .startAttempt)

/-- The status that the last of some moves led to. -/
def statusAfter (moves : List SavedMove) : Option OutboxStatus :=
  moves.getLast?.map (·.transition.target)

/-- Each move leads on from the status that the one before it led to. -/
def Lawful (moves : List SavedMove) : Prop :=
  ∀ earlier move later, moves = earlier ++ move :: later →
    move.transition.LeadsFrom (statusAfter earlier)

/-- A number of attempts, as far as it is counted. -/
def counted (attempts : Nat) : Fin attemptLimit :=
  ⟨min attempts (attemptLimit - 1), Nat.lt_of_le_of_lt (Nat.min_le_right ..) (by decide)⟩

/-- The record of a send, told by the number of its attempts, by the first and the latest of them
and by its last move. -/
def account (identity : SendIdentity) (attempts : Nat) (first latest last : SavedMove) :
    OutboxRecord where
  channel := identity.channel
  idempotencyKey := identity.idempotencyKey
  status := last.transition.target
  attempts := counted attempts
  contactId := latest.draft.contactId
  peerId := latest.draft.peerId
  itemId := latest.draft.itemId
  contentType := latest.draft.contentType
  payload := latest.draft.payload
  accepted := last.transition.flags.1
  deduped := last.transition.flags.2
  lastError := last.transition.errorText?
  createdAt := first.time
  updatedAt := last.time
  lastAttemptAt := some latest.time
  sentAt := if last.transition.target = .sent then some last.time else none

/-- The record that the moves of a send prescribe. -/
def prescribed (identity : SendIdentity) (moves : List SavedMove) : Option OutboxRecord := do
  let first ← (starts moves).head?
  let latest ← (starts moves).getLast?
  let last ← moves.getLast?
  some (account identity (starts moves).length first latest last)

theorem oneMoreAttempt_counted (attempts : Nat) :
    oneMoreAttempt (counted attempts) = counted (attempts + 1) := by
  apply Fin.ext
  simp only [oneMoreAttempt_val, counted]
  omega

variable {identity : SendIdentity} {moves : List SavedMove} {move first latest last : SavedMove}
  {record : OutboxRecord}

theorem starts_concat_start (begins : move.transition = .startAttempt) :
    starts (moves ++ [move]) = starts moves ++ [move] := by
  simp [starts, begins]

theorem starts_concat_other (continues : move.transition ≠ .startAttempt) :
    starts (moves ++ [move]) = starts moves := by
  simp [starts, continues]

theorem prescribed_eq_some : prescribed identity moves = some record ↔
    ∃ first latest last, (starts moves).head? = some first ∧ (starts moves).getLast? = some latest ∧
      moves.getLast? = some last ∧
      record = account identity (starts moves).length first latest last := by
  simp only [prescribed, Option.bind_eq_bind, Option.bind_eq_some_iff, Option.some.injEq]
  constructor
  · rintro ⟨first, head, latest, begun, last, ended, rfl⟩
    exact ⟨first, latest, last, head, begun, ended, rfl⟩
  · rintro ⟨first, latest, last, head, begun, ended, rfl⟩
    exact ⟨first, head, latest, begun, last, ended, rfl⟩

theorem lawful_nil : Lawful [] := by
  intro earlier move later split
  simp at split

theorem Lawful.concat (lawful : Lawful moves)
    (leads : move.transition.LeadsFrom (statusAfter moves)) : Lawful (moves ++ [move]) := by
  intro earlier other later split
  rcases List.eq_nil_or_concat later with rfl | ⟨front, final, rfl⟩
  · obtain ⟨rfl, same⟩ := List.append_inj' split rfl
    cases same
    exact leads
  · rw [List.concat_eq_append, ← List.cons_append, ← List.append_assoc] at split
    exact lawful earlier other front (List.append_inj' split rfl).1

theorem Lawful.begins (lawful : Lawful (move :: moves)) : move.transition = .startAttempt := by
  have leads := lawful [] move moves rfl
  cases held : move.transition with
  | startAttempt => rfl
  | markSent accepted deduped => simp [held, Transition.LeadsFrom, statusAfter] at leads
  | markFailed errorText => simp [held, Transition.LeadsFrom, statusAfter] at leads

theorem Lawful.final (lawful : Lawful moves) {earlier later : List SavedMove}
    (split : moves = earlier ++ move :: later) (sent : move.transition.target = .sent) :
    later = [] := by
  cases later with
  | nil => rfl
  | cons next later =>
      have leads := lawful (earlier ++ [move]) next later (by simp [split])
      cases held : next.transition with
      | startAttempt | markSent _ _ | markFailed _ =>
          simp [held, Transition.LeadsFrom, statusAfter, sent] at leads

/-- Only where nothing was saved is no record prescribed. -/
theorem Lawful.eq_nil (lawful : Lawful moves) (none : prescribed identity moves = none) :
    moves = [] := by
  cases moves with
  | nil => rfl
  | cons move moves => simp [prescribed, starts, lawful.begins, List.getLast?_cons] at none

end SavedMove

open SavedMove

/-- The record of a send is what its moves prescribe. -/
structure Accounted (identity : SendIdentity) (moves : List SavedMove)
    (record : Option OutboxRecord) : Prop where
  prescribed : record = prescribed identity moves
  lawful : Lawful moves
  /-- No failure is saved without a text. -/
  speaks : ∀ move ∈ moves, ∀ text, move.transition.errorText? = some text →
    Text.allBlank text = false

namespace Accounted

variable {draft : OutboxDraft} {moves : List SavedMove} {record : Option OutboxRecord}
  {transition : Transition} {now : Instant} {next : OutboxRecord}

theorem nothing (identity : SendIdentity) : Accounted identity [] none :=
  ⟨rfl, lawful_nil, by simp⟩

/-- The status of the record is the one that the last move led to. -/
theorem status (accounted : Accounted draft.identity moves record) :
    record.map (·.status) = statusAfter moves := by
  cases record with
  | none =>
      rw [accounted.lawful.eq_nil accounted.prescribed.symm]
      rfl
  | some held =>
      rcases prescribed_eq_some.mp accounted.prescribed.symm with
        ⟨first, latest, last, _, _, ended, rfl⟩
      simp [statusAfter, ended, account]

/-- What a move leads to is prescribed by the moves with it. -/
theorem prescribed_concat (accounted : Accounted draft.identity moves record)
    (leads : MovesTo draft now record transition next) :
    some next = SavedMove.prescribed draft.identity (moves ++ [⟨draft, transition, now⟩]) := by
  symm
  rw [prescribed_eq_some]
  cases leads with
  | first =>
      rw [accounted.lawful.eq_nil accounted.prescribed.symm]
      exact ⟨_, _, _, rfl, rfl, rfl, rfl⟩
  | again same failed =>
      rcases prescribed_eq_some.mp accounted.prescribed.symm with
        ⟨first, latest, last, head, begun, ended, rfl⟩
      rw [starts_concat_start rfl]
      refine ⟨first, _, _, by simp [head], List.getLast?_concat, List.getLast?_concat, ?_⟩
      simp only [OutboxRecord.nextAttempt, account, oneMoreAttempt_counted, List.length_append,
        List.length_singleton]
      rfl
  | answered same pending =>
      rcases prescribed_eq_some.mp accounted.prescribed.symm with
        ⟨first, latest, last, head, begun, ended, rfl⟩
      rw [starts_concat_other (by simp)]
      exact ⟨first, latest, _, head, begun, List.getLast?_concat, rfl⟩
  | failed same pending speaks =>
      rcases prescribed_eq_some.mp accounted.prescribed.symm with
        ⟨first, latest, last, head, begun, ended, rfl⟩
      rw [starts_concat_other (by simp)]
      exact ⟨first, latest, _, head, begun, List.getLast?_concat, rfl⟩

theorem concat (accounted : Accounted draft.identity moves record)
    (leads : MovesTo draft now record transition next) :
    Accounted draft.identity (moves ++ [⟨draft, transition, now⟩]) (some next) where
  prescribed := accounted.prescribed_concat leads
  lawful := accounted.lawful.concat (by simpa [← accounted.status] using leads.leadsFrom)
  speaks := by
    intro move member text failed
    rcases List.mem_append.mp member with before | last
    · exact accounted.speaks move before text failed
    · cases List.mem_singleton.mp last
      cases leads with
      | first | again | answered => cases failed
      | failed same pending speaks =>
          cases failed
          exact speaks

end Accounted

/-- All that can be told of a send by the moves that were saved for it, and of the times in its
record by what the clock showed. -/
structure ToldBy (identity : SendIdentity) (moves : List SavedMove) (readings : List Instant)
    (record : Option OutboxRecord) : Prop where
  /-- The record is what the moves prescribe. -/
  prescribed : record = prescribed identity moves
  /-- There is a record as soon as there is a move. -/
  present : record = none ↔ moves = []
  lawful : Lawful moves
  /-- No move follows the one that saves the answer of the platform. -/
  final : ∀ earlier move later, moves = earlier ++ move :: later →
    move.transition.target = .sent → later = []
  attempted : ∀ held, record = some held → 1 ≤ held.attempts.val
  pending : ∀ held, record = some held → held.status = .pending →
    held.lastError = none ∧ held.sentAt = none ∧ held.accepted = false ∧ held.deduped = false
  sent : ∀ held, record = some held → held.status = .sent →
    held.lastError = none ∧ held.sentAt = some held.updatedAt ∧
      moves.getLast?.map (·.transition) = some (.markSent held.accepted held.deduped)
  failed : ∀ held, record = some held → held.status = .failed →
    (∃ text, held.lastError = some text ∧ Text.allBlank text = false) ∧
      held.sentAt = none ∧ held.accepted = false ∧ held.deduped = false
  /-- If the clock never goes back, neither do the times of the record. -/
  ordered : readings.Pairwise (· ≤ ·) → ∀ held, record = some held →
    ∃ attempt, held.lastAttemptAt = some attempt ∧ held.createdAt ≤ attempt ∧
      attempt ≤ held.updatedAt

/-- What an ordered list begins with, and all else in it, is not after its end. -/
theorem le_last {times : List Instant} {time last : Instant} (ordered : times.Pairwise (· ≤ ·))
    (member : time ∈ times) (ended : times.getLast? = some last) : time ≤ last := by
  have before := ordered.rel_getLast member
  rwa [← Option.some_inj.mp ((List.getLast?_eq_some_getLast _).symm.trans ended)]

namespace Accounted

variable {identity : SendIdentity} {moves : List SavedMove} {record : Option OutboxRecord}

/-- Where the clock never went back, the times of a record are in order. -/
theorem ordered (accounted : Accounted identity moves record)
    (ordered : (moves.map (·.time)).Pairwise (· ≤ ·)) {held : OutboxRecord}
    (found : record = some held) :
    ∃ attempt, held.lastAttemptAt = some attempt ∧ held.createdAt ≤ attempt ∧
      attempt ≤ held.updatedAt := by
  rcases prescribed_eq_some.mp (accounted.prescribed.symm.trans found) with
    ⟨first, latest, last, head, begun, ended, rfl⟩
  have attempts : ((starts moves).map (·.time)).Pairwise (· ≤ ·) :=
    ordered.sublist (List.filter_sublist.map _)
  have began : first ∈ starts moves := List.mem_of_head? head
  have known : latest ∈ moves := (List.mem_filter.mp (List.mem_of_getLast? begun)).1
  refine ⟨latest.time, rfl, ?_, ?_⟩
  · exact le_last attempts (List.mem_map_of_mem began) (by simp [begun])
  · exact le_last ordered (List.mem_map_of_mem known) (by simp [ended, account])

theorem toldBy (accounted : Accounted identity moves record) {readings : List Instant}
    (times : (moves.map (·.time)).Sublist readings) : ToldBy identity moves readings record where
  prescribed := accounted.prescribed
  present := by
    constructor
    · rintro rfl
      exact accounted.lawful.eq_nil accounted.prescribed.symm
    · rintro rfl
      exact accounted.prescribed
  lawful := accounted.lawful
  final := by
    intro earlier move later split sent
    exact accounted.lawful.final split sent
  attempted := by
    rintro held rfl
    rcases prescribed_eq_some.mp accounted.prescribed.symm with
      ⟨first, latest, last, head, _, _, rfl⟩
    have some : 0 < (starts moves).length := List.length_pos_of_mem (List.mem_of_head? head)
    simp only [account, counted, attemptLimit]
    omega
  pending := by
    rintro held rfl pending
    rcases prescribed_eq_some.mp accounted.prescribed.symm with
      ⟨first, latest, last, _, _, _, rfl⟩
    cases move : last.transition with
    | startAttempt =>
        simp [account, move, Transition.target, Transition.flags, Transition.errorText?]
    | markSent | markFailed => simp [account, move, Transition.target] at pending
  sent := by
    rintro held rfl sent
    rcases prescribed_eq_some.mp accounted.prescribed.symm with
      ⟨first, latest, last, _, _, ended, rfl⟩
    cases move : last.transition with
    | markSent accepted deduped =>
        simp [account, ended, move, Transition.target, Transition.flags, Transition.errorText?]
    | startAttempt | markFailed => simp [account, move, Transition.target] at sent
  failed := by
    rintro held rfl failed
    rcases prescribed_eq_some.mp accounted.prescribed.symm with
      ⟨first, latest, last, _, _, ended, rfl⟩
    cases move : last.transition with
    | markFailed text =>
        have speaks := accounted.speaks last (List.mem_of_getLast? ended) text (by rw [move]; rfl)
        simp [account, move, Transition.target, Transition.flags, Transition.errorText?, speaks]
    | startAttempt | markSent => simp [account, move, Transition.target] at failed
  ordered := by
    intro ordered held found
    exact accounted.ordered (ordered.sublist times) found

end Accounted

namespace Outbound

/-! ## Calls of the outbox -/

/-- A call of the outbox: one move, or a whole delivery. -/
inductive Operation where
  | startAttempt (draft : OutboxDraft)
  | markSent (draft : OutboxDraft) (accepted deduped : Bool)
  | markFailed (draft : OutboxDraft) (errorText : String)
  | deliver (draft : OutboxDraft)

namespace Operation

def draft : Operation → OutboxDraft
  | .startAttempt draft | .markSent draft .. | .markFailed draft _ | .deliver draft => draft

def flow : Operation → Flow (Except OutboxError OutboxRecord)
  | .startAttempt draft => Outbound.startAttempt draft
  | .markSent draft accepted deduped => Outbound.markSent draft accepted deduped
  | .markFailed draft errorText => Outbound.markFailed draft errorText
  | .deliver draft => Outbound.deliver draft

/-- The move that a call begins with. -/
def opening : Operation → Transition
  | .startAttempt _ | .deliver _ => .startAttempt
  | .markSent _ accepted deduped => .markSent accepted deduped
  | .markFailed _ errorText => .markFailed errorText

end Operation

/-- The moves that were saved in a dialogue, from one that is under way on. It has the time that
the clock showed last. After a send, the move under way is the one that its outcome calls for. -/
def movesIn (draft : OutboxDraft) :
    Transition → Option Instant → List Exchange → List SavedMove
  | _, _, [] => []
  | transition, _, ⟨.now, time⟩ :: later => movesIn draft transition (some time) later
  | _, time, ⟨.send, outcome⟩ :: later => movesIn draft (closing outcome) time later
  | transition, some time, ⟨.saveOutbox _, .ok ()⟩ :: later =>
    ⟨draft, transition, time⟩ :: movesIn draft transition none later
  | transition, time, _ :: later => movesIn draft transition time later

/-- What the clock showed in a dialogue. -/
def readingsIn (exchanges : List Exchange) : List Instant :=
  exchanges.filterMap Exchange.reading?

/-- The dialogues in which nothing is saved but the move under way. -/
inductive SavesMoves (draft : OutboxDraft) :
    Transition → Option Instant → Holdings → List Exchange → Prop where
  | done {transition : Transition} {time : Option Instant} {before : Holdings} :
      SavesMoves draft transition time before []
  | looked {transition : Transition} {time : Option Instant} {before : Holdings}
      {exchanges : List Exchange} {answer : Except StoreError (Option OutboxRecord)}
      (rest : SavesMoves draft transition time before exchanges) :
      SavesMoves draft transition time before (lookUp draft answer :: exchanges)
  | read {transition : Transition} {time : Option Instant} {before : Holdings}
      {exchanges : List Exchange} {now : Instant}
      (rest : SavesMoves draft transition (some now) before exchanges) :
      SavesMoves draft transition time before (⟨.now, now⟩ :: exchanges)
  | sent {transition : Transition} {time : Option Instant} {before : Holdings}
      {exchanges : List Exchange} {outcome : Except SendFailure SendReceipt}
      (rest : SavesMoves draft (closing outcome) time before exchanges) :
      SavesMoves draft transition time before (⟨.send, outcome⟩ :: exchanges)
  | unsaved {transition : Transition} {time : Option Instant} {before : Holdings}
      {exchanges : List Exchange} {next : OutboxRecord} {error : StoreError}
      (rest : SavesMoves draft transition time before exchanges) :
      SavesMoves draft transition time before (⟨.saveOutbox next, .error error⟩ :: exchanges)
  | saved {transition : Transition} {before : Holdings} {exchanges : List Exchange}
      {now : Instant} {next : OutboxRecord}
      (applied : applyTransition (before.outbox draft.identity) draft transition now = .ok next)
      (rest : SavesMoves draft transition none (before.putOutbox next) exchanges) :
      SavesMoves draft transition (some now) before (⟨.saveOutbox next, .ok ()⟩ :: exchanges)

variable {draft : OutboxDraft} {transition : Transition} {time : Option Instant}
  {before : Holdings} {exchanges : List Exchange} {result : Except OutboxError OutboxRecord}
  {identity : SendIdentity} {moves : List SavedMove}

@[simp] theorem movesIn_looked (answer : Except StoreError (Option OutboxRecord)) :
    movesIn draft transition time (lookUp draft answer :: exchanges) =
      movesIn draft transition time exchanges := by
  cases time with
  | none | some => rfl

@[simp] theorem movesIn_unsaved (next : OutboxRecord) (error : StoreError) :
    movesIn draft transition time (⟨.saveOutbox next, .error error⟩ :: exchanges) =
      movesIn draft transition time exchanges := by
  cases time with
  | none | some => rfl

theorem Moving.savesMoves (moving : Moving draft transition before exchanges result) :
    SavesMoves draft transition none before exchanges := by
  cases moving with
  | unread error => exact .looked .done
  | refused now refused => exact .looked (.read .done)
  | unsaved now error applied => exact .looked (.read (.unsaved .done))
  | saved now applied => exact .looked (.read (.saved applied .done))

theorem Delivering.savesMoves (delivering : Delivering draft before exchanges result) :
    SavesMoves draft .startAttempt none before exchanges := by
  cases delivering with
  | unread error => exact .looked .done
  | answeredBefore held sent => exact .looked .done
  | notBegun unsent moving => exact .looked moving.savesMoves
  | attempted now outcome begun moving =>
      exact .looked (.looked (.read (.saved begun (.sent moving.savesMoves))))

theorem Operation.savesMoves {operation : Operation}
    (dialogue : operation.flow.Dialogue before exchanges result) :
    SavesMoves operation.draft operation.opening none before exchanges := by
  cases operation with
  | startAttempt draft => exact (moving dialogue).savesMoves
  | markSent draft accepted deduped => exact (moving dialogue).savesMoves
  | markFailed draft errorText => exact (moving dialogue).savesMoves
  | deliver draft => exact (delivering dialogue).savesMoves

namespace SavesMoves

/-- What holds of a dialogue holds of it as far as it has come. -/
theorem front {later : List Exchange}
    (saves : SavesMoves draft transition time before (exchanges ++ later)) :
    SavesMoves draft transition time before exchanges := by
  induction exchanges generalizing transition time before with
  | nil => exact .done
  | cons exchange exchanges ih =>
      cases saves with
      | looked rest => exact .looked (ih rest)
      | read rest => exact .read (ih rest)
      | sent rest => exact .sent (ih rest)
      | unsaved rest => exact .unsaved (ih rest)
      | saved applied rest => exact .saved applied (ih rest)

theorem accounted (saves : SavesMoves draft transition time before exchanges)
    (accounted : Accounted draft.identity moves (before.outbox draft.identity)) :
    Accounted draft.identity (moves ++ movesIn draft transition time exchanges)
      ((before.afterAll exchanges).outbox draft.identity) := by
  induction saves generalizing moves with
  | done => simpa [movesIn] using accounted
  | looked rest ih =>
      rw [movesIn_looked]
      exact ih accounted
  | read rest ih => exact ih accounted
  | sent rest ih => exact ih accounted
  | unsaved rest ih =>
      rw [movesIn_unsaved]
      exact ih accounted
  | @saved transition before exchanges now next applied rest ih =>
      have leads := (moves_of_applied applied).2
      have held : (before.putOutbox next).outbox draft.identity = some next :=
        if_pos leads.identity.symm
      -- The move is noted before the rest of the dialogue, which goes on from its record.
      have moved : Accounted draft.identity (moves ++ [⟨draft, transition, now⟩])
          ((before.putOutbox next).outbox draft.identity) := by
        rw [held]
        exact accounted.concat leads
      have later := ih moved
      rw [List.append_assoc] at later
      exact later

theorem others (saves : SavesMoves draft transition time before exchanges)
    (other : draft.identity ≠ identity) :
    (before.afterAll exchanges).outbox identity = before.outbox identity := by
  induction saves with
  | done => rfl
  | looked rest ih | read rest ih | sent rest ih | unsaved rest ih => exact ih
  | @saved transition before exchanges now next applied rest ih =>
      have same := (moves_of_applied applied).2.identity
      refine ih.trans ?_
      rw [Holdings.outbox_putOutbox, same, if_neg other.symm]

/-- The times of the moves are readings of the clock, in their order. -/
theorem times (saves : SavesMoves draft transition time before exchanges) :
    ((movesIn draft transition time exchanges).map (·.time)).Sublist
      (time.toList ++ readingsIn exchanges) := by
  induction saves with
  | done => exact List.nil_sublist _
  | looked rest ih =>
      rw [movesIn_looked]
      exact ih
  | unsaved rest ih =>
      rw [movesIn_unsaved]
      exact ih
  | sent rest ih => exact ih
  | read rest ih => exact ih.trans (List.sublist_append_right ..)
  | saved applied rest ih => exact ih.cons_cons _

end SavesMoves

/-! ## Histories -/

abbrev Called := Performed Operation (Except OutboxError OutboxRecord)

/-- The moves of a send that were saved in the dialogue of a call. -/
def movesDuring (identity : SendIdentity) (operation : Operation) (exchanges : List Exchange) :
    List SavedMove :=
  if operation.draft.identity = identity then
    movesIn operation.draft operation.opening none exchanges
  else []

/-- The moves of a send that were saved in a history. -/
def movesOf (identity : SendIdentity) (history : List Called) : List SavedMove :=
  history.flatMap fun entry => movesDuring identity entry.call entry.exchanges

/-- What the clock showed in a history. -/
def readingsOf (history : List Called) : List Instant :=
  history.flatMap fun entry => readingsIn entry.exchanges

theorem SavesMoves.during {operation : Operation}
    (saves : SavesMoves operation.draft operation.opening none before exchanges)
    (accounted : Accounted identity moves (before.outbox identity)) :
    Accounted identity (moves ++ movesDuring identity operation exchanges)
      ((before.afterAll exchanges).outbox identity) := by
  by_cases own : operation.draft.identity = identity
  · subst own
    simpa [movesDuring] using saves.accounted accounted
  · simpa [movesDuring, own, saves.others own] using accounted

theorem SavesMoves.times_during {operation : Operation}
    (saves : SavesMoves operation.draft operation.opening none before exchanges)
    (identity : SendIdentity) :
    ((movesDuring identity operation exchanges).map (·.time)).Sublist (readingsIn exchanges) := by
  simp only [movesDuring]
  split
  next => exact saves.times
  next => exact List.nil_sublist _

section Sessions

variable {σ : Type} [RecordStore σ] [FaithfulStore σ] {start world : Surroundings σ}
  {history : List Called}

/-- What the store holds of a send is accounted for by the moves that were saved for it. -/
theorem accounted_of_session (session : Session Operation.flow start history world)
    (empty : start.holdings = .empty) (identity : SendIdentity) :
    Accounted identity (movesOf identity history) (world.holdings.outbox identity) := by
  refine session.invariant
    (fun history held => Accounted identity (movesOf identity history) (held.outbox identity)) ?_ ?_
  · rw [empty]
    exact .nothing identity
  · intro history before entry dialogue accounted
    have later := (Operation.savesMoves dialogue).during accounted
    simpa [movesOf] using later

theorem times_of_session (session : Session Operation.flow start history world)
    (identity : SendIdentity) :
    ((movesOf identity history).map (·.time)).Sublist (readingsOf history) := by
  refine session.invariant
    (fun history _ => ((movesOf identity history).map (·.time)).Sublist (readingsOf history)) ?_ ?_
  · exact List.nil_sublist _
  · intro history before entry dialogue sublist
    have later := (Operation.savesMoves dialogue).times_during identity
    simpa [movesOf, readingsOf] using sublist.append later

/-- What the store holds of every send is told by the moves that were saved for it: between the
calls, and at each moment of a call that follows. -/
structure RecordsTold (history : List Called) (world : Surroundings σ) : Prop where
  between : ∀ identity, ToldBy identity (movesOf identity history) (readingsOf history)
    (world.holdings.outbox identity)
  during : ∀ operation earlier, earlier <+: (world.perform Operation.flow operation).exchanges →
    ∀ identity, ToldBy identity (movesOf identity history ++ movesDuring identity operation earlier)
      (readingsOf history ++ readingsIn earlier)
      ((world.holdings.afterAll earlier).outbox identity)

/-- On a store that is empty at first and may fail at any call, every record is told by the moves
that were saved for it. -/
theorem records_told_by_moves (empty : start.holdings = .empty)
    (session : Session Operation.flow start history world) : RecordsTold history world where
  between identity :=
    (accounted_of_session session empty identity).toldBy (times_of_session session identity)
  during := by
    rintro operation earlier ⟨later, split⟩ identity
    have whole := Operation.savesMoves (world.perform_dialogue Operation.flow operation).1
    rw [← split] at whole
    have saves := whole.front
    have accounted := saves.during (accounted_of_session session empty identity)
    refine accounted.toldBy ?_
    rw [List.map_append]
    exact (times_of_session session identity).append (saves.times_during identity)

/-- An attempt fails, though this is saved only when it is told again. The next one has another
draft, and the platform answers it. -/
theorem records_told_by_moves_retried :
    ∃ (start world : Surroundings MemoryStore) (history : List Called),
      start.holdings = .empty ∧ Session Operation.flow start history world ∧
      (readingsOf history).Pairwise (· ≤ ·) ∧
      (movesOf ⟨.slack, "greeting"⟩ history).map (·.transition) =
        [.startAttempt, .markFailed "late", .startAttempt, .markSent true false] ∧
      RecordsTold history world := by
  let draft : OutboxDraft :=
    { channel := .slack, idempotencyKey := "greeting", contactId := none, peerId := none,
      itemId := none, contentType := none, payload := [] }
  let calls : List Operation := [.startAttempt draft, .markFailed draft "late",
    .markFailed draft "late", .deliver { draft with contactId := some "contact" }]
  let start : Surroundings MemoryStore :=
    { Surroundings.plain MemoryStore.empty .epoch with
      backing := ⟨.empty, [], fun number _ => if number = 3 then some .connection else none⟩
      clock := fun number => (Instant.ofParts? ⟨1970, 1, 1⟩ number 0).getD .epoch }
  have session := Session.of_performAll start Operation.flow calls
  have ordered : (readingsOf (start.performAll Operation.flow calls).1).Pairwise (· ≤ ·) := by
    decide +kernel
  have moved :
      (movesOf ⟨.slack, "greeting"⟩ (start.performAll Operation.flow calls).1).map (·.transition) =
        [.startAttempt, .markFailed "late", .startAttempt, .markSent true false] := by
    decide +kernel
  exact ⟨start, _, _, rfl, session, ordered, moved, records_told_by_moves rfl session⟩

end Sessions

end Outbound

end ConversationBus
