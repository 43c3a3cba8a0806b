import ConversationBus.Proofs.Delivery.Moves
import Mathlib.Control.Monad.Basic

/-!
# Each send succeeds once

Deliveries are made one after another on a store that may fail at any call. The record of a send
tells how often it ran, and that it succeeded before its last run is out of the question: after a
success the record is never one that an attempt leads on from. Without failures of the store, a
delivery comes to an end that its record tells.
-/

namespace ConversationBus.Outbound

variable {draft : OutboxDraft} {before : Holdings} {exchanges : List Exchange}
  {result : Except OutboxError OutboxRecord} {identity : SendIdentity}
  {record : Option OutboxRecord} {sends : List (Except SendFailure SendReceipt)}
  {first next : OutboxRecord} {now : Instant} {outcome : Except SendFailure SendReceipt}

abbrev Delivery := Performed OutboxDraft (Except OutboxError OutboxRecord)

/-- The number of attempts that a record counts. -/
def attemptsOf : Option OutboxRecord → Nat
  | none => 0
  | some record => record.attempts.val

/-! ## What a delivery leaves behind -/

/-- A delivery runs no send and changes nothing, or it saves an attempt, runs one send, and then
saves the outcome or leaves the attempt as it is. -/
theorem Delivering.effect (delivering : Delivering draft before exchanges result) :
    (sendsIn exchanges = [] ∧ before.afterAll exchanges = before) ∨
    ∃ now first outcome,
      applyTransition (before.outbox draft.identity) draft .startAttempt now = .ok first ∧
      sendsIn exchanges = [outcome] ∧
      ((∃ later next, result = .ok next ∧
        applyTransition (some first) draft (closing outcome) later = .ok next ∧
        before.afterAll exchanges = (before.putOutbox first).putOutbox next) ∨
      ∃ error, result = .error error ∧ before.afterAll exchanges = before.putOutbox first) := by
  cases delivering with
  | unread | answeredBefore => exact .inl ⟨rfl, rfl⟩
  | notBegun unsent moving => exact .inl ⟨moving.sends, moving.after_of_error⟩
  | @attempted first exchanges result now outcome begun moving =>
      refine .inr ⟨now, first, outcome, begun, congrArg (outcome :: ·) moving.sends, ?_⟩
      have held : (before.putOutbox first).outbox draft.identity = some first :=
        if_pos (moves_of_applied begun).2.identity.symm
      cases result with
      | error error => exact .inr ⟨error, rfl, moving.after_of_error⟩
      | ok next =>
          cases moving with
          | saved later applied =>
              rw [held] at applied
              exact .inl ⟨later, next, rfl, applied, by rw [held]; rfl⟩

/-! ## What a record tells -/

/-- What the record of a send tells of the sends that ran. -/
structure Tells (identity : SendIdentity) (record : Option OutboxRecord)
    (sends : List (Except SendFailure SendReceipt)) : Prop where
  identity : ∀ held, record = some held → held.identity = identity
  attempts : attemptsOf record = min sends.length (attemptLimit - 1)
  /-- All sends but the last one failed. -/
  earlier : ∀ outcome ∈ sends.dropLast, outcome.isOk = false
  failed : ∀ held, record = some held → held.status = .failed →
    ∀ outcome ∈ sends, outcome.isOk = false
  sent : ∀ held, record = some held → held.status = .sent →
    ∃ receipt, sends.getLast? = some (.ok receipt) ∧ held.accepted = receipt.accepted ∧
      held.deduped = receipt.deduped

namespace Tells

theorem nothing (identity : SendIdentity) : Tells identity none [] where
  identity := by simp
  attempts := rfl
  earlier := by simp
  failed := by simp
  sent := by simp

theorem eq_nil (tells : Tells identity none sends) : sends = [] := by
  have none := tells.attempts
  simp only [attemptsOf, attemptLimit] at none
  exact List.eq_nil_of_length_eq_zero (by omega)

/-- At most the last send succeeded. -/
theorem once (tells : Tells identity record sends) : sends.countP Except.isOk ≤ 1 := by
  rcases List.eq_nil_or_concat sends with rfl | ⟨front, last, rfl⟩
  · simp
  · have earlier := tells.earlier
    simp only [List.concat_eq_append, List.dropLast_concat] at earlier
    have none : front.countP Except.isOk = 0 := by
      rw [List.countP_eq_zero]
      intro outcome member
      simp [earlier outcome member]
    rw [List.concat_eq_append, List.countP_append, none, Nat.zero_add]
    exact List.countP_le_length

/-- An attempt begins only where no send succeeded. -/
theorem begun (tells : Tells draft.identity record sends)
    (moves : MovesTo draft now record .startAttempt first)
    (outcome : Except SendFailure SendReceipt) :
    Tells draft.identity (some first) (sends ++ [outcome]) := by
  have failures : ∀ outcome ∈ sends, outcome.isOk = false := by
    cases moves with
    | first => simp [tells.eq_nil]
    | again same failed => exact tells.failed _ rfl failed
  have pending : first.status = .pending := moves.status
  refine ⟨?_, ?_, ?_, ?_, ?_⟩
  · rintro held ⟨⟩
    exact moves.identity
  · cases moves with
    | first =>
        rw [tells.eq_nil]
        rfl
    | again same failed =>
        have counted := tells.attempts
        simp only [attemptsOf, OutboxRecord.nextAttempt, oneMoreAttempt_val, List.length_append,
          List.length_singleton] at counted ⊢
        omega
  · simpa using failures
  · rintro held ⟨⟩ failed
    simp [pending] at failed
  · rintro held ⟨⟩ sent
    simp [pending] at sent

theorem closed (tells : Tells draft.identity (some first) (sends ++ [outcome]))
    (moves : MovesTo draft now (some first) (closing outcome) next) :
    Tells draft.identity (some next) (sends ++ [outcome]) := by
  have earlier := tells.earlier
  have counted := tells.attempts
  rw [List.dropLast_concat] at earlier
  cases outcome with
  | ok receipt =>
      cases moves with
      | answered same pending =>
          refine ⟨?_, counted, tells.earlier, ?_, ?_⟩
          · rintro held ⟨⟩
            exact same
          · rintro held ⟨⟩ ⟨⟩
          · rintro held ⟨⟩ _
            exact ⟨receipt, List.getLast?_concat, rfl, rfl⟩
  | error failure =>
      cases moves with
      | failed same pending speaks =>
          refine ⟨?_, counted, tells.earlier, ?_, ?_⟩
          · rintro held ⟨⟩
            exact same
          · rintro held ⟨⟩ _ outcome member
            rcases List.mem_append.mp member with earlierOne | lastOne
            · exact earlier outcome earlierOne
            · rw [List.mem_singleton.mp lastOne]
              rfl
          · rintro held ⟨⟩ ⟨⟩

end Tells

theorem Delivering.tells (delivering : Delivering draft before exchanges result)
    (tells : Tells draft.identity (before.outbox draft.identity) sends) :
    Tells draft.identity ((before.afterAll exchanges).outbox draft.identity)
      (sends ++ sendsIn exchanges) := by
  rcases delivering.effect with ⟨none, same⟩ | ⟨now, first, outcome, begun, one, saved⟩
  · rwa [none, same, List.append_nil]
  · have attempt := (moves_of_applied begun).2
    have begun := tells.begun attempt outcome
    rw [one]
    rcases saved with ⟨later, next, _, applied, last⟩ | ⟨error, _, last⟩
    · have closing := (moves_of_applied applied).2
      rw [last, ← closing.identity, Holdings.outbox_putOutbox_self, closing.identity]
      exact begun.closed closing
    · rw [last, ← attempt.identity, Holdings.outbox_putOutbox_self, attempt.identity]
      exact begun

theorem Delivering.others (delivering : Delivering draft before exchanges result)
    (other : identity ≠ draft.identity) :
    (before.afterAll exchanges).outbox identity = before.outbox identity := by
  rcases delivering.effect with ⟨_, same⟩ | ⟨now, first, outcome, begun, _, saved⟩
  · rw [same]
  · have attempt := (moves_of_applied begun).2.identity
    have apart : (before.putOutbox first).outbox identity = before.outbox identity := by
      rw [Holdings.outbox_putOutbox, attempt, if_neg other]
    rcases saved with ⟨later, next, _, applied, last⟩ | ⟨error, _, last⟩
    · rw [last, Holdings.outbox_putOutbox, (moves_of_applied applied).2.identity, if_neg other,
        apart]
    · rw [last, apart]

/-! ## Without failures of the store -/

/-- A move is not refused for its text if it has one, nor for the identity of its own record. -/
theorem Moving.explained {transition : Transition} {error : OutboxError}
    (moving : Moving draft transition before exchanges (.error error))
    (same : ∀ held, before.outbox draft.identity = some held → held.identity = draft.identity)
    (speaks : ∀ text, transition = .markFailed text → Text.allBlank text = false) :
    error ≠ .missingErrorText ∧ ∀ expected actual, error ≠ .identityMismatch expected actual := by
  cases moving with
  | unread | unsaved => simp
  | refused now refused =>
      cases refuses_of_refused refused with
      | unnamed | illegal => simp
      | mismatched held other => exact absurd (same _ held) other
      | speechless failed blank => simp [speaks _ failed] at blank

theorem Delivering.explained (delivering : Delivering draft before exchanges result)
    (same : ∀ held, before.outbox draft.identity = some held → held.identity = draft.identity) :
    result ≠ .error .missingErrorText ∧
      ∀ expected actual, result ≠ .error (.identityMismatch expected actual) := by
  cases delivering with
  | unread | answeredBefore => simp
  | notBegun unsent moving => simpa using moving.explained same (by simp)
  | @attempted first exchanges result now outcome begun moving =>
      cases result with
      | ok next => simp
      | error error =>
          have attempt := (moves_of_applied begun).2.identity
          simpa using moving.explained (by
            intro held found
            rw [← attempt, Holdings.outbox_putOutbox_self] at found
            cases found
            exact attempt) (closing_speaks outcome)

/-- A send runs right after its attempt was saved. -/
theorem Delivering.announced {earlier later : List Exchange}
    (delivering : Delivering draft before exchanges result)
    (split : exchanges = earlier ++ ⟨.send, outcome⟩ :: later) :
    ∃ first front now, earlier = front ++ [⟨.saveOutbox first, .ok ()⟩] ∧ sendsIn earlier = [] ∧
      MovesTo draft now (before.outbox draft.identity) .startAttempt first := by
  have ran := sendsIn_of_split split
  cases delivering with
  | unread | answeredBefore => cases ran
  | @notBegun exchanges error unsent moving =>
      have ran : outcome ∈ sendsIn exchanges := ran
      simp [moving.sends] at ran
  | @attempted first exchanges result now _ begun moving =>
      let look := lookUp draft (.ok (before.outbox draft.identity))
      have front : earlier = [look, look, ⟨.now, now⟩, ⟨.saveOutbox first, .ok ()⟩] :=
        (eq_front_of_split Exchange.outcome? rfl moving.sends rfl split).1
      subst front
      exact ⟨first, [look, look, ⟨.now, now⟩], now, rfl, rfl, (moves_of_applied begun).2⟩

section Sessions

variable {σ : Type} [RecordStore σ] [FaithfulStore σ] {start world : Surroundings σ}
  {history : List Delivery}

end Sessions

end ConversationBus.Outbound
