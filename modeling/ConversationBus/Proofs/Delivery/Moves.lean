import ConversationBus.Delivery.Outbound
import ConversationBus.Proofs.Flow.Dialogue

/-!
# What a delivery does

All that a move of the outbox can lead to, and all the dialogues that a move and a delivery can
have. Everything about sends is proved from these cases.
-/

namespace ConversationBus

variable {draft : OutboxDraft} {current : Option OutboxRecord} {transition : Transition}
  {now : Instant} {next : OutboxRecord} {error : OutboxError}

/-! ## Moves -/

/-- The status that a move leads to. -/
def Transition.target : Transition → OutboxStatus
  | .startAttempt => .pending
  | .markSent .. => .sent
  | .markFailed _ => .failed

/-- Whether a move leads on from a status, or from none. -/
def Transition.LeadsFrom (origin : Option OutboxStatus) : Transition → Prop
  | .startAttempt => origin = none ∨ origin = some .failed
  | .markSent .. | .markFailed _ => origin = some .pending

instance (transition : Transition) (origin : Option OutboxStatus) :
    Decidable (transition.LeadsFrom origin) :=
  match transition with
  | .startAttempt => inferInstanceAs (Decidable (_ ∨ _))
  | .markSent .. | .markFailed _ => inferInstanceAs (Decidable (_ = _))

/-- The moves of a send with a draft at a time, from the record that is there to the next one. -/
inductive MovesTo (draft : OutboxDraft) (now : Instant) :
    Option OutboxRecord → Transition → OutboxRecord → Prop where
  | first : MovesTo draft now none .startAttempt (draft.firstAttempt now)
  | again {record : OutboxRecord} (same : record.identity = draft.identity)
      (failed : record.status = .failed) :
      MovesTo draft now (some record) .startAttempt (record.nextAttempt draft now)
  | answered {record : OutboxRecord} {accepted deduped : Bool}
      (same : record.identity = draft.identity) (pending : record.status = .pending) :
      MovesTo draft now (some record) (.markSent accepted deduped)
        (record.answered accepted deduped now)
  | failed {record : OutboxRecord} {errorText : String}
      (same : record.identity = draft.identity) (pending : record.status = .pending)
      (speaks : Text.allBlank errorText = false) :
      MovesTo draft now (some record) (.markFailed errorText) (record.withFailure errorText now)

/-- The reasons against a move. -/
inductive Refuses (draft : OutboxDraft) (current : Option OutboxRecord) (transition : Transition) :
    OutboxError → Prop where
  | unnamed (blank : Text.allBlank draft.idempotencyKey = true) :
      Refuses draft current transition .missingIdempotencyKey
  | mismatched {record : OutboxRecord} (held : current = some record)
      (other : record.identity ≠ draft.identity) :
      Refuses draft current transition (.identityMismatch draft.identity record.identity)
  | speechless {errorText : String} (failed : transition = .markFailed errorText)
      (blank : Text.allBlank errorText = true) :
      Refuses draft current transition .missingErrorText
  | illegal (stuck : ¬ transition.LeadsFrom (current.map (·.status))) :
      Refuses draft current transition (.illegalTransition (current.map (·.status)) transition)

namespace MovesTo

theorem identity (moves : MovesTo draft now current transition next) :
    next.identity = draft.identity := by
  cases moves with
  | first => rfl
  | again same | answered same | failed same => exact same

theorem status (moves : MovesTo draft now current transition next) :
    next.status = transition.target := by
  cases moves with
  | first | again | answered | failed => rfl

theorem leadsFrom (moves : MovesTo draft now current transition next) :
    transition.LeadsFrom (current.map (·.status)) := by
  cases moves with
  | first => exact .inl rfl
  | again _ failed => exact .inr (congrArg some failed)
  | answered _ pending | failed _ pending => exact congrArg some pending

end MovesTo

theorem oneMoreAttempt_val (attempts : Fin attemptLimit) :
    (oneMoreAttempt attempts).val = min (attempts.val + 1) (attemptLimit - 1) := by
  have bound := attempts.isLt
  simp only [oneMoreAttempt]
  split
  next more =>
    simp only
    omega
  next => omega

/-- A send whose record, if there is one, has its identity, moves on from the right status. -/
theorem checked_cases (transition : Transition) (now : Instant)
    (named : Text.allBlank draft.idempotencyKey = false)
    (same : ∀ record, current = some record → record.identity = draft.identity) :
    (∃ next, applyTransition current draft transition now = .ok next ∧
      MovesTo draft now current transition next) ∨
    ∃ error, applyTransition current draft transition now = .error error ∧
      Refuses draft current transition error := by
  have checked : checkIdentity current draft = .ok () := by
    cases current with
    | none => rfl
    | some record => exact if_pos (same record rfl)
  simp only [applyTransition, named, checked, bind, Except.bind, Bool.false_eq_true, if_false]
  cases transition with
  | startAttempt =>
      cases current with
      | none => exact .inl ⟨_, rfl, .first⟩
      | some record =>
          by_cases failed : record.status = .failed
          · exact .inl ⟨_, if_pos failed, .again (same record rfl) failed⟩
          · exact .inr ⟨_, if_neg failed, .illegal (by simpa [Transition.LeadsFrom] using failed)⟩
  | markSent accepted deduped =>
      cases current with
      | none => exact .inr ⟨_, rfl, .illegal (by simp [Transition.LeadsFrom])⟩
      | some record =>
          by_cases pending : record.status = .pending
          · exact .inl ⟨_, if_pos pending, .answered (same record rfl) pending⟩
          · exact .inr ⟨_, if_neg pending, .illegal (by simpa [Transition.LeadsFrom] using pending)⟩
  | markFailed errorText =>
      by_cases blank : Text.allBlank errorText = true
      · exact .inr ⟨_, if_pos blank, .speechless rfl blank⟩
      · have speaks : Text.allBlank errorText = false := by simpa using blank
        simp only [speaks, Bool.false_eq_true, if_false]
        cases current with
        | none => exact .inr ⟨_, rfl, .illegal (by simp [Transition.LeadsFrom])⟩
        | some record =>
            by_cases pending : record.status = .pending
            · exact .inl ⟨_, if_pos pending, .failed (same record rfl) pending speaks⟩
            · exact .inr ⟨_, if_neg pending,
                .illegal (by simpa [Transition.LeadsFrom] using pending)⟩

/-- A move leads to the next record, or there is a reason against it. -/
theorem applyTransition_cases (draft : OutboxDraft) (current : Option OutboxRecord)
    (transition : Transition) (now : Instant) :
    (∃ next, applyTransition current draft transition now = .ok next ∧
      Text.allBlank draft.idempotencyKey = false ∧ MovesTo draft now current transition next) ∨
    ∃ error, applyTransition current draft transition now = .error error ∧
      Refuses draft current transition error := by
  by_cases blank : Text.allBlank draft.idempotencyKey = true
  · exact .inr ⟨_, if_pos blank, .unnamed blank⟩
  · have named : Text.allBlank draft.idempotencyKey = false := by simpa using blank
    by_cases same : ∀ record, current = some record → record.identity = draft.identity
    · rcases checked_cases transition now named same with
        ⟨next, applied, moves⟩ | refused
      · exact .inl ⟨next, applied, named, moves⟩
      · exact .inr refused
    · simp only [Classical.not_forall] at same
      rcases same with ⟨record, rfl, other⟩
      refine .inr ⟨_, ?_, .mismatched rfl other⟩
      simp [applyTransition, named, checkIdentity, other, bind, Except.bind]

/-- A move that leads on from the status is applied, where the send has a key, its record has its
identity, and a failure has a text. -/
theorem applyTransition_of_leadsFrom (named : Text.allBlank draft.idempotencyKey = false)
    (same : ∀ record, current = some record → record.identity = draft.identity)
    (speaks : ∀ errorText, transition = .markFailed errorText → Text.allBlank errorText = false)
    (leads : transition.LeadsFrom (current.map (·.status))) :
    ∃ next, applyTransition current draft transition now = .ok next := by
  rcases applyTransition_cases draft current transition now with
    ⟨next, applied, _⟩ | ⟨error, _, refused⟩
  · exact ⟨next, applied⟩
  · cases refused with
    | unnamed blank => simp [named] at blank
    | mismatched held other => exact absurd (same _ held) other
    | speechless failed blank => simp [speaks _ failed] at blank
    | illegal stuck => exact absurd leads stuck

theorem moves_of_applied (applied : applyTransition current draft transition now = .ok next) :
    Text.allBlank draft.idempotencyKey = false ∧ MovesTo draft now current transition next := by
  rcases applyTransition_cases draft current transition now with
    ⟨other, same, moves⟩ | ⟨error, refused, _⟩
  · cases applied.symm.trans same
    exact moves
  · cases applied.symm.trans refused

theorem refuses_of_refused (refused : applyTransition current draft transition now = .error error) :
    Refuses draft current transition error := by
  rcases applyTransition_cases draft current transition now with
    ⟨other, applied, _⟩ | ⟨other, same, refuses⟩
  · cases refused.symm.trans applied
  · cases refused.symm.trans same
    exact refuses

namespace Outbound

variable {before : Holdings} {exchanges : List Exchange} {result : Except OutboxError OutboxRecord}

/-! ## Dialogues -/

abbrev lookUp (draft : OutboxDraft) (answer : Except StoreError (Option OutboxRecord)) : Exchange :=
  ⟨.findOutbox draft.channel draft.idempotencyKey, answer⟩

/-- The dialogues of a move: the look-up fails, the move is refused, its record cannot be saved, or
it is saved. -/
inductive Moving (draft : OutboxDraft) (transition : Transition) (before : Holdings) :
    List Exchange → Except OutboxError OutboxRecord → Prop where
  | unread (error : StoreError) :
      Moving draft transition before [lookUp draft (.error error)] (.error (.store error))
  | refused {error : OutboxError} (now : Instant)
      (refused : applyTransition (before.outbox draft.identity) draft transition now =
        .error error) :
      Moving draft transition before
        [lookUp draft (.ok (before.outbox draft.identity)), ⟨.now, now⟩] (.error error)
  | unsaved {next : OutboxRecord} (now : Instant) (error : StoreError)
      (applied : applyTransition (before.outbox draft.identity) draft transition now = .ok next) :
      Moving draft transition before
        [lookUp draft (.ok (before.outbox draft.identity)), ⟨.now, now⟩,
          ⟨.saveOutbox next, .error error⟩] (.error (.store error))
  | saved {next : OutboxRecord} (now : Instant)
      (applied : applyTransition (before.outbox draft.identity) draft transition now = .ok next) :
      Moving draft transition before
        [lookUp draft (.ok (before.outbox draft.identity)), ⟨.now, now⟩,
          ⟨.saveOutbox next, .ok ()⟩] (.ok next)

theorem moving (dialogue : (move draft transition).Dialogue before exchanges result) :
    Moving draft transition before exchanges result := by
  rcases Flow.dialogue_act.mp dialogue with ⟨found | found, _, rfl, admitted, dialogue⟩
  · rcases Flow.dialogue_done.mp dialogue with ⟨rfl, rfl⟩
    exact .unread found
  · cases admitted
    rcases Flow.dialogue_act.mp dialogue with ⟨now, _, rfl, _, dialogue⟩
    dsimp only [Holdings.after] at dialogue
    split at dialogue
    next error refused =>
      rcases Flow.dialogue_done.mp dialogue with ⟨rfl, rfl⟩
      exact .refused now refused
    next next applied =>
      rcases Flow.dialogue_act.mp dialogue with ⟨saved | ⟨⟨⟩⟩, _, rfl, _, dialogue⟩
      · rcases Flow.dialogue_done.mp dialogue with ⟨rfl, rfl⟩
        exact .unsaved now saved applied
      · rcases Flow.dialogue_done.mp dialogue with ⟨rfl, rfl⟩
        exact .saved now applied

namespace Moving

@[simp] theorem sends (moving : Moving draft transition before exchanges result) :
    sendsIn exchanges = [] := by
  cases moving with
  | unread | refused | unsaved | saved => rfl

/-- A move that fails changes nothing. -/
theorem after_of_error (moving : Moving draft transition before exchanges (.error error)) :
    before.afterAll exchanges = before := by
  cases moving with
  | unread | refused | unsaved => rfl

end Moving

/-- The move by which the outcome of a send is saved. -/
def closing : Except SendFailure SendReceipt → Transition
  | .ok receipt => .markSent receipt.accepted receipt.deduped
  | .error failure => .markFailed (failureText failure)

/-- A failure is never saved without a text. -/
theorem failureText_speaks (failure : SendFailure) :
    Text.allBlank (failureText failure) = false := by
  simp only [failureText]
  split
  next => decide
  next speaks => simpa using speaks

theorem closing_speaks (outcome : Except SendFailure SendReceipt) (errorText : String)
    (failed : closing outcome = .markFailed errorText) : Text.allBlank errorText = false := by
  cases outcome with
  | ok receipt => cases failed
  | error failure =>
      cases failed
      exact failureText_speaks failure

/-- The dialogues of a delivery: the look-up fails, the send was answered before, no attempt is
begun, or an attempt is saved, the send runs, and its outcome is saved or not. -/
inductive Delivering (draft : OutboxDraft) (before : Holdings) :
    List Exchange → Except OutboxError OutboxRecord → Prop where
  | unread (error : StoreError) :
      Delivering draft before [lookUp draft (.error error)] (.error (.store error))
  | answeredBefore {record : OutboxRecord} (held : before.outbox draft.identity = some record)
      (sent : record.status = .sent) :
      Delivering draft before [lookUp draft (.ok (some record))] (.ok record)
  | notBegun {exchanges : List Exchange} {error : OutboxError}
      (unsent : ∀ record, before.outbox draft.identity = some record → record.status ≠ .sent)
      (moving : Moving draft .startAttempt before exchanges (.error error)) :
      Delivering draft before (lookUp draft (.ok (before.outbox draft.identity)) :: exchanges)
        (.error error)
  | attempted {first : OutboxRecord} {exchanges : List Exchange}
      {result : Except OutboxError OutboxRecord} (now : Instant)
      (outcome : Except SendFailure SendReceipt)
      (begun : applyTransition (before.outbox draft.identity) draft .startAttempt now = .ok first)
      (moving : Moving draft (closing outcome) (before.putOutbox first) exchanges result) :
      Delivering draft before
        ([lookUp draft (.ok (before.outbox draft.identity)),
          lookUp draft (.ok (before.outbox draft.identity)), ⟨.now, now⟩,
          ⟨.saveOutbox first, .ok ()⟩, ⟨.send, outcome⟩] ++ exchanges) result

/-- The dialogues of a delivery from the attempt on. -/
theorem attempting {look : Exchange}
    (looked : look = lookUp draft (.ok (before.outbox draft.identity)))
    (unsent : ∀ record, before.outbox draft.identity = some record → record.status ≠ .sent)
    (dialogue : (attempt draft).Dialogue before exchanges result) :
    Delivering draft before (look :: exchanges) result := by
  subst look
  rcases Flow.dialogue_bind.mp dialogue with ⟨start, last, begun, rfl, dialogue, rest⟩
  have moved := moving dialogue
  cases begun with
  | error error =>
      rcases Flow.dialogue_done.mp rest with ⟨rfl, rfl⟩
      rw [List.append_nil]
      exact .notBegun unsent moved
  | ok first =>
      cases moved with
      | saved now applied =>
          rcases Flow.dialogue_act.mp rest with ⟨outcome, last, rfl, _, rest⟩
          have closed : (move draft (closing outcome)).Dialogue (before.putOutbox first) last
              result := by
            cases outcome with
            | ok receipt => exact rest
            | error failure => exact rest
          exact .attempted now outcome applied (moving closed)

theorem delivering (dialogue : (deliver draft).Dialogue before exchanges result) :
    Delivering draft before exchanges result := by
  rcases Flow.dialogue_act.mp dialogue with ⟨found | found, rest, rfl, admitted, dialogue⟩
  · rcases Flow.dialogue_done.mp dialogue with ⟨rfl, rfl⟩
    exact .unread found
  · change found = before.outbox draft.identity at admitted
    cases found with
    | none =>
        refine attempting (by rw [← admitted]) ?_ dialogue
        simp [← admitted]
    | some record =>
        change Flow.Dialogue (if record.status = .sent then _ else _) before rest result at dialogue
        split at dialogue
        next sent =>
          rcases Flow.dialogue_done.mp dialogue with ⟨rfl, rfl⟩
          exact .answeredBefore admitted.symm sent
        next unsent =>
          refine attempting (by rw [← admitted]) ?_ dialogue
          simpa [← admitted] using unsent

end Outbound

end ConversationBus
