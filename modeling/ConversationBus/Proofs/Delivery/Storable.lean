import ConversationBus.Delivery.Inbound
import ConversationBus.Proofs.Delivery.Moves
import ConversationBus.Proofs.Delivery.Times

/-!
# What the delivery layer saves can be stored

Every time in a record is one that the clock showed, or comes from the record that was there
before. So where the clock shows only times that can be stored and the records that are found have
no others, none is saved.
-/

namespace ConversationBus

/-- The record that an action saves can be stored. -/
def Action.Storable : Action → Prop
  | .saveInbox record => record.Storable
  | .saveOutbox record => record.Storable
  | _ => True

/-- A record that was found can be stored, and the clock shows a time that can be. -/
def Exchange.Timely : Exchange → Prop
  | ⟨.findInbox .., .ok (some record)⟩ => record.Storable
  | ⟨.findOutbox .., .ok (some record)⟩ => record.Storable
  | ⟨.now, time⟩ => time.Storable
  | _ => True

namespace Flow

variable {α β : Type}

/-- As long as the answers are timely, what the flow saves can be stored. -/
def Storable : Flow α → Prop
  | .done _ => True
  | .act action next =>
    action.Storable ∧ ∀ answer, Exchange.Timely ⟨action, answer⟩ → (next answer).Storable

theorem Storable.bind {flow : Flow α} {rest : α → Flow β} (storable : flow.Storable)
    (later : ∀ result, (rest result).Storable) : (flow.bind rest).Storable := by
  induction flow with
  | done result => exact later result
  | act action next ih =>
      exact ⟨storable.1, fun answer timely => ih answer (storable.2 answer timely)⟩

end Flow

/-- A move leads from a record that can be stored to another, at a time that can be. -/
theorem MovesTo.storable {draft : OutboxDraft} {now : Instant} {current : Option OutboxRecord}
    {transition : Transition} {next : OutboxRecord}
    (moves : MovesTo draft now current transition next) (time : now.Storable)
    (storable : ∀ record, current = some record → record.Storable) : next.Storable := by
  have here : ∀ shown, some now = some shown → shown.Storable := by
    intro shown same
    cases same
    exact time
  have never : ∀ shown : Instant, none = some shown → shown.Storable := by
    intro shown absent
    cases absent
  rw [OutboxRecord.Storable, OutboxRecord.forall_times]
  cases moves with
  | first => exact ⟨time, time, here, never⟩
  | again same failed =>
      rcases OutboxRecord.forall_times _ |>.mp (storable _ rfl) with ⟨created, _, _, _⟩
      exact ⟨created, time, here, never⟩
  | answered same pending =>
      rcases OutboxRecord.forall_times _ |>.mp (storable _ rfl) with ⟨created, _, begun, _⟩
      exact ⟨created, time, begun, here⟩
  | failed same pending speaks =>
      rcases OutboxRecord.forall_times _ |>.mp (storable _ rfl) with ⟨created, _, begun, _⟩
      exact ⟨created, time, begun, never⟩

namespace Outbound

theorem storable_record (channel : Channel) (key : String) : (record channel key).Storable := by
  refine ⟨trivial, ?_⟩
  intro found timely
  cases found with
  | error error => exact trivial
  | ok found => exact trivial

theorem storable_move (draft : OutboxDraft) (transition : Transition) :
    (move draft transition).Storable := by
  refine ⟨trivial, ?_⟩
  intro found timely
  cases found with
  | error error => exact trivial
  | ok current =>
      refine ⟨trivial, ?_⟩
      intro now time
      dsimp only
      split
      next => exact trivial
      next next applied =>
        have storable : next.Storable := by
          refine (moves_of_applied applied).2.storable time ?_
          rintro record rfl
          exact timely
        refine ⟨storable, ?_⟩
        intro saved _
        cases saved with
        | error error => exact trivial
        | ok done => exact trivial

theorem storable_attempt (draft : OutboxDraft) : (attempt draft).Storable := by
  refine (storable_move draft .startAttempt).bind ?_
  intro begun
  cases begun with
  | error error => exact trivial
  | ok first =>
      refine ⟨trivial, ?_⟩
      intro outcome _
      cases outcome with
      | ok receipt => exact storable_move draft (.markSent receipt.accepted receipt.deduped)
      | error failure => exact storable_move draft (.markFailed (failureText failure))

theorem storable_deliver (draft : OutboxDraft) : (deliver draft).Storable := by
  refine ⟨trivial, ?_⟩
  intro found timely
  rcases found with error | held | record
  · exact trivial
  · exact storable_attempt draft
  · dsimp only
    split
    next => exact trivial
    next => exact storable_attempt draft

end Outbound

namespace Inbound

theorem storable_publish (channel : Channel) (id : String) (message : Message) :
    (publish channel id message).Storable := by
  rw [publish]
  split
  next => exact trivial
  next =>
    refine ⟨trivial, ?_⟩
    intro found _
    rcases found with error | held | record
    · exact trivial
    · refine ⟨trivial, ?_⟩
      intro taken _
      cases taken with
      | error error => exact trivial
      | ok taken =>
          refine ⟨trivial, ?_⟩
          intro now time
          refine ⟨List.forall_mem_singleton.mpr time, ?_⟩
          intro saved _
          cases saved with
          | error error => exact trivial
          | ok done => exact trivial
    · exact trivial

end Inbound

end ConversationBus
