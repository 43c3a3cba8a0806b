import ConversationBus.Proofs.Store.Interchange
import ConversationBus.Proofs.Store.Places

/-!
# What the delivery layer touches

Whatever a call of the delivery layer is answered, it looks up and saves the record of one identity
only. A move does not save under the identity of a record that it has found, but under that of its
draft.
-/

namespace ConversationBus

/-- The identity of the record that an action looks up or saves, if it does. -/
def Action.identity? : Action → Option Identity
  | .findInbox channel id => some (.event channel id)
  | .saveInbox record => some (.event record.channel record.platformMessageId)
  | .findOutbox channel key => some (.send ⟨channel, key⟩)
  | .saveOutbox record => some (.send record.identity)
  | .publish _ | .send | .now | .cancelled | .close => none

namespace Flow

variable {α β : Type} {own : Identity → Prop}

/-- Whatever a flow is answered, it looks up and saves records of some identities only. -/
def Within (own : Identity → Prop) : Flow α → Prop
  | .done _ => True
  | .act action next =>
    (∀ identity ∈ action.identity?, own identity) ∧ ∀ answer, (next answer).Within own

theorem Within.bind {flow : Flow α} {rest : α → Flow β} (within : flow.Within own)
    (later : ∀ result, (rest result).Within own) : (flow.bind rest).Within own := by
  induction flow with
  | done result => exact later result
  | act action next ih => exact ⟨within.1, fun answer => ih answer (within.2 answer)⟩

/-- A flow that begins with an action on an identity of its own. -/
theorem within_act {action : Action} {identity : Identity} {next : action.Answer → Flow α}
    (mine : own identity) (touches : action.identity? = some identity)
    (later : ∀ answer, (next answer).Within own) : (act action next).Within own := by
  refine ⟨?_, later⟩
  rw [touches]
  rintro _ ⟨⟩
  exact mine

/-- A flow that begins with an action beside the store. -/
theorem within_beside {action : Action} {next : action.Answer → Flow α}
    (beside : action.identity? = none) (later : ∀ answer, (next answer).Within own) :
    (act action next).Within own := by
  refine ⟨?_, later⟩
  rw [beside]
  nofun

end Flow

namespace Outbound

variable {own : Identity → Prop}

theorem within_record {channel : Channel} {key : String} (mine : own (.send ⟨channel, key⟩)) :
    (record channel key).Within own := by
  refine Flow.within_act mine rfl fun found => ?_
  cases found with
  | error error => exact trivial
  | ok found => exact trivial

variable {draft : OutboxDraft} (mine : own (.send draft.identity))

include mine

/-- A move saves a record of the identity that it has looked up. -/
theorem within_move (transition : Transition) : (move draft transition).Within own := by
  refine Flow.within_act mine rfl fun found => ?_
  cases found with
  | error error => exact trivial
  | ok current =>
      refine Flow.within_beside rfl fun now => ?_
      split
      next => exact trivial
      next next applied =>
        have same : next.identity = draft.identity := (moves_of_applied applied).2.identity
        refine Flow.within_act mine (by rw [Action.identity?, same]) fun saved => ?_
        cases saved with
        | error error => exact trivial
        | ok done => exact trivial

theorem within_attempt : (attempt draft).Within own := by
  refine (within_move mine .startAttempt).bind fun begun => ?_
  cases begun with
  | error error => exact trivial
  | ok first =>
      refine Flow.within_beside rfl fun outcome => ?_
      cases outcome with
      | ok receipt => exact within_move mine (.markSent receipt.accepted receipt.deduped)
      | error failure => exact within_move mine (.markFailed (failureText failure))

theorem within_deliver : (deliver draft).Within own := by
  refine Flow.within_act mine rfl fun found => ?_
  rcases found with error | held | record
  · exact trivial
  · exact within_attempt mine
  · dsimp only
    split
    next => exact trivial
    next => exact within_attempt mine

end Outbound

theorem Inbound.within_publish {own : Identity → Prop} {channel : Channel} {id : String}
    (mine : own (.event channel id)) (message : Message) :
    (publish channel id message).Within own := by
  rw [publish]
  split
  next => exact trivial
  next =>
    refine Flow.within_act mine rfl fun found => ?_
    rcases found with error | held | record
    · exact trivial
    · refine Flow.within_beside rfl fun taken => ?_
      cases taken with
      | error error => exact trivial
      | ok taken =>
          refine Flow.within_beside rfl fun now => ?_
          refine Flow.within_act mine rfl fun saved => ?_
          cases saved with
          | error error => exact trivial
          | ok done => exact trivial
    · exact trivial

namespace Interchange

/-- What a call is about. -/
def Request.identity : Request → Identity
  | .record channel key => .send ⟨channel, key⟩
  | .send operation => .send operation.draft.identity
  | .receive channel event => .event channel event.id

theorem Request.within {own : Identity → Prop} {request : Request} (mine : own request.identity) :
    request.flow.Within own := by
  cases request with
  | record channel key => exact (Outbound.within_record mine).bind fun _ => trivial
  | send operation =>
      refine Flow.Within.bind ?_ fun _ => trivial
      cases operation with
      | startAttempt draft => exact Outbound.within_move mine .startAttempt
      | markSent draft accepted deduped =>
          exact Outbound.within_move mine (.markSent accepted deduped)
      | markFailed draft errorText => exact Outbound.within_move mine (.markFailed errorText)
      | deliver draft => exact Outbound.within_deliver mine
  | receive channel event =>
      exact (Inbound.within_publish mine event.message).bind fun _ => trivial

end Interchange

end ConversationBus
