import ConversationBus.Flow.Basic

/-!
# Delivery of sends

A send goes through the moves of the outbox, each of which is saved before the next: the attempt
is saved, then the platform is asked, then its answer is saved. A send that the platform answered
is not repeated. One that was interrupted stays pending until somebody marks it as failed.
-/

namespace ConversationBus.Outbound

/-- The last state of a send, if it was ever attempted. -/
def record (channel : Channel) (key : String) : Flow (Except OutboxError (Option OutboxRecord)) :=
  .act (.findOutbox channel key) fun
    | .error error => .done (.error (.store error))
    | .ok found => .done (.ok found)

/-- Saves the record of a move, which is also the result. -/
def save (record : OutboxRecord) : Flow (Except OutboxError OutboxRecord) :=
  .act (.saveOutbox record) fun
    | .error error => .done (.error (.store error))
    | .ok () => .done (.ok record)

/-- Makes one move of a send. -/
def move (draft : OutboxDraft) (transition : Transition) :
    Flow (Except OutboxError OutboxRecord) :=
  .act (.findOutbox draft.channel draft.idempotencyKey) fun
    | .error error => .done (.error (.store error))
    | .ok current =>
      .act .now fun now =>
        match applyTransition current draft transition now with
        | .error error => .done (.error error)
        | .ok next => save next

def startAttempt (draft : OutboxDraft) : Flow (Except OutboxError OutboxRecord) :=
  move draft .startAttempt

/-- Saves the answer of the platform. -/
def markSent (draft : OutboxDraft) (accepted deduped : Bool) :
    Flow (Except OutboxError OutboxRecord) :=
  move draft (.markSent accepted deduped)

/-- Saves that the attempt failed. -/
def markFailed (draft : OutboxDraft) (errorText : String) :
    Flow (Except OutboxError OutboxRecord) :=
  move draft (.markFailed errorText)

/-- What is saved of a failure: its causes, or a text that stands for none. -/
def failureText (failure : SendFailure) : String :=
  let text := ": ".intercalate failure
  if Text.allBlank text then "send failed" else text

/-- Attempts a send and saves how it ended. -/
def attempt (draft : OutboxDraft) : Flow (Except OutboxError OutboxRecord) :=
  (startAttempt draft).bind fun
    | .error error => .done (.error error)
    | .ok _ =>
      .act .send fun
        | .ok receipt => markSent draft receipt.accepted receipt.deduped
        | .error failure => markFailed draft (failureText failure)

/-- Runs a send through its moves, unless the platform answered it before. -/
def deliver (draft : OutboxDraft) : Flow (Except OutboxError OutboxRecord) :=
  .act (.findOutbox draft.channel draft.idempotencyKey) fun
    | .error error => .done (.error (.store error))
    | .ok (some held) => if held.status = .sent then .done (.ok held) else attempt draft
    | .ok none => attempt draft

end ConversationBus.Outbound
