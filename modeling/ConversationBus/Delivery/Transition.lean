import ConversationBus.Delivery.Record
import ConversationBus.Store.Error

/-!
# Moves of the outbox

A send begins with an attempt, which ends with the platform's answer or with a failure. A failed
send may be attempted again; a send that the platform answered is final. The record of a send is
computed from the one before it, the move and the time.
-/

namespace ConversationBus

/-- A move of the outbox. -/
inductive Transition where
  /-- Begins a send, or begins it again. -/
  | startAttempt
  /-- The platform answered. -/
  | markSent (accepted deduped : Bool)
  /-- The attempt failed. -/
  | markFailed (errorText : String)
  deriving DecidableEq, Repr

def Transition.name : Transition → String
  | .startAttempt => "start_attempt"
  | .markSent .. => "mark_sent"
  | .markFailed _ => "mark_failed"

structure SendIdentity where
  channel : Channel
  idempotencyKey : String
  deriving DecidableEq, Repr

def SendIdentity.text (identity : SendIdentity) : String :=
  s!"({identity.channel.name}, {identity.idempotencyKey})"

def OutboxDraft.identity (draft : OutboxDraft) : SendIdentity :=
  ⟨draft.channel, draft.idempotencyKey⟩

def OutboxRecord.identity (record : OutboxRecord) : SendIdentity :=
  ⟨record.channel, record.idempotencyKey⟩

/-- Why a move of the outbox fails. -/
inductive OutboxError where
  /-- The move does not lead on from the status, if there is one. -/
  | illegalTransition (status : Option OutboxStatus) (transition : Transition)
  | missingErrorText
  | missingIdempotencyKey
  | identityMismatch (expected actual : SendIdentity)
  | store (error : StoreError)
  deriving DecidableEq, Repr

def OutboxError.message : OutboxError → String
  | .illegalTransition status transition =>
    let origin := (status.map OutboxStatus.name).getD "none"
    s!"illegal outbox transition: {transition.name} from {origin}"
  | .missingErrorText => "mark_failed requires a non-empty error text"
  | .missingIdempotencyKey => "outbox idempotency key is empty"
  | .identityMismatch expected actual =>
    s!"outbox record identity mismatch: expected {expected.text}, found {actual.text}"
  | .store error => s!"outbox store error: {error.message}"

/-- One attempt more, up to the greatest number that is counted. -/
def oneMoreAttempt (attempts : Fin attemptLimit) : Fin attemptLimit :=
  if more : attempts.val + 1 < attemptLimit then ⟨attempts.val + 1, more⟩ else attempts

/-- The record of a first attempt. -/
def OutboxDraft.firstAttempt (draft : OutboxDraft) (now : Instant) : OutboxRecord where
  channel := draft.channel
  idempotencyKey := draft.idempotencyKey
  status := .pending
  attempts := ⟨1, by decide⟩
  contactId := draft.contactId
  peerId := draft.peerId
  itemId := draft.itemId
  contentType := draft.contentType
  payload := draft.payload
  accepted := false
  deduped := false
  lastError := none
  createdAt := now
  updatedAt := now
  lastAttemptAt := some now
  sentAt := none

/-- The record of a further attempt. The details come from the draft; the identity and the time
of the first attempt stay. -/
def OutboxRecord.nextAttempt (record : OutboxRecord) (draft : OutboxDraft) (now : Instant) :
    OutboxRecord :=
  { record with
    status := .pending
    attempts := oneMoreAttempt record.attempts
    contactId := draft.contactId
    peerId := draft.peerId
    itemId := draft.itemId
    contentType := draft.contentType
    payload := draft.payload
    accepted := false
    deduped := false
    lastError := none
    updatedAt := now
    lastAttemptAt := some now
    sentAt := none }

/-- The record of a send that the platform answered. -/
def OutboxRecord.answered (record : OutboxRecord) (accepted deduped : Bool) (now : Instant) :
    OutboxRecord :=
  { record with
    status := .sent
    accepted
    deduped
    lastError := none
    updatedAt := now
    sentAt := some now }

/-- The record of an attempt that failed. -/
def OutboxRecord.withFailure (record : OutboxRecord) (errorText : String) (now : Instant) :
    OutboxRecord :=
  { record with
    status := .failed
    accepted := false
    deduped := false
    lastError := some errorText
    updatedAt := now
    sentAt := none }

/-- Whether the record of a send, if there is one, has the identity of the draft. -/
def checkIdentity (current : Option OutboxRecord) (draft : OutboxDraft) :
    Except OutboxError Unit :=
  match current with
  | some record =>
    if record.identity = draft.identity then .ok ()
    else .error (.identityMismatch draft.identity record.identity)
  | none => .ok ()

/-- The record after a move at a given time. -/
def applyTransition (current : Option OutboxRecord) (draft : OutboxDraft)
    (transition : Transition) (now : Instant) : Except OutboxError OutboxRecord :=
  if Text.allBlank draft.idempotencyKey then .error .missingIdempotencyKey
  else do
    checkIdentity current draft
    let illegal := .error (.illegalTransition (current.map (·.status)) transition)
    match transition with
    | .startAttempt =>
      match current with
      | none => .ok (draft.firstAttempt now)
      | some record =>
        if record.status = .failed then .ok (record.nextAttempt draft now) else illegal
    | .markSent accepted deduped =>
      match current with
      | some record =>
        if record.status = .pending then .ok (record.answered accepted deduped now) else illegal
      | none => illegal
    | .markFailed errorText =>
      if Text.allBlank errorText then .error .missingErrorText
      else match current with
        | some record =>
          if record.status = .pending then .ok (record.withFailure errorText now) else illegal
        | none => illegal

end ConversationBus
