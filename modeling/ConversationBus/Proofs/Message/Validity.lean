import ConversationBus.Proofs.Text.Canonical
import ConversationBus.Proofs.Uuid.Spellings

/-!
# Valid messages

The messages that validation accepts, described field by field, and the error of any other: the one
of the first rule that the message breaks, in the order of the fields below.
-/

namespace ConversationBus

/-! ## Validity -/

/-- A UUID whose version orders by time. -/
def Uuid.TimeOrdered (uuid : Uuid) : Prop := uuid.versionDigit.val = 7

/-- What the identifiers of an envelope have to be. -/
structure Envelope.Valid (envelope : Envelope) : Prop where
  messageId : Canonical envelope.messageId
  sessionId : envelope.sessionId.TimeOrdered
  replyTo : ∀ text, envelope.replyTo = some text → Canonical text

/-- What the metadata of a message has to be. -/
structure Extensions.Valid (extensions : Extensions) : Prop where
  platformMessageId : ∀ text, extensions.platformMessageId = some text → Canonical text
  replyTo : ∀ text, extensions.replyTo = some text → Canonical text
  teamId : ∀ text, extensions.teamId = some text → Canonical text
  chatId : ∀ text, extensions.chatId = some text → Canonical text
  mentionedUsers : ∀ text ∈ extensions.mentionedUsers, Canonical text
  sessionId : ∀ text, extensions.sessionId = some text →
    ∃ uuid : Uuid, uuid.Spelled text.toList ∧ uuid.TimeOrdered

/-- A valid message, with its topic and its payload. -/
structure Message.Valid (message : Message) (topic : Topic) (payload : Payload) : Prop where
  id : ∀ text, message.id = some text → Canonical text
  known : message.topic = topic.name
  conversationKey : Canonical message.conversationKey
  idempotencyKey : Canonical message.idempotencyKey
  nonempty : message.payload ≠ []
  decodes : Payload.decode? topic message.payload = some payload
  envelope : ∀ envelope, payload = .dmReply envelope ∨ payload = .chatMessage envelope →
    envelope.Valid
  participantKey : ∀ text, message.participantKey = some text → Canonical text
  correlationId : ∀ text, message.correlationId = some text → Canonical text
  causationId : ∀ text, message.causationId = some text → Canonical text
  extensions : message.extensions.Valid

/-! ## Rules -/

/-- The rules of validation, one a field. -/
inductive Rule where
  | id
  | topic
  | conversationKey
  | idempotencyKey
  | payload
  | payloadMessageId
  | payloadSessionId
  | payloadReplyTo
  | participantKey
  | correlationId
  | causationId
  | platformMessageId
  | replyTo
  | teamId
  | chatId
  | mentionedUsers
  | sessionId
  deriving DecidableEq, Repr

namespace Rule

/-- The rules in the order in which they are applied. -/
def all : List Rule :=
  [.id, .topic, .conversationKey, .idempotencyKey, .payload, .payloadMessageId, .payloadSessionId,
    .payloadReplyTo, .participantKey, .correlationId, .causationId, .platformMessageId, .replyTo,
    .teamId, .chatId, .mentionedUsers, .sessionId]

def field : Rule → String
  | .id => "id"
  | .topic => "topic"
  | .conversationKey => "conversation_key"
  | .idempotencyKey => "idempotency_key"
  | .payload => "payload"
  | .payloadMessageId => "payload.message_id"
  | .payloadSessionId => "payload.session_id"
  | .payloadReplyTo => "payload.reply_to"
  | .participantKey => "participant_key"
  | .correlationId => "correlation_id"
  | .causationId => "causation_id"
  | .platformMessageId => "extensions.platform_message_id"
  | .replyTo => "extensions.reply_to"
  | .teamId => "extensions.team_id"
  | .chatId => "extensions.chat_id"
  | .mentionedUsers => "extensions.mentioned_users"
  | .sessionId => "extensions.session_id"

/-- The rules that want texts to be canonical and nothing else. -/
def Textual (rule : Rule) : Prop :=
  rule ∉ [.topic, .payload, .payloadSessionId, .sessionId]

instance (rule : Rule) : Decidable rule.Textual :=
  inferInstanceAs (Decidable (rule ∉ _))

end Rule

namespace Message

/-- The envelope in the payload of a message, if its topic is known and has one. -/
def envelope? (message : Message) : Option Envelope := do
  let topic ← Topic.ofName? message.topic
  let payload ← Payload.decode? topic message.payload
  payload.envelope?

/-- The texts that a rule wants to be canonical, in the order in which they are checked. -/
def identifiers (message : Message) : Rule → List String
  | .id => message.id.toList
  | .conversationKey => [message.conversationKey]
  | .idempotencyKey => [message.idempotencyKey]
  | .payloadMessageId => (message.envelope?.map (·.messageId)).toList
  | .payloadReplyTo => (message.envelope?.bind (·.replyTo)).toList
  | .participantKey => message.participantKey.toList
  | .correlationId => message.correlationId.toList
  | .causationId => message.causationId.toList
  | .platformMessageId => message.extensions.platformMessageId.toList
  | .replyTo => message.extensions.replyTo.toList
  | .teamId => message.extensions.teamId.toList
  | .chatId => message.extensions.chatId.toList
  | .mentionedUsers => message.extensions.mentionedUsers
  | .topic | .payload | .payloadSessionId | .sessionId => []

/-- A message breaks a rule, with the error that tells so. -/
inductive Breaks (message : Message) : Rule → ValidationError → Prop where
  | identifier {rule : Rule} {earlier later : List String} {text : String} {fault : FieldFault}
      (texts : message.identifiers rule = earlier ++ text :: later)
      (sound : ∀ other ∈ earlier, Canonical other) (flaw : Flaw text fault) :
      Breaks message rule (.invalidField rule.field fault)
  | topic (unknown : ∀ topic : Topic, message.topic ≠ topic.name) :
      Breaks message .topic (.unknownTopic message.topic)
  | noPayload (empty : message.payload = []) :
      Breaks message .payload (.invalidField Rule.payload.field .required)
  | payload {topic : Topic} (known : message.topic = topic.name) (some : message.payload ≠ [])
      (malformed : Payload.decode? topic message.payload = none) :
      Breaks message .payload (.invalidPayload topic)
  | payloadSession {envelope : Envelope} (has : message.envelope? = some envelope)
      (unordered : ¬ envelope.sessionId.TimeOrdered) :
      Breaks message .payloadSessionId
        (.invalidField Rule.payloadSessionId.field (.notTimeOrdered envelope.sessionId.version?))
  | noSession {text : String} (session : message.extensions.sessionId = some text)
      (foreign : ∀ uuid : Uuid, ¬ uuid.Spelled text.toList) :
      Breaks message .sessionId (.invalidField Rule.sessionId.field .notUuid)
  | session {text : String} {uuid : Uuid} (session : message.extensions.sessionId = some text)
      (spelled : uuid.Spelled text.toList) (unordered : ¬ uuid.TimeOrdered) :
      Breaks message .sessionId
        (.invalidField Rule.sessionId.field (.notTimeOrdered uuid.version?))

/-- The first of the rules that a message breaks, with its error. -/
def FirstBroken (message : Message) (rule : Rule) (error : ValidationError) : Prop :=
  ∃ earlier later, Rule.all = earlier ++ rule :: later ∧
    (∀ other ∈ earlier, ∀ error, ¬ message.Breaks other error) ∧ message.Breaks rule error

end Message

/-! ## Checks in a row -/

theorem ok_bind {α β ε : Type} (value : α) (next : α → Except ε β) :
    (Except.ok value >>= next) = next value :=
  rfl

theorem error_bind {α β ε : Type} (error : ε) (next : α → Except ε β) :
    (Except.error error >>= next) = .error error :=
  rfl

theorem forM_eq_ok_iff {α ε : Type} {check : α → Except ε Unit} {items : List α} :
    items.forM check = .ok () ↔ ∀ item ∈ items, check item = .ok () := by
  induction items with
  | nil => exact ⟨fun _ => nofun, fun _ => rfl⟩
  | cons first others ih =>
      rw [List.forall_mem_cons, ← ih]
      show (check first >>= fun _ => others.forM check) = .ok () ↔ _
      cases check first with
      | error error => simp [error_bind]
      | ok => simp [ok_bind]

/-- Checks in a row fail with the error of the first one that fails. -/
theorem forM_eq_error_iff {α ε : Type} {check : α → Except ε Unit} {items : List α} {error : ε} :
    items.forM check = .error error ↔ ∃ earlier item later, items = earlier ++ item :: later ∧
      (∀ other ∈ earlier, check other = .ok ()) ∧ check item = .error error := by
  induction items with
  | nil =>
      constructor
      · intro failed
        cases failed
      · rintro ⟨earlier, item, later, none, -⟩
        cases earlier <;> cases none
  | cons first others ih =>
      show (check first >>= fun _ => others.forM check) = .error error ↔ _
      constructor
      · intro failed
        cases checked : check first with
        | error reason =>
            rw [checked, error_bind] at failed
            cases failed
            exact ⟨[], first, others, rfl, nofun, checked⟩
        | ok =>
            rw [checked, ok_bind] at failed
            rcases ih.mp failed with ⟨earlier, item, later, rfl, passed, fails⟩
            exact ⟨first :: earlier, item, later, rfl,
              List.forall_mem_cons.mpr ⟨checked, passed⟩, fails⟩
      · rintro ⟨earlier, item, later, same, passed, fails⟩
        cases earlier with
        | nil =>
            cases same
            rw [fails, error_bind]
        | cons head earlier =>
            cases same
            rw [passed _ List.mem_cons_self, ok_bind]
            exact ih.mpr ⟨earlier, item, later, rfl,
              fun other member => passed other (List.mem_cons_of_mem _ member), fails⟩

theorem forM_singleton {α ε : Type} (check : α → Except ε Unit) (item : α) :
    [item].forM check = check item := by
  simp

/-- The check that stands behind a rule, for a message that keeps the rules before it. -/
def Message.check (message : Message) : Rule → Except ValidationError Unit
  | .topic => (resolveTopic message.topic).map fun _ => ()
  | .payload =>
    if message.payload = [] then .error (.invalidField "payload" .required)
    else (Topic.ofName? message.topic).elim (.ok ()) fun topic =>
      (decodePayload topic message.payload).map fun _ => ()
  | .payloadSessionId =>
    message.envelope?.elim (.ok ()) fun envelope =>
      checkTimeOrdered "payload.session_id" envelope.sessionId
  | .sessionId => checkSession message.extensions.sessionId
  | rule => (message.identifiers rule).forM (checkCanonical rule.field)

theorem checkOptional_eq_forM (field : String) (text : Option String) :
    checkOptional field text = text.toList.forM (checkCanonical field) := by
  cases text with
  | none => rfl
  | some text => simp [checkOptional]

/-- What validation returns for a message that keeps the rules. -/
def Message.contents (message : Message) : Except ValidationError (Topic × Payload) := do
  let topic ← resolveTopic message.topic
  let payload ← decodePayload topic message.payload
  pure (topic, payload)

theorem resolveTopic_eq (name : String) :
    resolveTopic name = (Topic.ofName? name).elim (.error (.unknownTopic name)) .ok := by
  rw [resolveTopic]
  cases Topic.ofName? name with
  | none => rfl
  | some topic => rfl

theorem decodePayload_nil (topic : Topic) :
    decodePayload topic [] = .error (.invalidField "payload" .required) :=
  rfl

theorem decodePayload_eq_ok_iff {topic : Topic} {bytes : List UInt8} {payload : Payload} :
    decodePayload topic bytes = .ok payload ↔
      bytes ≠ [] ∧ Payload.decode? topic bytes = some payload := by
  simp only [decodePayload, List.isEmpty_iff]
  split
  next empty => simp [empty]
  next some => cases Payload.decode? topic bytes <;> simp [some]

theorem checkPayload_eq (payload : Payload) :
    checkPayload payload = (do
      (payload.envelope?.map (·.messageId)).toList.forM (checkCanonical "payload.message_id")
      payload.envelope?.elim (.ok ()) fun envelope =>
        checkTimeOrdered "payload.session_id" envelope.sessionId
      (payload.envelope?.bind (·.replyTo)).toList.forM (checkCanonical "payload.reply_to")) := by
  rw [checkPayload]
  cases payload.envelope? with
  | none => rfl
  | some envelope =>
      simp only [checkEnvelope, checkOptional_eq_forM, Option.map_some, Option.toList_some,
        forM_singleton, Option.elim_some, Option.bind_some]

/-- Validation applies the rules one after another. -/
theorem Message.decode_eq (message : Message) :
    message.decode = Rule.all.forM message.check >>= fun _ => message.contents := by
  have apart : Rule.all.forM message.check = (do
      message.check .id
      message.check .topic
      message.check .conversationKey
      message.check .idempotencyKey
      message.check .payload
      message.check .payloadMessageId
      message.check .payloadSessionId
      message.check .payloadReplyTo
      message.check .participantKey
      message.check .correlationId
      message.check .causationId
      message.check .platformMessageId
      message.check .replyTo
      message.check .teamId
      message.check .chatId
      message.check .mentionedUsers
      message.check .sessionId
      pure ()) := rfl
  rw [apart]
  simp only [decode, check, contents, checkExtensions, bind_assoc, pure_bind,
    checkOptional_eq_forM, identifiers, Rule.field, forM_singleton, resolveTopic_eq]
  cases named : Topic.ofName? message.topic with
  | none => rfl
  | some topic =>
      simp only [Option.elim_some, Except.map, ok_bind]
      cases decoded : decodePayload topic message.payload with
      | error error =>
          by_cases empty : message.payload = []
          · rw [empty, decodePayload_nil] at decoded
            simp only [if_pos empty, ← Except.error.inj decoded, error_bind]
          · simp only [if_neg empty, error_bind]
      | ok payload =>
          rw [if_neg (decodePayload_eq_ok_iff.mp decoded).1]
          have envelope : message.envelope? = payload.envelope? := by
            simp [envelope?, named, (decodePayload_eq_ok_iff.mp decoded).2]
          simp only [envelope, checkPayload_eq, ok_bind, bind_assoc]

/-! ## Rules one by one -/

theorem Topic.ofName?_eq_some_iff {name : String} {topic : Topic} :
    Topic.ofName? name = some topic ↔ name = topic.name := by
  constructor
  · intro found
    have named := List.find?_some found
    exact (beq_iff_eq.mp named).symm
  · rintro rfl
    cases topic <;> rfl

theorem Uuid.version?_eq_sortedRandom_iff {uuid : Uuid} :
    uuid.version? = some .sortedRandom ↔ uuid.TimeOrdered := by
  rw [Uuid.version?, Uuid.TimeOrdered]
  constructor
  · intro version
    split at version <;> grind
  · intro seven
    have digit : uuid.versionDigit = ⟨7, by decide⟩ := Fin.ext seven
    rw [digit]
    rfl

theorem checkTimeOrdered_eq_error_iff {field : String} {uuid : Uuid} {error : ValidationError} :
    checkTimeOrdered field uuid = .error error ↔
      ¬ uuid.TimeOrdered ∧ error = .invalidField field (.notTimeOrdered uuid.version?) := by
  rw [checkTimeOrdered, ← Uuid.version?_eq_sortedRandom_iff]
  split
  next ordered => simp [ordered]
  next other =>
    have unordered : ¬ uuid.version? = some .sortedRandom := other
    rw [Except.error.injEq, and_iff_right unordered, eq_comm]

/-- Texts that have to be canonical fail with the first fault of the first one that is not. -/
theorem forM_checkCanonical_eq_error_iff {field : String} {texts : List String}
    {error : ValidationError} :
    texts.forM (checkCanonical field) = .error error ↔ ∃ earlier text later fault,
      texts = earlier ++ text :: later ∧ (∀ other ∈ earlier, Canonical other) ∧ Flaw text fault ∧
        error = .invalidField field fault := by
  simp only [forM_eq_error_iff, checkCanonical_eq_ok_iff, checkCanonical_eq_error_iff]
  constructor
  · rintro ⟨earlier, text, later, same, sound, fault, flaw, rfl⟩
    exact ⟨earlier, text, later, fault, same, sound, flaw, rfl⟩
  · rintro ⟨earlier, text, later, fault, same, sound, flaw, rfl⟩
    exact ⟨earlier, text, later, same, sound, fault, flaw, rfl⟩

namespace Message

variable {message : Message} {rule : Rule} {error : ValidationError}

theorem breaks_text_iff (textual : rule.Textual) :
    (message.identifiers rule).forM (checkCanonical rule.field) = .error error ↔
      message.Breaks rule error := by
  rw [forM_checkCanonical_eq_error_iff]
  constructor
  · rintro ⟨earlier, text, later, fault, texts, sound, flaw, rfl⟩
    exact .identifier texts sound flaw
  · intro broken
    cases broken with
    | identifier texts sound flaw => exact ⟨_, _, _, _, texts, sound, flaw, rfl⟩
    | topic | noPayload | payload | payloadSession | noSession | session =>
        exact absurd textual (by decide)

theorem breaks_topic_iff : message.check .topic = .error error ↔ message.Breaks .topic error := by
  rw [check, resolveTopic_eq]
  constructor
  · intro failed
    cases named : Topic.ofName? message.topic with
    | none =>
        rw [named] at failed
        cases failed
        refine .topic fun topic same => ?_
        rw [Topic.ofName?_eq_some_iff.mpr same] at named
        cases named
    | some topic =>
        rw [named] at failed
        cases failed
  · intro broken
    cases broken with
    | identifier texts => simp [identifiers] at texts
    | topic unknown =>
        cases named : Topic.ofName? message.topic with
        | none => rfl
        | some topic => exact absurd (Topic.ofName?_eq_some_iff.mp named) (unknown topic)

theorem breaks_payload_iff :
    message.check .payload = .error error ↔ message.Breaks .payload error := by
  rw [check]
  constructor
  · intro failed
    split at failed
    next empty =>
      cases failed
      exact .noPayload empty
    next some =>
      cases named : Topic.ofName? message.topic with
      | none =>
          rw [named] at failed
          cases failed
      | some topic =>
          have known := Topic.ofName?_eq_some_iff.mp named
          simp only [named, Option.elim_some, decodePayload, List.isEmpty_iff,
            if_neg some] at failed
          split at failed
          next => cases failed
          next malformed =>
            cases failed
            exact .payload known some malformed
  · intro broken
    cases broken with
    | identifier texts => simp [identifiers] at texts
    | noPayload empty =>
        rw [if_pos empty]
        rfl
    | payload known some malformed =>
        simp only [if_neg some, Topic.ofName?_eq_some_iff.mpr known, Option.elim_some,
          decodePayload, List.isEmpty_iff, malformed]
        rfl

theorem breaks_payloadSession_iff :
    message.check .payloadSessionId = .error error ↔ message.Breaks .payloadSessionId error := by
  rw [check]
  constructor
  · intro failed
    cases has : message.envelope? with
    | none =>
        rw [has] at failed
        cases failed
    | some envelope =>
        rw [has] at failed
        rcases checkTimeOrdered_eq_error_iff.mp failed with ⟨unordered, rfl⟩
        exact .payloadSession has unordered
  · intro broken
    cases broken with
    | identifier texts => simp [identifiers] at texts
    | payloadSession has unordered =>
        rw [has]
        exact checkTimeOrdered_eq_error_iff.mpr ⟨unordered, rfl⟩

theorem breaks_session_iff :
    message.check .sessionId = .error error ↔ message.Breaks .sessionId error := by
  rw [check]
  constructor
  · intro failed
    cases session : message.extensions.sessionId with
    | none =>
        rw [session] at failed
        cases failed
    | some text =>
        rw [session, checkSession] at failed
        split at failed
        next uuid spelled =>
          rcases checkTimeOrdered_eq_error_iff.mp failed with ⟨unordered, rfl⟩
          exact .session session (Uuid.parse?_eq_some_iff.mp spelled) unordered
        next foreign =>
          cases failed
          refine .noSession session fun uuid spelled => ?_
          rw [Uuid.parse?_eq_some_iff.mpr spelled] at foreign
          cases foreign
  · intro broken
    cases broken with
    | identifier texts => simp [identifiers] at texts
    | @noSession text session foreign =>
        have unread : Uuid.parse? text = none := by
          cases read : Uuid.parse? text with
          | none => rfl
          | some uuid => exact absurd (Uuid.parse?_eq_some_iff.mp read) (foreign uuid)
        simp only [session, checkSession, unread]
        rfl
    | session session spelled unordered =>
        simp only [session, checkSession, Uuid.parse?_eq_some_iff.mpr spelled]
        exact checkTimeOrdered_eq_error_iff.mpr ⟨unordered, rfl⟩

/-- The check behind a rule fails exactly when the message breaks the rule, and as it says. -/
theorem check_eq_error_iff : message.check rule = .error error ↔ message.Breaks rule error := by
  cases rule with
  | topic => exact breaks_topic_iff
  | payload => exact breaks_payload_iff
  | payloadSessionId => exact breaks_payloadSession_iff
  | sessionId => exact breaks_session_iff
  | _ => exact breaks_text_iff (by decide)

theorem check_eq_ok_iff : message.check rule = .ok () ↔ ∀ error, ¬ message.Breaks rule error := by
  constructor
  · intro passed error broken
    rw [check_eq_error_iff.mpr broken] at passed
    cases passed
  · intro kept
    cases checked : message.check rule with
    | ok => rfl
    | error error => exact absurd (check_eq_error_iff.mp checked) (kept error)

/-! ## The whole of validation -/

theorem contents_eq_ok_iff {topic : Topic} {payload : Payload} :
    message.contents = .ok (topic, payload) ↔ message.topic = topic.name ∧
      message.payload ≠ [] ∧ Payload.decode? topic message.payload = some payload := by
  rw [contents, resolveTopic_eq, ← Topic.ofName?_eq_some_iff, ← decodePayload_eq_ok_iff]
  cases Topic.ofName? message.topic with
  | none => simp [error_bind]
  | some known =>
      rw [Option.elim_some, ok_bind]
      cases decoded : decodePayload known message.payload with
      | error error =>
          rw [error_bind]
          constructor
          · intro made
            cases made
          · rintro ⟨same, other⟩
            cases same
            rw [decoded] at other
            cases other
      | ok found =>
          rw [ok_bind]
          constructor
          · intro made
            cases made
            exact ⟨rfl, decoded⟩
          · rintro ⟨same, other⟩
            cases same
            rw [decoded] at other
            cases other
            rfl

theorem check_text_eq_ok_iff (textual : rule.Textual) :
    message.check rule = .ok () ↔ ∀ text ∈ message.identifiers rule, Canonical text := by
  have same : message.check rule = (message.identifiers rule).forM (checkCanonical rule.field) := by
    cases rule with
    | topic | payload | payloadSessionId | sessionId => exact absurd textual (by decide)
    | _ => rfl
  rw [same, forM_eq_ok_iff]
  simp only [checkCanonical_eq_ok_iff]

theorem envelope?_eq_some_iff {topic : Topic} {payload : Payload} {envelope : Envelope}
    (known : message.topic = topic.name)
    (decodes : Payload.decode? topic message.payload = some payload) :
    message.envelope? = some envelope ↔
      payload = .dmReply envelope ∨ payload = .chatMessage envelope := by
  rw [envelope?, Topic.ofName?_eq_some_iff.mpr known, Option.bind_eq_bind, Option.bind_some,
    decodes, Option.bind_eq_bind, Option.bind_some]
  cases payload <;> simp [Payload.envelope?]

theorem check_session_eq_ok_iff :
    message.check .sessionId = .ok () ↔ ∀ text, message.extensions.sessionId = some text →
      ∃ uuid : Uuid, uuid.Spelled text.toList ∧ uuid.TimeOrdered := by
  rw [check_eq_ok_iff]
  constructor
  · intro kept text session
    by_contra none
    by_cases spelled : ∃ uuid : Uuid, uuid.Spelled text.toList
    · rcases spelled with ⟨uuid, spelled⟩
      exact kept _ (.session session spelled fun ordered => none ⟨uuid, spelled, ordered⟩)
    · exact kept _ (.noSession session fun uuid found => spelled ⟨uuid, found⟩)
  · intro sound error broken
    cases broken with
    | identifier texts => simp [identifiers] at texts
    | noSession session foreign =>
        rcases sound _ session with ⟨uuid, spelled, -⟩
        exact foreign uuid spelled
    | session session spelled unordered =>
        rcases sound _ session with ⟨uuid, other, ordered⟩
        -- a text spells one UUID at most
        have same := (Uuid.parse?_eq_some_iff.mpr spelled).symm.trans
          (Uuid.parse?_eq_some_iff.mpr other)
        cases same
        exact unordered ordered

theorem check_payloadSession_eq_ok_iff :
    message.check .payloadSessionId = .ok () ↔ ∀ envelope, message.envelope? = some envelope →
      envelope.sessionId.TimeOrdered := by
  rw [check_eq_ok_iff]
  constructor
  · intro kept envelope has
    by_contra unordered
    exact kept _ (.payloadSession has unordered)
  · intro sound error broken
    cases broken with
    | identifier texts => simp [identifiers] at texts
    | payloadSession has unordered => exact unordered (sound _ has)

theorem Valid.checked {topic : Topic} {payload : Payload} (valid : message.Valid topic payload)
    (rule : Rule) : message.check rule = .ok () := by
  have sound {envelope : Envelope} (has : message.envelope? = some envelope) : envelope.Valid :=
    valid.envelope envelope ((envelope?_eq_some_iff valid.known valid.decodes).mp has)
  have texts (textual : rule.Textual)
      (canonical : ∀ text ∈ message.identifiers rule, Canonical text) :
      message.check rule = .ok () :=
    (check_text_eq_ok_iff textual).mpr canonical
  cases rule with
  | id => exact texts (by decide) fun text member => valid.id text (Option.mem_toList.mp member)
  | topic =>
      rw [check, resolveTopic_eq, Topic.ofName?_eq_some_iff.mpr valid.known]
      rfl
  | conversationKey =>
      exact texts (by decide) fun text member =>
        List.mem_singleton.mp member ▸ valid.conversationKey
  | idempotencyKey =>
      exact texts (by decide) fun text member =>
        List.mem_singleton.mp member ▸ valid.idempotencyKey
  | payload =>
      rw [check, if_neg valid.nonempty, Topic.ofName?_eq_some_iff.mpr valid.known, Option.elim_some,
        decodePayload_eq_ok_iff.mpr ⟨valid.nonempty, valid.decodes⟩]
      rfl
  | payloadMessageId =>
      refine texts (by decide) fun text member => ?_
      rcases Option.map_eq_some_iff.mp (Option.mem_toList.mp member) with ⟨envelope, has, rfl⟩
      exact (sound has).messageId
  | payloadSessionId => exact check_payloadSession_eq_ok_iff.mpr fun _ has => (sound has).sessionId
  | payloadReplyTo =>
      refine texts (by decide) fun text member => ?_
      rcases Option.bind_eq_some_iff.mp (Option.mem_toList.mp member) with ⟨envelope, has, reply⟩
      exact (sound has).replyTo text reply
  | participantKey =>
      exact texts (by decide) fun text member =>
        valid.participantKey text (Option.mem_toList.mp member)
  | correlationId =>
      exact texts (by decide) fun text member =>
        valid.correlationId text (Option.mem_toList.mp member)
  | causationId =>
      exact texts (by decide) fun text member =>
        valid.causationId text (Option.mem_toList.mp member)
  | platformMessageId =>
      exact texts (by decide) fun text member =>
        valid.extensions.platformMessageId text (Option.mem_toList.mp member)
  | replyTo =>
      exact texts (by decide) fun text member =>
        valid.extensions.replyTo text (Option.mem_toList.mp member)
  | teamId =>
      exact texts (by decide) fun text member =>
        valid.extensions.teamId text (Option.mem_toList.mp member)
  | chatId =>
      exact texts (by decide) fun text member =>
        valid.extensions.chatId text (Option.mem_toList.mp member)
  | mentionedUsers => exact texts (by decide) valid.extensions.mentionedUsers
  | sessionId => exact check_session_eq_ok_iff.mpr valid.extensions.sessionId

theorem valid_of_checked {topic : Topic} {payload : Payload}
    (checked : ∀ rule, message.check rule = .ok ())
    (contents : message.contents = .ok (topic, payload)) : message.Valid topic payload := by
  rcases contents_eq_ok_iff.mp contents with ⟨known, nonempty, decodes⟩
  have texts (rule : Rule) (textual : rule.Textual) :
      ∀ text ∈ message.identifiers rule, Canonical text :=
    (check_text_eq_ok_iff textual).mp (checked rule)
  refine {
    id := fun text there => texts .id (by decide) text (Option.mem_toList.mpr there)
    known
    conversationKey := texts .conversationKey (by decide) _ (List.mem_singleton_self _)
    idempotencyKey := texts .idempotencyKey (by decide) _ (List.mem_singleton_self _)
    nonempty
    decodes
    envelope := fun envelope shape => ?_
    participantKey := fun text there =>
      texts .participantKey (by decide) text (Option.mem_toList.mpr there)
    correlationId := fun text there =>
      texts .correlationId (by decide) text (Option.mem_toList.mpr there)
    causationId := fun text there =>
      texts .causationId (by decide) text (Option.mem_toList.mpr there)
    extensions := {
      platformMessageId := fun text there =>
        texts .platformMessageId (by decide) text (Option.mem_toList.mpr there)
      replyTo := fun text there => texts .replyTo (by decide) text (Option.mem_toList.mpr there)
      teamId := fun text there => texts .teamId (by decide) text (Option.mem_toList.mpr there)
      chatId := fun text there => texts .chatId (by decide) text (Option.mem_toList.mpr there)
      mentionedUsers := texts .mentionedUsers (by decide)
      sessionId := check_session_eq_ok_iff.mp (checked .sessionId) } }
  have has := (envelope?_eq_some_iff known decodes).mpr shape
  refine {
    messageId := texts .payloadMessageId (by decide) _ ?_
    sessionId := check_payloadSession_eq_ok_iff.mp (checked .payloadSessionId) envelope has
    replyTo := fun text there => texts .payloadReplyTo (by decide) text ?_ }
  · exact Option.mem_toList.mpr (Option.map_eq_some_iff.mpr ⟨envelope, has, rfl⟩)
  · exact Option.mem_toList.mpr (Option.bind_eq_some_iff.mpr ⟨envelope, has, there⟩)

theorem contents_of_checked (checked : ∀ rule, message.check rule = .ok ()) :
    ∃ topic payload, message.contents = .ok (topic, payload) := by
  have known := checked .topic
  have decodes := checked .payload
  rw [check, resolveTopic_eq] at known
  rw [check] at decodes
  split at decodes
  next => cases decodes
  next =>
    rw [contents, resolveTopic_eq]
    cases named : Topic.ofName? message.topic with
    | none =>
        rw [named] at known
        cases known
    | some topic =>
        rw [named, Option.elim_some] at decodes
        rw [Option.elim_some, ok_bind]
        cases decoded : decodePayload topic message.payload with
        | error error =>
            rw [decoded] at decodes
            cases decodes
        | ok payload => exact ⟨topic, payload, rfl⟩

end Message

theorem Rule.mem_all (rule : Rule) : rule ∈ all := by
  cases rule <;> decide

/-- Validation accepts exactly the valid messages, with their topics and payloads, and refuses any
other with the error of the first rule that it breaks. -/
theorem Message.decode_decides_validity (message : Message) :
    (∀ topic payload, message.decode = .ok (topic, payload) ↔ message.Valid topic payload) ∧
      ∀ error, message.decode = .error error ↔ ∃ rule, message.FirstBroken rule error := by
  have decoded := message.decode_eq
  constructor
  · intro topic payload
    constructor
    · intro accepted
      cases checked : Rule.all.forM message.check with
      | error error =>
          rw [decoded, checked, error_bind] at accepted
          cases accepted
      | ok =>
          rw [decoded, checked, ok_bind] at accepted
          exact valid_of_checked (fun rule => forM_eq_ok_iff.mp checked rule rule.mem_all) accepted
    · intro valid
      rw [decoded, forM_eq_ok_iff.mpr fun rule _ => valid.checked rule, ok_bind]
      exact contents_eq_ok_iff.mpr ⟨valid.known, valid.nonempty, valid.decodes⟩
  · intro error
    have first : (Rule.all.forM message.check = .error error) ↔
        ∃ rule, message.FirstBroken rule error := by
      simp only [forM_eq_error_iff, check_eq_error_iff, check_eq_ok_iff, FirstBroken]
      constructor
      · rintro ⟨earlier, rule, later, split⟩
        exact ⟨rule, earlier, later, split⟩
      · rintro ⟨rule, earlier, later, split⟩
        exact ⟨earlier, rule, later, split⟩
    rw [← first, decoded]
    cases checked : Rule.all.forM message.check with
    | error reason => simp [error_bind]
    | ok =>
        have kept (rule : Rule) : message.check rule = .ok () :=
          forM_eq_ok_iff.mp checked rule rule.mem_all
        rcases contents_of_checked kept with ⟨topic, payload, contents⟩
        simp [ok_bind, contents]

-- the unknown topic hides the blank key, the missing payload and all that comes after
example :
    (Message.plain "weather" " " "k" [] .epoch).decode = .error (.unknownTopic "weather") := by
  decide +kernel

end ConversationBus
