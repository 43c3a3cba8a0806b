import ConversationBus.Proofs.Delivery.Times
import ConversationBus.Proofs.Json.Fields
import ConversationBus.Proofs.Uuid

/-!
# What goes over the wire

Messages, payloads, records and reports come back from their JSON texts: whatever characters stand
in their strings, whichever optional fields are missing, and whatever years and leap seconds their
instants have. All that is not kept is how the text shows an instant whose nanoseconds run on past a
second within a minute: it is read as the instant one second later that has the same text. So to
read an accepted text and to write it again settles its form.
-/

namespace ConversationBus

open Json (Restores RestoresText)
open Json (restoresText_string restores_bool restores_bytes)
open Json (restores_required restores_optional restores_withDefault restores_listOrNone)
open Json (RestoresField RestoresFields restoresFields_cons restoresFields_last)

/-! ## Words, times and numbers -/

theorem Channel.restoresText (channel : Channel) :
    RestoresText Channel.toJson Channel.ofJson? channel := by
  cases channel with
  | telegram | slack | discord | peer => exact ⟨_, rfl, rfl⟩

theorem Direction.restoresText (direction : Direction) :
    RestoresText Direction.toJson Direction.ofJson? direction := by
  cases direction with
  | inbound | outbound => exact ⟨_, rfl, rfl⟩

theorem DeliveryStage.restoresText (stage : DeliveryStage) :
    RestoresText DeliveryStage.toJson DeliveryStage.ofJson? stage := by
  cases stage with
  | dispatch | handler => exact ⟨_, rfl, rfl⟩

theorem OutboxStatus.restoresText (status : OutboxStatus) :
    RestoresText OutboxStatus.toJson OutboxStatus.ofJson? status := by
  cases status with
  | pending | sent | failed => exact ⟨_, rfl, rfl⟩

theorem Instant.toJson_settled (instant : Instant) : instant.settled.toJson = instant.toJson := by
  rw [toJson, toText, text_settled, toJson, toText]

theorem Instant.restoresText (instant : Instant) :
    RestoresText Instant.toJson Instant.ofJson? instant.settled := by
  refine ⟨instant.settled.toText, rfl, ?_⟩
  rw [Instant.ofJson?, Json.Tree.text?, Option.bind_some, Instant.toText, String.toList_ofList,
    text_settled, Instant.ofRelaxed?_text]

theorem Instant.optionalMember_settled (name : String) (instant : Option Instant) :
    Json.optionalMember name Instant.toJson (instant.map Instant.settled) =
      Json.optionalMember name Instant.toJson instant := by
  cases instant with
  | none => rfl
  | some time => simp [Json.optionalMember, time.toJson_settled]

theorem Instant.restores_optional (name : String) (instant : Option Instant) :
    RestoresField name (Json.optionalMember name Instant.toJson (instant.map Instant.settled))
      (·.optional name Instant.ofJson?) (instant.map Instant.settled) := by
  refine Json.restores_optional ?_
  intro held member
  rcases Option.map_eq_some_iff.mp member with ⟨time, _, rfl⟩
  exact time.restoresText

theorem Uuid.restoresText (uuid : Uuid) : RestoresText Uuid.toJson Uuid.ofJson? uuid := by
  refine ⟨uuid.text, rfl, ?_⟩
  rw [Uuid.ofJson?, Json.Tree.text?, Option.bind_some, Uuid.parse?_text]

theorem restores_attempts (attempts : Fin attemptLimit) :
    Restores (fun attempts : Fin attemptLimit => .nat attempts) attemptsOfJson? attempts := by
  refine ⟨.number (.ofInt attempts.val), rfl, ?_⟩
  simp [attemptsOfJson?, Json.Tree.natBelow?]

/-! ## Payloads -/

theorem Envelope.toJson_settled (envelope : Envelope) :
    envelope.settled.toJson = envelope.toJson := by
  simp only [toJson, settled, Instant.toJson_settled]

theorem Envelope.restores (envelope : Envelope) :
    Restores Envelope.toJson Envelope.ofJson? envelope.settled := by
  unfold Restores Envelope.toJson Envelope.ofJson?
  simp only [List.append_assoc]
  apply RestoresFields.restored (by decide)
  apply restoresFields_cons (restores_required (restoresText_string _).restores)
  apply restoresFields_cons (restores_required (restoresText_string _).restores)
  apply restoresFields_cons (restores_required (Instant.restoresText _).restores)
  apply restoresFields_cons (restores_required (Uuid.restoresText _).restores)
  exact restoresFields_last (restores_optional fun held _ => restoresText_string held) rfl

theorem Checkin.toJson_settled (checkin : Checkin) :
    checkin.settled.toJson = checkin.toJson := by
  simp only [toJson, settled, Instant.optionalMember_settled]

theorem Checkin.restores (checkin : Checkin) :
    Restores Checkin.toJson Checkin.ofJson? checkin.settled := by
  unfold Restores Checkin.toJson Checkin.ofJson?
  apply RestoresFields.restored (by decide)
  apply restoresFields_cons (restores_required (restoresText_string _).restores)
  exact restoresFields_last (Instant.restores_optional _ _) rfl

theorem Share.restores (share : Share) : Restores Share.toJson Share.ofJson? share := by
  unfold Restores Share.toJson Share.ofJson?
  simp only [List.append_assoc]
  apply RestoresFields.restored (by decide)
  apply restoresFields_cons (restores_required (restoresText_string _).restores)
  apply restoresFields_cons (restores_optional fun held _ => restoresText_string held)
  exact restoresFields_last (restores_optional fun held _ => restoresText_string held) rfl

/-! ## Messages and reports -/

theorem Extensions.restores (extensions : Extensions) :
    Restores Extensions.toJson Extensions.ofJson? extensions := by
  unfold Restores Extensions.toJson Extensions.ofJson?
  simp only [List.append_assoc]
  apply RestoresFields.restored (by decide)
  apply restoresFields_cons (restores_optional fun held _ => restoresText_string held)
  apply restoresFields_cons (restores_optional fun held _ => restoresText_string held)
  apply restoresFields_cons (restores_optional fun held _ => restoresText_string held)
  apply restoresFields_cons (restores_optional fun held _ => restoresText_string held)
  apply restoresFields_cons (restores_optional fun held _ => restoresText_string held)
  exact restoresFields_last
    (restores_listOrNone fun user => (restoresText_string user).restores) rfl

theorem Message.toJson_settled (message : Message) :
    message.settled.toJson = message.toJson := by
  simp only [toJson, settled, Instant.toJson_settled]

theorem Message.restores (message : Message) :
    Restores Message.toJson Message.ofJson? message.settled := by
  unfold Restores Message.toJson Message.ofJson?
  simp only [List.append_assoc]
  apply RestoresFields.restored (by decide)
  apply restoresFields_cons (restores_optional fun held _ => restoresText_string held)
  apply restoresFields_cons (restores_optional fun held _ => held.restoresText)
  apply restoresFields_cons (restores_optional fun held _ => held.restoresText)
  apply restoresFields_cons (restores_required (restoresText_string _).restores)
  apply restoresFields_cons (restores_required (restoresText_string _).restores)
  apply restoresFields_cons (restores_optional fun held _ => restoresText_string held)
  apply restoresFields_cons (restores_required (restoresText_string _).restores)
  apply restoresFields_cons (restores_optional fun held _ => restoresText_string held)
  apply restoresFields_cons (restores_optional fun held _ => restoresText_string held)
  apply restoresFields_cons (restores_required (restores_bytes _))
  apply restoresFields_cons (restores_required (Instant.restoresText _).restores)
  exact restoresFields_last (restores_withDefault (Extensions.restores _)) rfl

theorem DeliveryError.toJson_settled (report : DeliveryError) :
    report.settled.toJson = report.toJson := by
  simp only [toJson, settled, Instant.toJson_settled, Message.toJson_settled]

theorem DeliveryError.restores (report : DeliveryError) :
    Restores DeliveryError.toJson DeliveryError.ofJson? report.settled := by
  unfold Restores DeliveryError.toJson DeliveryError.ofJson?
  simp only [List.append_assoc]
  apply RestoresFields.restored (by decide)
  apply restoresFields_cons (restores_required (Message.restores _))
  apply restoresFields_cons (restores_required (restoresText_string _).restores)
  apply restoresFields_cons (restores_required (DeliveryStage.restoresText _).restores)
  exact restoresFields_last (restores_required (Instant.restoresText _).restores) rfl

/-! ## Records of the delivery layer -/

theorem InboxRecord.toJson_settled (record : InboxRecord) :
    record.settled.toJson = record.toJson := by
  simp only [toJson, settled, Instant.toJson_settled]

theorem InboxRecord.restores (record : InboxRecord) :
    Restores InboxRecord.toJson InboxRecord.ofJson? record.settled := by
  unfold Restores InboxRecord.toJson InboxRecord.ofJson?
  simp only [List.append_assoc]
  apply RestoresFields.restored (by decide)
  apply restoresFields_cons (restores_required (Channel.restoresText _).restores)
  apply restoresFields_cons (restores_required (restoresText_string _).restores)
  apply restoresFields_cons (restores_required (restoresText_string _).restores)
  exact restoresFields_last (restores_required (Instant.restoresText _).restores) rfl

theorem OutboxRecord.toJson_settled (record : OutboxRecord) :
    record.settled.toJson = record.toJson := by
  simp only [toJson, settled, Instant.toJson_settled, Instant.optionalMember_settled]

theorem OutboxRecord.restores (record : OutboxRecord) :
    Restores OutboxRecord.toJson OutboxRecord.ofJson? record.settled := by
  unfold Restores OutboxRecord.toJson OutboxRecord.ofJson?
  simp only [List.append_assoc]
  apply RestoresFields.restored (by decide)
  apply restoresFields_cons (restores_required (Channel.restoresText _).restores)
  apply restoresFields_cons (restores_required (restoresText_string _).restores)
  apply restoresFields_cons (restores_required (OutboxStatus.restoresText _).restores)
  apply restoresFields_cons (restores_required (restores_attempts _))
  apply restoresFields_cons (restores_optional fun held _ => restoresText_string held)
  apply restoresFields_cons (restores_optional fun held _ => restoresText_string held)
  apply restoresFields_cons (restores_optional fun held _ => restoresText_string held)
  apply restoresFields_cons (restores_optional fun held _ => restoresText_string held)
  apply restoresFields_cons (restores_withDefault (restores_bytes _))
  apply restoresFields_cons (restores_required (restores_bool _))
  apply restoresFields_cons (restores_required (restores_bool _))
  apply restoresFields_cons (restores_optional fun held _ => restoresText_string held)
  apply restoresFields_cons (restores_required (Instant.restoresText _).restores)
  apply restoresFields_cons (restores_required (Instant.restoresText _).restores)
  apply restoresFields_cons (Instant.restores_optional _ _)
  exact restoresFields_last (Instant.restores_optional _ _) rfl

/-! ## Texts -/

namespace Json

variable {α : Type}

def serialize (write : α → Value) (content : α) : List UInt8 :=
  (write content).bytes

def deserialize? (read? : Tree → Option α) (text : List UInt8) : Option α :=
  (Tree.parse? text).bind read?

def rewrite? (write : α → Value) (read? : Tree → Option α) (text : List UInt8) :
    Option (List UInt8) :=
  (deserialize? read? text).map (serialize write)

/-- What is written as JSON comes back settled, so it comes back as it was just if its times are
proper; and an accepted text that is written again stays as it then is. -/
structure RoundTrips (write : α → Value) (read? : Tree → Option α) (times : α → List Instant)
    (settle : α → α) : Prop where
  shown : ∀ content, deserialize? read? (serialize write content) = some (settle content)
  back : ∀ content, deserialize? read? (serialize write content) = some content ↔
    ∀ time ∈ times content, time.HasProperSecond
  settled : ∀ text, (rewrite? write read? text).bind (rewrite? write read?) =
    rewrite? write read? text

theorem roundTrips_of_restores {write : α → Value} {read? : Tree → Option α}
    {times : α → List Instant} {settle : α → α}
    (written : ∀ content, write (settle content) = write content)
    (restores : ∀ content, Restores write read? (settle content))
    (proper : ∀ content, settle content = content ↔
      ∀ time ∈ times content, time.HasProperSecond) :
    RoundTrips write read? times settle := by
  have same : ∀ content, serialize write (settle content) = serialize write content := by
    intro content
    rw [serialize, written, serialize]
  have shown : ∀ content,
      deserialize? read? (serialize write content) = some (settle content) := by
    intro content
    rcases restores content with ⟨tree, spelled, read⟩
    rw [← same, deserialize?, serialize, Tree.parse?_bytes spelled, Option.bind_some, read]
  refine ⟨shown, ?_, ?_⟩
  · intro content
    rw [shown, Option.some.injEq, proper]
  · intro text
    cases accepted : deserialize? read? text with
    | none => simp [rewrite?, accepted]
    | some content => simp [rewrite?, accepted, shown, same]

end Json

namespace InboxRecord

theorem roundTrips : Json.RoundTrips toJson ofJson? times settled :=
  Json.roundTrips_of_restores toJson_settled restores settled_eq_self_iff

/-- A mark whose time runs on past second 30 of a minute. -/
def runningOn : InboxRecord :=
  { channel := .telegram
    platformMessageId := "501"
    conversationKey := "telegram:chat:42"
    seenAt := ⟨⟨2026, 3, 1⟩, 30, 1500000000, by decide⟩ }

/-- The mark comes back with a time one second later. -/
theorem not_back_from_running_on :
    Json.deserialize? ofJson? (Json.serialize toJson runningOn) =
      some { runningOn with seenAt := ⟨⟨2026, 3, 1⟩, 31, 500000000, by decide⟩ } ∧
    Json.deserialize? ofJson? (Json.serialize toJson runningOn) ≠ some runningOn := by
  rw [roundTrips.shown]
  decide

end InboxRecord

/-- Every value of every type that goes over the wire comes back from its JSON text if none of its
times runs on within a minute, and settled in any case; and to write an accepted text again a second
time changes nothing. -/
theorem wire_types_round_trip :
    Json.RoundTrips Message.toJson Message.ofJson? Message.times Message.settled ∧
    Json.RoundTrips Extensions.toJson Extensions.ofJson? (fun _ => []) id ∧
    Json.RoundTrips DeliveryError.toJson DeliveryError.ofJson? DeliveryError.times
      DeliveryError.settled ∧
    Json.RoundTrips InboxRecord.toJson InboxRecord.ofJson? InboxRecord.times
      InboxRecord.settled ∧
    Json.RoundTrips OutboxRecord.toJson OutboxRecord.ofJson? OutboxRecord.times
      OutboxRecord.settled ∧
    Json.RoundTrips Envelope.toJson Envelope.ofJson? Envelope.times Envelope.settled ∧
    Json.RoundTrips Checkin.toJson Checkin.ofJson? Checkin.times Checkin.settled ∧
    Json.RoundTrips Share.toJson Share.ofJson? (fun _ => []) id := by
  refine ⟨?_, ?_, ?_, InboxRecord.roundTrips, ?_, ?_, ?_, ?_⟩
  · exact Json.roundTrips_of_restores Message.toJson_settled Message.restores
      Message.settled_eq_self_iff
  · exact Json.roundTrips_of_restores (fun _ => rfl) Extensions.restores (by simp)
  · exact Json.roundTrips_of_restores DeliveryError.toJson_settled DeliveryError.restores
      DeliveryError.settled_eq_self_iff
  · exact Json.roundTrips_of_restores OutboxRecord.toJson_settled OutboxRecord.restores
      OutboxRecord.settled_eq_self_iff
  · exact Json.roundTrips_of_restores Envelope.toJson_settled Envelope.restores
      Envelope.settled_eq_self_iff
  · exact Json.roundTrips_of_restores Checkin.toJson_settled Checkin.restores
      Checkin.settled_eq_self_iff
  · exact Json.roundTrips_of_restores (fun _ => rfl) Share.restores (by simp)

end ConversationBus
