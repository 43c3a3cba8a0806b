import ConversationBus.Proofs.Delivery.Times
import ConversationBus.Proofs.Message.Vocabulary
import ConversationBus.Store.Insertion

/-!
# Records that are read back from their rows

Channels, statuses, counts and flags come back from the columns that they are stored in, and times
with plain years come back settled. So a record comes back from its row when its times can be
stored. The row of any record satisfies the constraints of the schema.
-/

namespace ConversationBus

/-! ## Columns -/

theorem OutboxStatus.lowercase_name (status : OutboxStatus) :
    Text.lowercase status.name = status.name := by
  cases status with
  | pending | sent | failed => decide +kernel

theorem OutboxStatus.parse_name (status : OutboxStatus) :
    OutboxStatus.parse status.name = .ok status := by
  rw [OutboxStatus.parse, OutboxStatus.lowercase_name]
  cases status with
  | pending | sent | failed => rfl

@[simp] theorem channelOfColumn_name (channel : Channel) :
    channelOfColumn channel.name = .ok channel := by
  rw [channelOfColumn, Channel.parse_name]

@[simp] theorem statusOfColumn_name (status : OutboxStatus) :
    statusOfColumn status.name = .ok status := by
  rw [statusOfColumn, OutboxStatus.parse_name]

@[simp] theorem attemptsOfColumn_val (attempts : Fin attemptLimit) :
    attemptsOfColumn attempts.val = .ok attempts := by
  have natural : 0 ≤ (attempts.val : Int) ∧ (attempts.val : Int).toNat < attemptLimit :=
    ⟨Int.natCast_nonneg _, attempts.isLt⟩
  rw [attemptsOfColumn, dif_pos natural]
  rfl

theorem flagColumn_ne_zero (flag : Bool) : flagColumn flag ≠ 0 ↔ flag = true := by
  cases flag with
  | false | true => decide

theorem instantOfColumn_toColumn {instant : Instant} (plain : instant.HasPlainYear) :
    instantOfColumn instant.toColumn = .ok instant.settled := by
  rw [instantOfColumn, Instant.toColumn, String.toList_ofList, Instant.ofStrict?_text _ plain]

theorem instantOfColumn?_toColumn {instant : Option Instant}
    (plain : ∀ time, instant = some time → time.HasPlainYear) :
    instantOfColumn? (instant.map Instant.toColumn) = .ok (instant.map Instant.settled) := by
  cases instant with
  | none => rfl
  | some time =>
      simp [instantOfColumn?, instantOfColumn_toColumn (plain time rfl), Except.map]

/-! ## Rows -/

/-- An inbox record with a plain year is read from its row, with the time settled. -/
theorem InboxRow.record_ofRecord {record : InboxRecord}
    (plain : ∀ time ∈ record.times, time.HasPlainYear) :
    (InboxRow.ofRecord record).record = .ok record.settled := by
  have seenAt := instantOfColumn_toColumn (plain record.seenAt List.mem_cons_self)
  simp [InboxRow.record, InboxRow.ofRecord, InboxRecord.settled, seenAt, bind, Except.bind, pure,
    Except.pure]

/-- An outbox record with plain years is read from its row, with the times settled. -/
theorem OutboxRow.record_ofRecord {record : OutboxRecord}
    (plain : ∀ time ∈ record.times, time.HasPlainYear) :
    (OutboxRow.ofRecord record).record = .ok record.settled := by
  rcases record.forall_times.mp plain with ⟨created, updated, lastAttempt, sent⟩
  have createdAt := instantOfColumn_toColumn created
  have updatedAt := instantOfColumn_toColumn updated
  have lastAttemptAt := instantOfColumn?_toColumn lastAttempt
  have sentAt := instantOfColumn?_toColumn sent
  simp only [OutboxRow.record, OutboxRow.ofRecord, bind, Except.bind, attemptsOfColumn_val,
    channelOfColumn_name, statusOfColumn_name, createdAt, updatedAt, lastAttemptAt, sentAt,
    flagColumn_ne_zero, Bool.decide_eq_true]
  rfl

theorem InboxRow.record_of_storable {record : InboxRecord} (storable : record.Storable) :
    (InboxRow.ofRecord record).record = .ok record := by
  have settled := record.settled_eq_self_iff.mpr fun time member => (storable time member).proper
  rw [record_ofRecord fun time member => (storable time member).plain, settled]

theorem OutboxRow.record_of_storable {record : OutboxRecord} (storable : record.Storable) :
    (OutboxRow.ofRecord record).record = .ok record := by
  have settled := record.settled_eq_self_iff.mpr fun time member => (storable time member).proper
  rw [record_ofRecord fun time member => (storable time member).plain, settled]

/-! ## The constraints of the schema -/

theorem checkMember_channel (channel : Channel) :
    checkMember true storedChannels channel.name = .ok () := by
  cases channel with
  | telegram | slack | discord | peer => rfl

theorem checkMember_status (status : OutboxStatus) :
    checkMember true storedStatuses status.name = .ok () := by
  cases status with
  | pending | sent | failed => rfl

end ConversationBus
