import ConversationBus.Delivery.Record
import ConversationBus.Proofs.Time.Rfc3339

/-!
# The times in messages and records

A text shows an instant as the settled one. Whatever has times in it is settled with all of them,
and stays the same just if none of them runs on past the end of a second that is not the last of
its minute.
-/

namespace ConversationBus

/-- An instant that is read back from its strict form. -/
structure Instant.Storable (instant : Instant) : Prop where
  plain : instant.HasPlainYear
  proper : instant.HasProperSecond

instance (instant : Instant) : Decidable instant.Storable :=
  decidable_of_iff (instant.HasPlainYear ∧ instant.HasProperSecond)
    ⟨fun both => ⟨both.1, both.2⟩, fun storable => ⟨storable.plain, storable.proper⟩⟩

theorem Instant.map_settled_eq_self_iff (instant : Option Instant) :
    instant.map Instant.settled = instant ↔
      ∀ time, instant = some time → time.HasProperSecond := by
  cases instant with
  | none => simp
  | some time => simp [time.settled_eq_self_iff]

namespace Envelope

variable (envelope : Envelope)

def times : List Instant :=
  [envelope.sentAt]

def settled : Envelope :=
  { envelope with sentAt := envelope.sentAt.settled }

theorem settled_eq_self_iff :
    envelope.settled = envelope ↔ ∀ time ∈ envelope.times, time.HasProperSecond := by
  rw [times, List.forall_mem_singleton, ← Instant.settled_eq_self_iff]
  cases envelope
  simp [settled]

end Envelope

namespace Checkin

variable (checkin : Checkin)

def times : List Instant :=
  checkin.dueAt.toList

def settled : Checkin :=
  { checkin with dueAt := checkin.dueAt.map Instant.settled }

theorem settled_eq_self_iff :
    checkin.settled = checkin ↔ ∀ time ∈ checkin.times, time.HasProperSecond := by
  simp only [times, Option.mem_toList]
  rw [← Instant.map_settled_eq_self_iff]
  cases checkin
  simp [settled]

end Checkin

namespace Message

variable (message : Message)

def times : List Instant :=
  [message.createdAt]

def settled : Message :=
  { message with createdAt := message.createdAt.settled }

theorem settled_eq_self_iff :
    message.settled = message ↔ ∀ time ∈ message.times, time.HasProperSecond := by
  rw [times, List.forall_mem_singleton, ← Instant.settled_eq_self_iff]
  cases message
  simp [settled]

end Message

namespace DeliveryError

variable (report : DeliveryError)

def times : List Instant :=
  report.message.times ++ [report.occurredAt]

def settled : DeliveryError :=
  { report with message := report.message.settled, occurredAt := report.occurredAt.settled }

theorem settled_eq_self_iff :
    report.settled = report ↔ ∀ time ∈ report.times, time.HasProperSecond := by
  rw [times, List.forall_mem_append, List.forall_mem_singleton, ← Instant.settled_eq_self_iff,
    ← Message.settled_eq_self_iff]
  cases report
  simp [settled]

end DeliveryError

namespace InboxRecord

variable (record : InboxRecord)

def times : List Instant :=
  [record.seenAt]

def settled : InboxRecord :=
  { record with seenAt := record.seenAt.settled }

theorem settled_eq_self_iff :
    record.settled = record ↔ ∀ time ∈ record.times, time.HasProperSecond := by
  rw [times, List.forall_mem_singleton, ← Instant.settled_eq_self_iff]
  cases record
  simp [settled]

/-- The time of an inbox record is read back from its strict form. -/
def Storable : Prop :=
  ∀ time ∈ record.times, time.Storable

end InboxRecord

namespace OutboxRecord

variable (record : OutboxRecord)

def times : List Instant :=
  [record.createdAt, record.updatedAt] ++ record.lastAttemptAt.toList ++ record.sentAt.toList

def settled : OutboxRecord :=
  { record with
    createdAt := record.createdAt.settled
    updatedAt := record.updatedAt.settled
    lastAttemptAt := record.lastAttemptAt.map Instant.settled
    sentAt := record.sentAt.map Instant.settled }

theorem forall_times {admits : Instant → Prop} : (∀ time ∈ record.times, admits time) ↔
    admits record.createdAt ∧ admits record.updatedAt ∧
      (∀ time, record.lastAttemptAt = some time → admits time) ∧
      ∀ time, record.sentAt = some time → admits time := by
  simp [times, or_imp, forall_and]

theorem settled_eq_self_iff :
    record.settled = record ↔ ∀ time ∈ record.times, time.HasProperSecond := by
  rw [forall_times, ← Instant.settled_eq_self_iff, ← Instant.settled_eq_self_iff,
    ← Instant.map_settled_eq_self_iff, ← Instant.map_settled_eq_self_iff]
  cases record
  simp [settled]

/-- The times of an outbox record are read back from their strict forms. -/
def Storable : Prop :=
  ∀ time ∈ record.times, time.Storable

end OutboxRecord

end ConversationBus
