import ConversationBus.Bus.Basic
import ConversationBus.Bus.Error
import ConversationBus.Bus.Semaphore
import ConversationBus.Bus.Step
import ConversationBus.Cli.Arguments
import ConversationBus.Cli.Disk
import ConversationBus.Cli.Program
import ConversationBus.Cli.Session
import ConversationBus.Config.Address
import ConversationBus.Config.Basic
import ConversationBus.Config.File
import ConversationBus.Config.Location
import ConversationBus.Delivery.Inbound
import ConversationBus.Delivery.Outbound
import ConversationBus.Delivery.Record
import ConversationBus.Delivery.Transition
import ConversationBus.Flow.Basic
import ConversationBus.Flow.Surroundings
import ConversationBus.Json.Binary64
import ConversationBus.Json.Fields
import ConversationBus.Json.Tree
import ConversationBus.Json.Value
import ConversationBus.Main
import ConversationBus.Message.Basic
import ConversationBus.Message.ConversationKey
import ConversationBus.Message.Payload
import ConversationBus.Message.Validation
import ConversationBus.Message.Vocabulary
import ConversationBus.Proofs.Bus.Books
import ConversationBus.Proofs.Bus.Budget
import ConversationBus.Proofs.Bus.Change
import ConversationBus.Proofs.Bus.Delivery
import ConversationBus.Proofs.Bus.Ending
import ConversationBus.Proofs.Bus.Isolation
import ConversationBus.Proofs.Bus.Order
import ConversationBus.Proofs.Bus.Parts
import ConversationBus.Proofs.Bus.Passage
import ConversationBus.Proofs.Bus.Reports
import ConversationBus.Proofs.Bus.Routing
import ConversationBus.Proofs.Bus.Run
import ConversationBus.Proofs.Bus.Semaphore
import ConversationBus.Proofs.Bus.Shutdown
import ConversationBus.Proofs.Bus.Sound
import ConversationBus.Proofs.Bus.Story
import ConversationBus.Proofs.Bus.Work
import ConversationBus.Proofs.Config.Address
import ConversationBus.Proofs.Config.Location
import ConversationBus.Proofs.Config.Starting
import ConversationBus.Proofs.Delivery.Exclusion
import ConversationBus.Proofs.Delivery.Failures
import ConversationBus.Proofs.Delivery.History
import ConversationBus.Proofs.Delivery.Identities
import ConversationBus.Proofs.Delivery.Independence
import ConversationBus.Proofs.Delivery.Marks
import ConversationBus.Proofs.Delivery.Moves
import ConversationBus.Proofs.Delivery.Overlap
import ConversationBus.Proofs.Delivery.Sends
import ConversationBus.Proofs.Delivery.Storable
import ConversationBus.Proofs.Delivery.Times
import ConversationBus.Proofs.Flow.Dialogue
import ConversationBus.Proofs.Flow.Hearing
import ConversationBus.Proofs.Flow.Interleaving
import ConversationBus.Proofs.Flow.Sharing
import ConversationBus.Proofs.Json.Excerpts
import ConversationBus.Proofs.Json.Fields
import ConversationBus.Proofs.Json.Reading
import ConversationBus.Proofs.Json.Renewal
import ConversationBus.Proofs.Message.ConversationKey
import ConversationBus.Proofs.Message.Validity
import ConversationBus.Proofs.Message.Wire
import ConversationBus.Proofs.Replay.Accounts
import ConversationBus.Proofs.Replay.Caller
import ConversationBus.Proofs.Replay.Length
import ConversationBus.Proofs.Replay.Payloads
import ConversationBus.Proofs.Replay.Resumption
import ConversationBus.Proofs.Replay.Run
import ConversationBus.Proofs.Replay.Settling
import ConversationBus.Proofs.Replay.Standing
import ConversationBus.Proofs.Replay.Summaries
import ConversationBus.Proofs.Replay.Tally
import ConversationBus.Proofs.Replay.Unreadable
import ConversationBus.Proofs.Store.Columns
import ConversationBus.Proofs.Store.Counts
import ConversationBus.Proofs.Store.Holdings
import ConversationBus.Proofs.Store.Interchange
import ConversationBus.Proofs.Store.Mirror
import ConversationBus.Proofs.Store.Places
import ConversationBus.Proofs.Store.Retention
import ConversationBus.Proofs.Store.Snapshot
import ConversationBus.Proofs.Store.Tables
import ConversationBus.Proofs.Text.Canonical
import ConversationBus.Proofs.Text.Decimal
import ConversationBus.Proofs.Text.Utf8
import ConversationBus.Proofs.Time.Rfc3339
import ConversationBus.Proofs.Uuid
import ConversationBus.Proofs.Uuid.Spellings
import ConversationBus.Replay.Basic
import ConversationBus.Replay.Line
import ConversationBus.Replay.Summary
import ConversationBus.Store.Basic
import ConversationBus.Store.Database
import ConversationBus.Store.Error
import ConversationBus.Store.Insertion
import ConversationBus.Store.Memory
import ConversationBus.Store.Snapshot
import ConversationBus.Store.Table
import ConversationBus.System.Basic
import ConversationBus.System.Scenario
import ConversationBus.Text.CharClass
import ConversationBus.Text.Decimal
import ConversationBus.Text.Hex
import ConversationBus.Text.LetterCase
import ConversationBus.Text.Lines
import ConversationBus.Text.Lowercase
import ConversationBus.Text.Utf8
import ConversationBus.Time.Instant
import ConversationBus.Time.Rfc3339
import ConversationBus.Time.Unix
import ConversationBus.Toml.Basic
import ConversationBus.Toml.Document
import ConversationBus.Toml.Scalar
import ConversationBus.Uuid
