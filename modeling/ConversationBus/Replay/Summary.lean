import ConversationBus.Json.Fields

/-!
# Summaries of a replay
-/

namespace ConversationBus.Replay

/-- What became of the lines of a replay, and of the messages that the bus took. -/
structure Summary where
  lines : Nat
  published : Nat
  duplicates : Nat
  rejected : Nat
  malformed : Nat
  delivered : Nat
  failed : Nat
  cancelled : Bool
  deriving DecidableEq, Repr

namespace Summary

/-- The summary before the first line. -/
def zero : Summary :=
  { lines := 0, published := 0, duplicates := 0, rejected := 0, malformed := 0, delivered := 0,
    failed := 0, cancelled := false }

def toJson (summary : Summary) : Json.Value :=
  .object [
    ("lines", .nat summary.lines), ("published", .nat summary.published),
    ("duplicates", .nat summary.duplicates), ("rejected", .nat summary.rejected),
    ("malformed", .nat summary.malformed), ("delivered", .nat summary.delivered),
    ("failed", .nat summary.failed), ("cancelled", .bool summary.cancelled)]

end Summary

end ConversationBus.Replay
