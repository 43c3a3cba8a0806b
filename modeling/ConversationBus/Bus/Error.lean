import ConversationBus.Message.Validation

/-!
# Failures of the bus

What a caller of the bus is told when it does not take a subscription or a message, with the text
and the stable code of each failure.
-/

namespace ConversationBus

/-- Why an operation of the bus fails. -/
inductive BusError where
  | closed
  | noSubscriber (topic : String)
  | topicAlreadyHandled (topic : String)
  | invalid (error : ValidationError)
  | invalidConfig (reason : String)
  | cancelled
  | internal (reason : String)
  deriving DecidableEq, Repr

/-- What a call returns can be compared. -/
instance (priority := 1100) : DecidableEq (Except BusError Unit)
  | .ok (), .ok () => isTrue rfl
  | .ok (), .error _ => isFalse nofun
  | .error _, .ok () => isFalse nofun
  | .error left, .error right => decidable_of_iff (left = right) (by simp)

namespace BusError

/-- The text of a bus error. A validation error speaks for itself. -/
def message : BusError → String
  | .closed => "bus is closed"
  | .noSubscriber topic => s!"no subscriber for topic '{topic}'"
  | .topicAlreadyHandled topic => s!"topic '{topic}' already has a handler"
  | .invalid error => error.message
  | .invalidConfig reason => s!"invalid bus configuration: {reason}"
  | .cancelled => "publish cancelled before the message was queued"
  | .internal reason => s!"bus task failed: {reason}"

def code : BusError → String
  | .closed => "BUS_CLOSED"
  | .noSubscriber _ => "NO_SUBSCRIBER"
  | .topicAlreadyHandled _ => "TOPIC_ALREADY_HANDLED"
  | .invalid error => error.code
  | .invalidConfig _ => "INVALID_CONFIG"
  | .cancelled => "CANCELLED"
  | .internal _ => "INTERNAL"

end BusError

end ConversationBus
