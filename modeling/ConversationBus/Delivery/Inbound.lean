import ConversationBus.Flow.Basic

/-!
# Publishing of inbound events

Platforms deliver an event again when they are not sure that it arrived. An event is published
unless the inbox holds its id, and marked in the inbox after the bus has taken it. So a failure
between the two leads to a second publication and never to a loss.
-/

namespace ConversationBus

/-- Why an inbound event is not published, or not marked. -/
inductive InboundError where
  | emptyPlatformMessageId
  | channelMismatch (expected actual : Channel)
  | bus (error : BusError)
  | store (error : StoreError)
  deriving DecidableEq, Repr

namespace InboundError

/-- The text of an inbound error. A bus error speaks for itself. -/
def message : InboundError → String
  | .emptyPlatformMessageId => "platform message id is empty"
  | .channelMismatch expected actual =>
    s!"channel mismatch: flow handles '{expected.name}', message is for '{actual.name}'"
  | .bus error => error.message
  | .store error => s!"inbox store error: {error.message}"

def code : InboundError → String
  | .emptyPlatformMessageId | .channelMismatch .. => "INVALID_MESSAGE"
  | .bus error => error.code
  | .store _ => "STORE_ERROR"

end InboundError

/-- The message of an event as it is published: what the caller left open about its origin is
filled in. -/
def Message.stamped (message : Message) (channel : Channel) (platformMessageId : String) :
    Message :=
  { message with
    channel := message.channel.or (some channel)
    direction := message.direction.or (some .inbound)
    extensions := { message.extensions with
      platformMessageId := message.extensions.platformMessageId.or (some platformMessageId) } }

namespace Inbound

/-- Checks that an event has an id and belongs to the channel. -/
def check (channel : Channel) (platformMessageId : String) (message : Message) :
    Except InboundError Unit :=
  if Text.allBlank platformMessageId then .error .emptyPlatformMessageId
  else match message.channel with
    | some actual =>
      if actual = channel then .ok () else .error (.channelMismatch channel actual)
    | none => .ok ()

def mark (channel : Channel) (platformMessageId conversationKey : String) :
    Flow (Except InboundError Bool) :=
  .act .now fun seenAt =>
    .act (.saveInbox { channel, platformMessageId, conversationKey, seenAt }) fun
      | .error error => .done (.error (.store error))
      | .ok () => .done (.ok true)

/-- Publishes an event of a channel unless it was published before. The result says whether it was
published now. -/
def publish (channel : Channel) (platformMessageId : String) (message : Message) :
    Flow (Except InboundError Bool) :=
  match check channel platformMessageId message with
  | .error error => .done (.error error)
  | .ok () =>
    .act (.findInbox channel platformMessageId) fun
      | .error error => .done (.error (.store error))
      | .ok (some _) => .done (.ok false)
      | .ok none =>
        .act (.publish (message.stamped channel platformMessageId)) fun
          | .error error => .done (.error (.bus error))
          | .ok () => mark channel platformMessageId message.conversationKey

end Inbound

end ConversationBus
