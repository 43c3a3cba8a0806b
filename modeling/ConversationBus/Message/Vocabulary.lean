import ConversationBus.Json.Fields
import ConversationBus.Text.Lowercase

/-!
# The closed vocabularies of messages

Channels, directions, topics and delivery stages, with their names. Names typed by people are read
without regard to case, except for topics, whose names are exact. In JSON every name is exact.
-/

namespace ConversationBus

/-- A word that names nothing, by the vocabulary it was looked up in. -/
inductive NameError where
  | channel (word : String)
  | direction (word : String)
  | status (word : String)
  | topic (word : String)
  deriving DecidableEq, Repr

def NameError.message : NameError → String
  | .channel word => s!"invalid channel: '{word}'"
  | .direction word => s!"invalid direction: '{word}'"
  | .status word => s!"invalid outbox status: '{word}'"
  | .topic word => s!"unknown topic: '{word}'"

/-! ## Channels -/

/-- The platform that a message comes from or goes to. -/
inductive Channel where
  | telegram
  | slack
  | discord
  /-- The protocol that bots talk to each other. -/
  | peer
  deriving DecidableEq, Repr

namespace Channel

/-- The name used in conversation keys and stored rows. -/
def name : Channel → String
  | .telegram => "telegram"
  | .slack => "slack"
  | .discord => "discord"
  | .peer => "peer"

/-- The channel with an exact name. The peer channel has a second, longer one. -/
def ofName? : String → Option Channel
  | "telegram" => some .telegram
  | "slack" => some .slack
  | "discord" => some .discord
  | "peer" | "peer-protocol" => some .peer
  | _ => none

/-- The channel with a name in any case. -/
def parse (text : String) : Except NameError Channel :=
  let word := Text.lowercase text
  match ofName? word with
  | some channel => .ok channel
  | none => .error (.channel word)

def toJson (channel : Channel) : Json.Value :=
  .string channel.name

def ofJson? (tree : Json.Tree) : Option Channel :=
  tree.caseName?.bind ofName?

end Channel

/-! ## Directions -/

/-- Whether a message comes in from a platform or goes out to one. -/
inductive Direction where
  | inbound
  | outbound
  deriving DecidableEq, Repr

namespace Direction

def name : Direction → String
  | .inbound => "inbound"
  | .outbound => "outbound"

/-- The direction with an exact name. -/
def ofName? : String → Option Direction
  | "inbound" => some .inbound
  | "outbound" => some .outbound
  | _ => none

/-- The direction with a name in any case. -/
def parse (text : String) : Except NameError Direction :=
  let word := Text.lowercase text
  match ofName? word with
  | some direction => .ok direction
  | none => .error (.direction word)

def toJson (direction : Direction) : Json.Value :=
  .string direction.name

def ofJson? (tree : Json.Tree) : Option Direction :=
  tree.caseName?.bind ofName?

end Direction

/-! ## Topics -/

/-- What a message is about. Each topic has one payload schema and at most one handler. -/
inductive Topic where
  | proactiveShare
  | dmCheckin
  | dmReply
  | chatMessage
  deriving DecidableEq, Repr

namespace Topic

/-- Every topic, in the order in which they are declared. -/
def all : List Topic :=
  [.proactiveShare, .dmCheckin, .dmReply, .chatMessage]

/-- The name of a topic on the wire. -/
def name : Topic → String
  | .proactiveShare => "proactive-share"
  | .dmCheckin => "dm-checkin"
  | .dmReply => "dm-reply"
  | .chatMessage => "chat-message"

/-- The topic with an exact name. -/
def ofName? (text : String) : Option Topic :=
  all.find? fun topic => topic.name == text

/-- The topic with an exact name, or the reason why there is none. -/
def parse (text : String) : Except NameError Topic :=
  match ofName? text with
  | some topic => .ok topic
  | none => .error (.topic text)

def toJson (topic : Topic) : Json.Value :=
  .string topic.name

def ofJson? (tree : Json.Tree) : Option Topic :=
  tree.caseName?.bind ofName?

end Topic

/-! ## Delivery stages -/

/-- Where the delivery of an admitted message failed. -/
inductive DeliveryStage where
  /-- The message could not be handed to the worker of its conversation. -/
  | dispatch
  /-- The handler failed. -/
  | handler
  deriving DecidableEq, Repr

namespace DeliveryStage

def name : DeliveryStage → String
  | .dispatch => "dispatch"
  | .handler => "handler"

/-- The stage with an exact name. -/
def ofName? : String → Option DeliveryStage
  | "dispatch" => some .dispatch
  | "handler" => some .handler
  | _ => none

def toJson (stage : DeliveryStage) : Json.Value :=
  .string stage.name

def ofJson? (tree : Json.Tree) : Option DeliveryStage :=
  tree.caseName?.bind ofName?

end DeliveryStage

end ConversationBus
