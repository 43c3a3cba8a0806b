import ConversationBus.Message.Vocabulary

/-!
# Conversation keys

A conversation key `channel:scope:id` names the conversation that a message belongs to. The names
of channel and scope hold no colon, so an id may hold any number of them.
-/

namespace ConversationBus

/-- What kind of conversation an id stands for on its channel. -/
inductive Scope where
  | chat
  | channel
  | dm
  | thread
  | peer
  deriving DecidableEq, Repr

/-- Why a conversation key cannot be built or read. -/
inductive KeyError where
  | invalidChannel (name : String)
  | invalidScope (name : String)
  | emptyId
  | blankInId (id : String)
  | malformed (key : String)
  deriving DecidableEq, Repr

def KeyError.message : KeyError → String
  | .invalidChannel name => s!"invalid channel: '{name}'"
  | .invalidScope name => s!"invalid scope: '{name}'"
  | .emptyId => "conversation id is empty"
  | .blankInId id => s!"conversation id '{id}' contains whitespace"
  | .malformed key => s!"malformed conversation key: '{key}'"

namespace Scope

def name : Scope → String
  | .chat => "chat"
  | .channel => "channel"
  | .dm => "dm"
  | .thread => "thread"
  | .peer => "peer"

/-- The scope with an exact name. -/
def parse : String → Except KeyError Scope
  | "chat" => .ok .chat
  | "channel" => .ok .channel
  | "dm" => .ok .dm
  | "thread" => .ok .thread
  | "peer" => .ok .peer
  | other => .error (.invalidScope other)

end Scope

/-- The parts of a conversation key. -/
structure Conversation where
  channel : Channel
  scope : Scope
  id : String
  deriving DecidableEq, Repr

namespace Conversation

/-- The key of a conversation. The id must have a character and no blanks. -/
def key (conversation : Conversation) : Except KeyError String :=
  if conversation.id.isEmpty then .error .emptyId
  else if conversation.id.toList.any Text.isBlank then .error (.blankInId conversation.id)
  else .ok s!"{conversation.channel.name}:{conversation.scope.name}:{conversation.id}"

/-- Looks up the channel of a key. The error names it as it was written. -/
def channelOfName (name : String) : Except KeyError Channel :=
  match Channel.parse name with
  | .ok channel => .ok channel
  | .error _ => .error (.invalidChannel name)

/-- The conversation with unread names for channel and scope. -/
def ofNames (channel scope id : String) : Except KeyError Conversation := do
  let channel ← channelOfName channel
  let scope ← Scope.parse scope
  pure { channel, scope, id }

/-- The key of the conversation with unread names for channel and scope. -/
def keyOfNames (channel scope id : String) : Except KeyError String := do
  (← ofNames channel scope id).key

def chatKey (channel : Channel) (id : String) : Except KeyError String :=
  key { channel, scope := .chat, id }

/-- The key of a channel for direct messages. -/
def dmKey (channel : Channel) (id : String) : Except KeyError String :=
  key { channel, scope := .dm, id }

/-- The key of a conversation with another bot. -/
def peerKey (id : String) : Except KeyError String :=
  key { channel := .peer, scope := .peer, id }

/-- The text before the first colon and the text after it. -/
def splitColon : List Char → Option (List Char × List Char)
  | [] => none
  | ':' :: rest => some ([], rest)
  | c :: rest => (splitColon rest).map fun (before, after) => (c :: before, after)

/-- Splits a key at its first two colons. -/
def splitKey (key : String) : Option (String × String × String) := do
  let (channel, rest) ← splitColon key.toList
  let (scope, id) ← splitColon rest
  some (String.ofList channel, String.ofList scope, String.ofList id)

/-- Reads a key back into its parts, which must be ones that a key can be built from. -/
def ofKey (key : String) : Except KeyError Conversation :=
  match splitKey key with
  | none => .error (.malformed key)
  | some (channel, scope, id) => do
    let conversation ← ofNames channel scope id
    let _ ← conversation.key
    pure conversation

end Conversation

end ConversationBus
