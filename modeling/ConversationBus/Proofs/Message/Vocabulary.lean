import ConversationBus.Message.ConversationKey
import ConversationBus.Message.Vocabulary

/-!
# Names that are read back

Channels and scopes come back from their names. A channel is looked up without regard to case, and
one of them under a second name as well; a scope has one name only.
-/

namespace ConversationBus

theorem Channel.lowercase_name (channel : Channel) :
    Text.lowercase channel.name = channel.name := by
  cases channel with
  | telegram | slack | discord | peer => decide +kernel

theorem Channel.parse_name (channel : Channel) : Channel.parse channel.name = .ok channel := by
  rw [Channel.parse, Channel.lowercase_name]
  cases channel with
  | telegram | slack | discord | peer => rfl

theorem Channel.name_injective : Function.Injective Channel.name := by
  intro first second same
  have parsed := congrArg Channel.parse same
  rw [Channel.parse_name, Channel.parse_name] at parsed
  exact Except.ok.inj parsed

theorem Channel.parse_eq_ok_iff {name : String} {channel : Channel} :
    Channel.parse name = .ok channel ↔ Channel.ofName? (Text.lowercase name) = some channel := by
  rw [Channel.parse]
  split
  next named => simp [named]
  next unnamed => simp [unnamed]

theorem Scope.parse_eq_ok_iff {name : String} {scope : Scope} :
    Scope.parse name = .ok scope ↔ name = scope.name := by
  constructor
  · intro parsed
    simp only [Scope.parse] at parsed
    split at parsed
    case h_6 => cases parsed
    all_goals
      cases parsed
      rfl
  · rintro rfl
    cases scope with
    | chat | channel | dm | thread | peer => rfl

end ConversationBus
