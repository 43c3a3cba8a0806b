import ConversationBus.Message.ConversationKey
import ConversationBus.Proofs.Message.Vocabulary
import ConversationBus.Proofs.Text.Canonical

/-!
# Conversation keys that are built and read

A key tells the conversation that it was built for: neither the name of a channel nor that of a
scope holds a colon, so the first two colons of a key are the ones that it was built with, whatever
the id is. The reader takes the built keys and, as it looks up the channel without regard to case
and under a second name, others that are spelled differently in that place.
-/

namespace ConversationBus

theorem bind_eq_ok_iff {α β ε : Type} {first : Except ε α} {next : α → Except ε β} {result : β} :
    (first >>= next) = .ok result ↔ ∃ value, first = .ok value ∧ next value = .ok result := by
  cases first with
  | error error => exact ⟨nofun, nofun⟩
  | ok value =>
      refine ⟨fun done => ⟨value, rfl, done⟩, ?_⟩
      rintro ⟨_, same, done⟩
      cases same
      exact done

/-! ## Names without colons -/

namespace Text

theorem colon_mem_lowercaseFrom {before text : List Char} (member : ':' ∈ text) :
    ':' ∈ lowercaseFrom before text := by
  induction text generalizing before with
  | nil => cases member
  | cons c rest ih =>
      rw [lowercaseFrom, List.mem_append]
      rcases List.mem_cons.mp member with rfl | later
      · exact .inl List.mem_cons_self
      · exact .inr (ih later)

end Text

theorem Channel.colon_notMem_of_ofName? {word : String} {channel : Channel}
    (named : Channel.ofName? word = some channel) : ':' ∉ word.toList := by
  simp only [Channel.ofName?] at named
  split at named
  case h_6 => cases named
  all_goals decide

/-- What is read as a channel holds no colon, as lowercasing would have kept it. -/
theorem Channel.colon_notMem_of_parse {name : String} {channel : Channel}
    (parsed : Channel.parse name = .ok channel) : ':' ∉ name.toList := by
  intro colon
  refine Channel.colon_notMem_of_ofName? (Channel.parse_eq_ok_iff.mp parsed) ?_
  rw [Text.lowercase, String.toList_ofList]
  exact Text.colon_mem_lowercaseFrom colon

theorem Scope.colon_notMem_name (scope : Scope) : ':' ∉ scope.name.toList := by
  cases scope with
  | chat | channel | dm | thread | peer => decide

namespace Conversation

/-! ## Splitting at colons -/

theorem splitColon_eq_some_iff {text before after : List Char} :
    splitColon text = some (before, after) ↔ ':' ∉ before ∧ text = before ++ ':' :: after := by
  fun_induction splitColon text generalizing before with
  | case1 => simp
  | case2 rest =>
      cases before with
      | nil => simp [eq_comm]
      | cons c before =>
          simp only [List.mem_cons, List.cons_append, List.cons.injEq, Option.some.injEq,
            Prod.mk.injEq, reduceCtorEq, false_and, false_iff]
          rintro ⟨plain, rfl, -⟩
          exact plain (.inl rfl)
  | case3 c rest other ih =>
      cases before with
      | nil => simpa using fun same _ => other same
      | cons d before =>
          rw [List.mem_cons, not_or, List.cons_append, List.cons.injEq]
          constructor
          · intro split
            rcases Option.map_eq_some_iff.mp split with ⟨_, found, same⟩
            cases same
            rcases ih.mp found with ⟨plain, rfl⟩
            exact ⟨⟨fun colon => other colon.symm, plain⟩, rfl, rfl⟩
          · rintro ⟨⟨_, plain⟩, rfl, text⟩
            rw [ih.mpr ⟨plain, text⟩, Option.map_some]

/-- A key with some name for its channel. -/
def keyNaming (conversation : Conversation) (channel : String) : String :=
  s!"{channel}:{conversation.scope.name}:{conversation.id}"

theorem toList_keyNaming (conversation : Conversation) (channel : String) :
    (conversation.keyNaming channel).toList =
      channel.toList ++ ':' :: (conversation.scope.name.toList ++ ':' :: conversation.id.toList) := by
  simp [keyNaming, toString]

theorem splitKey_eq_some_iff {key channel scope id : String} :
    splitKey key = some (channel, scope, id) ↔
      ':' ∉ channel.toList ∧ ':' ∉ scope.toList ∧
        key.toList = channel.toList ++ ':' :: (scope.toList ++ ':' :: id.toList) := by
  simp only [splitKey, Option.bind_eq_bind, Option.bind_eq_some_iff, Prod.exists,
    splitColon_eq_some_iff, Option.some.injEq, Prod.mk.injEq]
  constructor
  · rintro ⟨front, rest, ⟨noColon, whole⟩, middle, back, ⟨plain, rfl⟩, rfl, rfl, rfl⟩
    simp only [String.toList_ofList]
    exact ⟨noColon, plain, whole⟩
  · rintro ⟨noColon, plain, whole⟩
    exact ⟨_, _, ⟨noColon, whole⟩, _, _, ⟨plain, rfl⟩, String.ofList_toList, String.ofList_toList,
      String.ofList_toList⟩

/-! ## Building and reading -/

/-- The ids that a key can be built from. -/
structure Nameable (id : String) : Prop where
  nonempty : id ≠ ""
  unbroken : ∀ c ∈ id.toList, ¬ Text.isBlank c

theorem nameable_iff {id : String} :
    Nameable id ↔ ¬ id.isEmpty ∧ ¬ id.toList.any Text.isBlank := by
  rw [String.isEmpty_iff, List.any_eq_true]
  constructor
  · rintro ⟨nonempty, unbroken⟩
    exact ⟨nonempty, fun ⟨c, member, blank⟩ => unbroken c member blank⟩
  · rintro ⟨nonempty, unbroken⟩
    exact ⟨nonempty, fun c member blank => unbroken ⟨c, member, blank⟩⟩

theorem key_eq_ok_iff {conversation : Conversation} {key : String} :
    conversation.key = .ok key ↔
      Nameable conversation.id ∧ key = conversation.keyNaming conversation.channel.name := by
  rw [nameable_iff, Conversation.key]
  split
  next empty => simp [empty]
  next nonempty =>
    split
    next broken => simp [broken]
    next unbroken =>
      rw [Except.ok.injEq, eq_comm]
      exact ⟨fun same => ⟨⟨nonempty, unbroken⟩, same⟩, And.right⟩

theorem channelOfName_eq_ok_iff {name : String} {channel : Channel} :
    channelOfName name = .ok channel ↔ Channel.parse name = .ok channel := by
  rw [channelOfName]
  split
  next parsed => rw [parsed, Except.ok.injEq, Except.ok.injEq]
  next unknown => simp [unknown]

theorem ofNames_eq_ok_iff {channel scope id : String} {conversation : Conversation} :
    ofNames channel scope id = .ok conversation ↔
      Channel.parse channel = .ok conversation.channel ∧ scope = conversation.scope.name ∧
        id = conversation.id := by
  simp only [ofNames, bind_eq_ok_iff, channelOfName_eq_ok_iff, Scope.parse_eq_ok_iff]
  constructor
  · rintro ⟨_, parsed, _, named, made⟩
    cases made
    exact ⟨parsed, named, rfl⟩
  · rintro ⟨parsed, named, rfl⟩
    exact ⟨_, parsed, _, named, rfl⟩

/-- A key is accepted for a conversation when it is the built one, up to the name of the channel. -/
theorem ofKey_eq_ok_iff {key : String} {conversation : Conversation} :
    ofKey key = .ok conversation ↔
      ∃ name, Channel.parse name = .ok conversation.channel ∧ Nameable conversation.id ∧
        key = conversation.keyNaming name := by
  rw [ofKey]
  constructor
  · intro accepted
    cases parts : splitKey key with
    | none => simp [parts] at accepted
    | some names =>
        obtain ⟨channel, scope, id⟩ := names
        simp only [parts, bind_eq_ok_iff] at accepted
        rcases accepted with ⟨_, named, _, built, same⟩
        cases same
        rcases ofNames_eq_ok_iff.mp named with ⟨parsed, rfl, rfl⟩
        refine ⟨channel, parsed, (key_eq_ok_iff.mp built).1, String.toList_injective ?_⟩
        rw [toList_keyNaming]
        exact (splitKey_eq_some_iff.mp parts).2.2
  · rintro ⟨name, parsed, nameable, rfl⟩
    have parts : splitKey (conversation.keyNaming name) =
        some (name, conversation.scope.name, conversation.id) := by
      rw [splitKey_eq_some_iff]
      exact ⟨Channel.colon_notMem_of_parse parsed, Scope.colon_notMem_name _,
        toList_keyNaming conversation name⟩
    have named := ofNames_eq_ok_iff.mpr ⟨parsed, rfl, rfl⟩
    have built := key_eq_ok_iff.mpr ⟨nameable, rfl⟩
    simp only [parts, named, bind_eq_ok_iff]
    exact ⟨_, rfl, _, built, rfl⟩

theorem keyNaming_injective (conversation : Conversation) :
    Function.Injective conversation.keyNaming := by
  intro first second same
  have texts := congrArg String.toList same
  rw [toList_keyNaming, toList_keyNaming] at texts
  exact String.toList_injective (List.append_cancel_right texts)

/-- A built key is read as the conversation that it was built for, and no other conversation has
it: the id may hold colons and the names of channels and scopes. -/
theorem built_key_tells_conversation {conversation : Conversation} {key : String}
    (built : conversation.key = .ok key) :
    ofKey key = .ok conversation ∧
      ∀ other : Conversation, other.key = .ok key → other = conversation := by
  have back : ∀ other : Conversation, other.key = .ok key → ofKey key = .ok other := by
    intro other built
    rcases key_eq_ok_iff.mp built with ⟨nameable, named⟩
    exact ofKey_eq_ok_iff.mpr ⟨_, Channel.parse_name other.channel, nameable, named⟩
  refine ⟨back conversation built, fun other shared => ?_⟩
  have same := back other shared
  rw [back conversation built] at same
  exact (Except.ok.inj same).symm

/-- The id looks like a key of another conversation. -/
theorem built_key_tells_conversation_nested :
    ofKey "slack:thread:telegram:chat:é" = .ok ⟨.slack, .thread, "telegram:chat:é"⟩ ∧
      ∀ other : Conversation, other.key = .ok "slack:thread:telegram:chat:é" →
        other = ⟨.slack, .thread, "telegram:chat:é"⟩ :=
  built_key_tells_conversation (by rfl)

/-- What is accepted as a key of a conversation is its built key with any name that is read as the
channel, and it is the built key itself if and only if that is the channel's own name. -/
theorem accepted_key_rebuilt_iff (key : String) (conversation : Conversation) :
    ofKey key = .ok conversation ↔
      ∃ name, Channel.parse name = .ok conversation.channel ∧ Nameable conversation.id ∧
        key = conversation.keyNaming name ∧
        (conversation.key = .ok key ↔ name = conversation.channel.name) := by
  rw [ofKey_eq_ok_iff]
  constructor
  · rintro ⟨name, parsed, nameable, rfl⟩
    refine ⟨name, parsed, nameable, rfl, ?_⟩
    rw [key_eq_ok_iff, (keyNaming_injective conversation).eq_iff]
    exact and_iff_right nameable
  · rintro ⟨name, parsed, nameable, named, _⟩
    exact ⟨name, parsed, nameable, named⟩

/-- A capital letter in the channel is accepted, and gone from the key that is built again. -/
theorem accepted_key_rebuilt_iff_capital :
    ofKey "Telegram:chat:42" = .ok ⟨.telegram, .chat, "42"⟩ ∧
      ofKey "telegram:chat:42" = .ok ⟨.telegram, .chat, "42"⟩ ∧
      key ⟨.telegram, .chat, "42"⟩ = .ok "telegram:chat:42" := by
  have nameable : Nameable "42" := nameable_iff.mpr ⟨by decide, by decide⟩
  have built : key ⟨.telegram, .chat, "42"⟩ = .ok "telegram:chat:42" := rfl
  refine ⟨?_, ?_, built⟩
  · rw [accepted_key_rebuilt_iff]
    refine ⟨"Telegram", by decide +kernel, nameable, rfl, ?_⟩
    rw [built]
    decide
  · rw [accepted_key_rebuilt_iff]
    exact ⟨"telegram", Channel.parse_name .telegram, nameable, rfl, by rw [built]; decide⟩

/-! ## Built keys on the bus -/

section Bus

variable {conversation : Conversation} {key : String}

theorem plain_of_all {text : List Char}
    (plain : (text.all fun c => !Text.isBlank c && !Text.isControl c) = true) :
    ∀ c ∈ text, Text.isBlank c = false ∧ Text.isControl c = false := by
  simpa using plain

/-- Only the id brings blanks and control characters into a key. -/
theorem mem_built_key (built : conversation.key = .ok key) {c : Char} (member : c ∈ key.toList) :
    c ∈ conversation.id.toList ∨ Text.isBlank c = false ∧ Text.isControl c = false := by
  have channel : ∀ c ∈ conversation.channel.name.toList,
      Text.isBlank c = false ∧ Text.isControl c = false := by
    cases conversation.channel with
    | telegram | slack | discord | peer => exact plain_of_all rfl
  have scope : ∀ c ∈ conversation.scope.name.toList,
      Text.isBlank c = false ∧ Text.isControl c = false := by
    cases conversation.scope with
    | chat | channel | dm | thread | peer => exact plain_of_all rfl
  rw [(key_eq_ok_iff.mp built).2, toList_keyNaming] at member
  rcases List.mem_append.mp member with name | member
  · exact .inr (channel c name)
  rcases List.mem_cons.mp member with rfl | member
  · exact .inr (by decide)
  rcases List.mem_append.mp member with name | member
  · exact .inr (scope c name)
  rcases List.mem_cons.mp member with rfl | id
  · exact .inr (by decide)
  · exact .inl id

theorem mem_key_of_mem_id (built : conversation.key = .ok key) {c : Char}
    (member : c ∈ conversation.id.toList) : c ∈ key.toList := by
  rw [(key_eq_ok_iff.mp built).2, toList_keyNaming]
  simp [member]

theorem not_isBlank_of_mem_key (built : conversation.key = .ok key) :
    ∀ c ∈ key.toList, ¬ Text.isBlank c := by
  intro c member blank
  rcases mem_built_key built member with id | ⟨shown, _⟩
  · exact (key_eq_ok_iff.mp built).1.unbroken c id blank
  · rw [shown] at blank
    cases blank

theorem not_blankEdged_key (built : conversation.key = .ok key) :
    ¬ Text.BlankEdged key.toList := by
  rintro ⟨c, first | last, blank⟩
  · exact not_isBlank_of_mem_key built c (List.mem_of_head? first) blank
  · exact not_isBlank_of_mem_key built c (List.mem_of_getLast? last) blank

theorem key_ne_nil (built : conversation.key = .ok key) : key.toList ≠ [] := by
  rw [(key_eq_ok_iff.mp built).2, toList_keyNaming]
  simp

theorem control_mem_key_iff (built : conversation.key = .ok key) :
    (∃ c ∈ key.toList, Text.isControl c) ↔ ∃ c ∈ conversation.id.toList, Text.isControl c := by
  constructor
  · rintro ⟨c, member, control⟩
    rcases mem_built_key built member with id | ⟨_, printable⟩
    · exact ⟨c, id, control⟩
    · rw [printable] at control
      cases control
  · rintro ⟨c, member, control⟩
    exact ⟨c, mem_key_of_mem_id built member, control⟩

/-- Two things can be wrong with a built key. -/
theorem flaw_key_iff (built : conversation.key = .ok key) {fault : FieldFault} :
    Flaw key fault ↔
      (fault = .controlCharacter ∧ ∃ c ∈ conversation.id.toList, Text.isControl c) ∨
      (fault = .tooLong ∧ (∀ c ∈ conversation.id.toList, ¬ Text.isControl c) ∧
        512 < key.utf8ByteSize) := by
  have inner := not_blankEdged_key built
  have shown := Text.shown_of_inner (key_ne_nil built) inner
  have controls := control_mem_key_iff built
  constructor
  · intro flaw
    cases flaw with
    | blank blanks =>
        rcases shown with ⟨c, member, shown⟩
        exact absurd (blanks c member) shown
    | surroundingBlank _ edged => exact absurd edged inner
    | controlCharacter _ _ control => exact .inl ⟨rfl, controls.mp control⟩
    | tooLong _ _ printable long =>
        refine .inr ⟨rfl, fun c member => ?_, long⟩
        exact printable c (mem_key_of_mem_id built member)
  · rintro (⟨rfl, control⟩ | ⟨rfl, printable, long⟩)
    · exact .controlCharacter shown inner (controls.mpr control)
    · refine .tooLong shown inner (fun c member control => ?_) long
      rcases controls.mp ⟨c, member, control⟩ with ⟨d, id, control⟩
      exact printable d id control

theorem canonical_key_iff (built : conversation.key = .ok key) :
    Canonical key ↔
      (∀ c ∈ conversation.id.toList, ¬ Text.isControl c) ∧ key.utf8ByteSize ≤ 512 := by
  rw [canonical_iff]
  constructor
  · intro sound
    have printable : ∀ c ∈ conversation.id.toList, ¬ Text.isControl c := fun c member control =>
      sound _ ((flaw_key_iff built).mpr (.inl ⟨rfl, c, member, control⟩))
    refine ⟨printable, ?_⟩
    by_contra long
    exact sound _ ((flaw_key_iff built).mpr (.inr ⟨rfl, printable, by omega⟩))
  · rintro ⟨printable, short⟩ fault flaw
    rcases (flaw_key_iff built).mp flaw with ⟨_, c, member, control⟩ | ⟨_, _, long⟩
    · exact printable c member control
    · omega

end Bus

/-- A key can be built from the ids without blanks, and the bus takes it unless there is a control
character in the id or it is too long. Nothing else is wrong with a built key, blanks around it
least of all. -/
theorem built_key_taken_iff (conversation : Conversation) :
    ((∃ key, conversation.key = .ok key) ↔
      conversation.id ≠ "" ∧ ∀ c ∈ conversation.id.toList, ¬ Text.isBlank c) ∧
    ∀ key, conversation.key = .ok key →
      (checkCanonical "conversation_key" key = .ok () ↔
        (∀ c ∈ conversation.id.toList, ¬ Text.isControl c) ∧ key.utf8ByteSize ≤ 512) ∧
      ∀ error, checkCanonical "conversation_key" key = .error error ↔
        (error = .invalidField "conversation_key" .controlCharacter ∧
          ∃ c ∈ conversation.id.toList, Text.isControl c) ∨
        (error = .invalidField "conversation_key" .tooLong ∧
          (∀ c ∈ conversation.id.toList, ¬ Text.isControl c) ∧ 512 < key.utf8ByteSize) := by
  refine ⟨?_, fun key built => ⟨?_, fun error => ?_⟩⟩
  · constructor
    · rintro ⟨key, built⟩
      have nameable := (key_eq_ok_iff.mp built).1
      exact ⟨nameable.nonempty, nameable.unbroken⟩
    · rintro ⟨nonempty, unbroken⟩
      exact ⟨_, key_eq_ok_iff.mpr ⟨⟨nonempty, unbroken⟩, rfl⟩⟩
  · rw [checkCanonical_eq_ok_iff, canonical_key_iff built]
  · rw [checkCanonical_eq_error_iff]
    constructor
    · rintro ⟨fault, flaw, rfl⟩
      rcases (flaw_key_iff built).mp flaw with ⟨rfl, control⟩ | ⟨rfl, printable, long⟩
      · exact .inl ⟨rfl, control⟩
      · exact .inr ⟨rfl, printable, long⟩
    · rintro (⟨rfl, control⟩ | ⟨rfl, printable, long⟩)
      · exact ⟨_, (flaw_key_iff built).mpr (.inl ⟨rfl, control⟩), rfl⟩
      · exact ⟨_, (flaw_key_iff built).mpr (.inr ⟨rfl, printable, long⟩), rfl⟩

/-- A bell in the id does not keep a key from being built. -/
theorem built_key_taken_iff_bell :
    key ⟨.discord, .dm, "a\x07é"⟩ = .ok "discord:dm:a\x07é" ∧
      checkCanonical "conversation_key" "discord:dm:a\x07é" =
        .error (.invalidField "conversation_key" .controlCharacter) := by
  have built : key ⟨.discord, .dm, "a\x07é"⟩ = .ok "discord:dm:a\x07é" := rfl
  have taken := (built_key_taken_iff ⟨.discord, .dm, "a\x07é"⟩).2 _ built
  exact ⟨built, (taken.2 _).mpr (.inl ⟨rfl, '\x07', by decide, by decide⟩)⟩

end Conversation

end ConversationBus
