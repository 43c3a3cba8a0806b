import ConversationBus.Proofs.Json.Spelling

/-!
# JSON values that are read back

The compact form of a value spells a tree from which the value can be told again: strings keep their
text whatever characters are in it, and numbers are written as numerals.
-/

namespace ConversationBus.Json

open Utf8

/-! ## Strings -/

section Strings

variable {rest : List Glyph}

/-- Puts a character before the units that were read. -/
def before (c : Char) : Option (List Piece × List Glyph) → Option (List Piece × List Glyph) :=
  Option.map fun (pieces, after) => (.char c :: pieces, after)

theorem readPieces_letter {letter c : Char} (meant : simpleEscape? letter = some c)
    (plain : letter ≠ 'u') :
    readPieces .between (glyphs ['\\', letter] ++ rest) = before c (readPieces .between rest) := by
  simp [readPieces, plain, meant, before]

theorem simpleEscape?_of_escapeLetter? {letter c : Char} (escaped : escapeLetter? c = some letter) :
    simpleEscape? letter = some c ∧ letter ≠ 'u' := by
  simp only [escapeLetter?] at escaped
  split at escaped
  all_goals cases escaped
  all_goals decide

theorem readPieces_code {c : Char} (control : c.toNat < 0x20) :
    readPieces .between
        (glyphs ['\\', 'u', '0', '0', Nat.digitChar (c.toNat / 16), Nat.digitChar (c.toNat % 16)] ++
          rest) = before c (readPieces .between rest) := by
  have zero : Hex.value? '0' = some 0 := Hex.value?_digit 0
  have high : Hex.value? (Nat.digitChar (c.toNat / 16)) = some ⟨c.toNat / 16, by omega⟩ :=
    Hex.value?_digit ⟨c.toNat / 16, by omega⟩
  have low : Hex.value? (Nat.digitChar (c.toNat % 16)) = some ⟨c.toNat % 16, by omega⟩ :=
    Hex.value?_digit ⟨c.toNat % 16, by omega⟩
  have whole : c.toNat / 16 * 16 + c.toNat % 16 = c.toNat := Nat.div_add_mod' ..
  have meant : Piece.ofCode c.toNat = .char c := by
    rw [Piece.ofCode, if_neg (by omega), Char.ofNat_toNat]
  simp [readPieces, zero, high, low, whole, meant, before]

/-- A character is read back from the way it stands in a string. -/
theorem readPieces_escapeChar (c : Char) :
    readPieces .between (glyphs (escapeChar c) ++ rest) = before c (readPieces .between rest) := by
  simp only [escapeChar]
  split
  next quote =>
    subst quote
    exact readPieces_letter rfl (by decide)
  next quote =>
    split
    next slash =>
      subst slash
      exact readPieces_letter rfl (by decide)
    next slash =>
      split
      next control =>
        split
        next letter escaped =>
          have meant := simpleEscape?_of_escapeLetter? escaped
          exact readPieces_letter meant.1 meant.2
        next => exact readPieces_code control
      next printed => simp [readPieces, quote, slash, printed, before]

theorem readPieces_escaped (text : List Char) :
    readPieces .between (glyphs (text.flatMap escapeChar) ++ .char '"' :: rest) =
      some (text.map .char, rest) := by
  induction text with
  | nil => simp [readPieces]
  | cons c text ih => simp [readPieces_escapeChar, ih, before]

theorem text?_chars (text : List Char) : Piece.text? (text.map .char) = some text := by
  induction text with
  | nil => rfl
  | cons c text ih => simp [Piece.text?, ih]

theorem takes_quote (text : String) :
    Takes readString (glyphs (text.toList.flatMap escapeChar ++ ['"'])) (some text) := by
  intro rest
  simp [readString, readPieces_escaped, text?_chars]

theorem takes_key (key : String) : Takes readKey (glyphs (quote key ++ [':'])) (some key) := by
  intro rest
  have read := takes_quote key (.char ':' :: rest)
  rw [glyphs_append, List.append_assoc] at read
  simp_all [readKey, quote, skipBlanks]

end Strings

/-! ## Values -/

mutual

/-- What the compact form of a value spells. -/
def Value.tree : Value → Tree
  | .null => .null
  | .bool value => .bool value
  | .number value => .number value.literal
  | .string text => .string (some text)
  | .array items => .array (treesOfItems items)
  | .object members => .object (treesOfMembers members)

def treesOfItems : List Value → List Tree
  | [] => []
  | item :: rest => item.tree :: treesOfItems rest

def treesOfMembers : List (String × Value) → List (Option String × Tree)
  | [] => []
  | (key, value) :: rest => (some key, value.tree) :: treesOfMembers rest

end

theorem treesOfMembers_eq_map (members : List (String × Value)) :
    treesOfMembers members = members.map fun member => (some member.1, member.2.tree) := by
  induction members with
  | nil => rfl
  | cons member rest ih => rw [treesOfMembers, ih, List.map_cons]

mutual

theorem Value.spells (value : Value) : Spells (glyphs value.render) value.tree := by
  cases value with
  | null => exact spells_null
  | bool value =>
      cases value with
      | true => exact spells_true
      | false => exact spells_false
  | number value => exact spells_numeral value.numeral_render
  | string text => exact spells_string (takes_quote text)
  | array items =>
      cases items with
      | nil => exact spells_empty_array blank_nil
      | cons item rest =>
          have spelled := spells_array (items_spell (item :: rest) nofun)
          simpa [Value.render, Value.tree] using spelled
  | object members =>
      cases members with
      | nil => exact spells_empty_object blank_nil
      | cons member rest =>
          have spelled := spells_object (members_spell (member :: rest) nofun)
          simpa [Value.render, Value.tree] using spelled

theorem items_spell (items : List Value) (some : items ≠ []) :
    SpellsItems (glyphs (renderItems items) ++ [.char ']']) (treesOfItems items) := by
  cases items with
  | nil => exact absurd rfl some
  | cons item rest =>
      cases rest with
      | nil => exact spellsItems_last item.spells blank_nil
      | cons next rest =>
          have spelled :=
            spellsItems_cons item.spells blank_nil (items_spell (next :: rest) nofun)
          simpa [renderItems, treesOfItems] using spelled

theorem members_spell (members : List (String × Value)) (some : members ≠ []) :
    SpellsMembers (glyphs (renderMembers members) ++ [.char '}']) (treesOfMembers members) := by
  cases members with
  | nil => exact absurd rfl some
  | cons member rest =>
      obtain ⟨key, value⟩ := member
      cases rest with
      | nil =>
          have spelled := spellsMembers_last (takes_key key) value.spells blank_nil
          simpa [renderMembers, treesOfMembers] using spelled
      | cons next rest =>
          have spelled := spellsMembers_cons (takes_key key) value.spells blank_nil
            (members_spell (next :: rest) nofun)
          simpa [renderMembers, treesOfMembers] using spelled

end

theorem Tree.parse?_encodeText (text : String) :
    Tree.parse? (encodeText text) = Tree.ofGlyphs? (glyphs text.toList) := by
  rw [Tree.parse?, encodeText, decode_encode]

theorem Tree.parse?_bytes_eq (value : Value) : Tree.parse? value.bytes = some value.tree := by
  rw [Tree.parse?, Value.bytes, decode_encode, value.spells.ofGlyphs?]

/-! ## Values without doubles -/

mutual

/-- What the compact form of a value spells, unless there is a floating-point number in it. -/
def Value.tree? : Value → Option Tree
  | .null => some .null
  | .bool value => some (.bool value)
  | .number (.integer value) => some (.number (.ofInt value))
  | .number (.float _) => none
  | .string text => some (.string (some text))
  | .array items => (treesOfItems? items).map .array
  | .object members => (treesOfMembers? members).map .object

def treesOfItems? : List Value → Option (List Tree)
  | [] => some []
  | item :: rest => do
    let tree ← item.tree?
    let trees ← treesOfItems? rest
    some (tree :: trees)

def treesOfMembers? : List (String × Value) → Option (List (Option String × Tree))
  | [] => some []
  | (key, value) :: rest => do
    let tree ← value.tree?
    let trees ← treesOfMembers? rest
    some ((some key, tree) :: trees)

end

mutual

theorem Value.tree_of_tree? {value : Value} {tree : Tree} (spelled : value.tree? = some tree) :
    value.tree = tree := by
  cases value with
  | null | bool | string =>
      cases spelled
      rfl
  | number value =>
      cases value with
      | integer value =>
          cases spelled
          rfl
      | float value => cases spelled
  | array items =>
      rcases Option.map_eq_some_iff.mp spelled with ⟨trees, found, rfl⟩
      rw [Value.tree, treesOfItems_of_trees? found]
  | object members =>
      rcases Option.map_eq_some_iff.mp spelled with ⟨trees, found, rfl⟩
      rw [Value.tree, treesOfMembers_of_trees? found]

theorem treesOfItems_of_trees? {items : List Value} {trees : List Tree}
    (found : treesOfItems? items = some trees) : treesOfItems items = trees := by
  cases items with
  | nil =>
      cases found
      rfl
  | cons item rest =>
      rcases Option.bind_eq_some_iff.mp found with ⟨tree, one, found⟩
      rcases Option.bind_eq_some_iff.mp found with ⟨others, later, same⟩
      cases same
      rw [treesOfItems, Value.tree_of_tree? one, treesOfItems_of_trees? later]

theorem treesOfMembers_of_trees? {members : List (String × Value)}
    {trees : List (Option String × Tree)} (found : treesOfMembers? members = some trees) :
    treesOfMembers members = trees := by
  cases members with
  | nil =>
      cases found
      rfl
  | cons member rest =>
      obtain ⟨key, value⟩ := member
      rcases Option.bind_eq_some_iff.mp found with ⟨tree, one, found⟩
      rcases Option.bind_eq_some_iff.mp found with ⟨others, later, same⟩
      cases same
      rw [treesOfMembers, Value.tree_of_tree? one, treesOfMembers_of_trees? later]

end

theorem Tree.parse?_bytes {value : Value} {tree : Tree} (spelled : value.tree? = some tree) :
    Tree.parse? value.bytes = some tree := by
  rw [Tree.parse?_bytes_eq, Value.tree_of_tree? spelled]

theorem Tree.parse?_nil : Tree.parse? [] = none := by
  simp [Tree.parse?, Tree.ofGlyphs?, decode, readValue, skipBlanks, readNumber, readWhole,
    readDigits, splitDigits]

end ConversationBus.Json
