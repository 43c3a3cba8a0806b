import ConversationBus.Proofs.Json.Fields
import Mathlib.Data.List.Forall2
import Mathlib.Data.Option.Defs

/-!
# Values within a text

What is read as a value was read off a text that spells it, so each item of an array and each
member of an object has a text of its own: the part of the whole that its value was read from.
-/

namespace ConversationBus.Json

open Utf8

/-! ## Strings -/

section Strings

variable {α β : Type} {glyph : Glyph} {input rest : List Glyph}

/-- What was read off the input was read off a text at its front. -/
def Taken (read : List Glyph → Option (α × List Glyph)) (input : List Glyph) (content : α)
    (rest : List Glyph) : Prop :=
  ∃ text, input = text ++ rest ∧ Takes read text content

theorem taken_cons {first next : List Glyph → Option (α × List Glyph)} {content : α}
    (same : ∀ later, first (glyph :: later) = next later)
    (taken : Taken next input content rest) : Taken first (glyph :: input) content rest := by
  rcases taken with ⟨text, rfl, takes⟩
  exact ⟨glyph :: text, rfl, fun later => (same _).trans (takes later)⟩

theorem taken_map {first : List Glyph → Option (β × List Glyph)}
    {next : List Glyph → Option (α × List Glyph)} {make : α → β} {whole : β}
    (same : ∀ later, first (glyph :: later) =
      (next later).map fun (content, after) => (make content, after))
    (taken : ∀ content rest, next input = some (content, rest) → Taken next input content rest)
    (read : ((next input).map fun (content, after) => (make content, after)) = some (whole, rest)) :
    Taken first (glyph :: input) whole rest := by
  rcases Option.map_eq_some_iff.mp read with ⟨⟨content, after⟩, found, made⟩
  cases made
  rcases taken content rest found with ⟨text, rfl, takes⟩
  refine ⟨glyph :: text, rfl, fun later => ?_⟩
  rw [List.cons_append, same, takes, Option.map_some]

theorem taken_readPieces {state : StringState} {pieces : List Piece}
    (read : readPieces state input = some (pieces, rest)) :
    Taken (readPieces state) input pieces rest := by
  fun_induction readPieces state input generalizing pieces rest with
  | case1 =>
      cases read
      exact ⟨[.char '"'], rfl, fun later => by simp [readPieces]⟩
  | case2 _ _ ih => exact taken_cons (fun later => by simp [readPieces]) (ih read)
  | case4 c _ plain other printed ih =>
      exact taken_map (fun later => by simp [readPieces, plain, other, printed])
        (fun _ _ => ih) read
  | case5 _ _ ih => exact taken_map (fun later => by simp [readPieces]) (fun _ _ => ih) read
  | case6 _ ih => exact taken_cons (fun later => by simp [readPieces]) (ih read)
  | case7 _ _ plain _ meant ih =>
      exact taken_map (fun later => by simp [readPieces, plain, meant]) (fun _ _ => ih) read
  | case10 _ _ _ _ _ digit value last =>
      rename_i ih
      exact taken_map (fun later => by simp [readPieces, digit, last, value]) (fun _ _ => ih) read
  | case11 _ _ _ _ _ digit value more =>
      rename_i ih
      exact taken_cons (fun later => by simp [readPieces, digit, more, value]) (ih read)
  | case3 | case8 | case9 | case12 => cases read

theorem taken_readString {content : Option String}
    (read : readString input = some (content, rest)) : Taken readString input content rest := by
  rcases Option.map_eq_some_iff.mp read with ⟨⟨pieces, after⟩, found, same⟩
  cases same
  rcases taken_readPieces found with ⟨text, rfl, takes⟩
  exact ⟨text, rfl, fun later => by rw [readString, takes, Option.map_some]⟩

theorem taken_readKey {key : Option String} (read : readKey input = some (key, rest)) :
    Taken readKey input key rest := by
  rcases skipBlanks_split input with ⟨blanks, blank, split⟩
  rw [readKey] at read
  split at read
  next quoted opened =>
    rw [opened] at split
    rcases Option.bind_eq_some_iff.mp read with ⟨⟨key, after⟩, found, ends⟩
    rcases taken_readString found with ⟨text, rfl, takes⟩
    rcases skipBlanks_split after with ⟨more, blankMore, splitMore⟩
    simp only at ends
    split at ends
    next later colon =>
      cases ends
      rw [colon] at splitMore
      refine ⟨blanks ++ .char '"' :: (text ++ (more ++ [.char ':'])), ?_, fun later => ?_⟩
      · simp [split, splitMore]
      · have named := takes (more ++ .char ':' :: later)
        simp [readKey, blank _, blankMore _, skipBlanks, named]
    next => cases ends
  next => cases read

end Strings

/-! ## Values -/

theorem readWord_eq_some {word : List Char} {input rest : List Glyph}
    (read : readWord word input = some rest) : input = glyphs word ++ rest := by
  fun_induction readWord word input with
  | case1 => exact Option.some.inj read
  | case2 c word input ih => rw [ih read, glyphs_cons, List.cons_append]
  | case3 | case4 => cases read

theorem spells_of_word {c : Char} {word : List Char} {later rest : List Glyph}
    {content tree : Tree} (spelled : Spells (glyphs (c :: word)) content)
    (read : ((readWord word later).map fun rest => (content, rest)) = some (tree, rest)) :
    ∃ text, .char c :: later = text ++ rest ∧ Spells text tree := by
  rcases Option.map_eq_some_iff.mp read with ⟨after, found, same⟩
  cases same
  exact ⟨_, congrArg (.char c :: ·) (readWord_eq_some found), spelled⟩

mutual

/-- What was read as a value was read off a text that spells it. -/
theorem spells_of_readValue {fuel : Nat} {input rest : List Glyph} {tree : Tree}
    (read : readValue fuel input = some (tree, rest)) :
    ∃ text, input = text ++ rest ∧ Spells text tree := by
  cases fuel with
  | zero => cases read
  | succ fuel =>
      rcases skipBlanks_split input with ⟨blanks, blank, split⟩
      rw [readValue] at read
      rw [split]
      suffices token : ∃ text, skipBlanks input = text ++ rest ∧ Spells text tree by
        rcases token with ⟨text, found, spelled⟩
        rw [found, ← List.append_assoc]
        exact ⟨blanks ++ text, rfl, spelled.afterBlanks readValue_skipBlanks blank⟩
      split at read
      next later opens =>
        rw [opens]
        exact spells_of_word spells_null read
      next later opens =>
        rw [opens]
        exact spells_of_word spells_true read
      next later opens =>
        rw [opens]
        exact spells_of_word spells_false read
      next later opens =>
        rcases Option.map_eq_some_iff.mp read with ⟨⟨content, after⟩, string, same⟩
        cases same
        rcases taken_readString string with ⟨text, rfl, taken⟩
        exact ⟨_, opens, spells_string taken⟩
      next later opens =>
        rcases skipBlanks_split later with ⟨more, blankMore, splitMore⟩
        rw [opens, splitMore]
        split at read
        next after closed =>
          cases read
          exact ⟨_, by rw [closed]; simp, spells_empty_array blankMore⟩
        next =>
          rcases Option.map_eq_some_iff.mp read with ⟨⟨items, after⟩, found, same⟩
          cases same
          rcases spells_of_readItems found with ⟨text, whole, spelled⟩
          have spelledAll := spelled.afterBlanks readItems_skipBlanks blankMore
          exact ⟨_, by rw [whole]; simp, spells_array spelledAll⟩
      next later opens =>
        rcases skipBlanks_split later with ⟨more, blankMore, splitMore⟩
        rw [opens, splitMore]
        split at read
        next after closed =>
          cases read
          exact ⟨_, by rw [closed]; simp, spells_empty_object blankMore⟩
        next =>
          rcases Option.map_eq_some_iff.mp read with ⟨⟨members, after⟩, found, same⟩
          cases same
          rcases spells_of_readMembers found with ⟨text, whole, spelled⟩
          have spelledAll := spelled.afterBlanks readMembers_skipBlanks blankMore
          exact ⟨_, by rw [whole]; simp, spells_object spelledAll⟩
      next =>
        rcases Option.map_eq_some_iff.mp read with ⟨⟨literal, after⟩, number, same⟩
        cases same
        rcases numeral_of_readNumber number with ⟨numeral, written, whole⟩
        exact ⟨_, whole, spells_numeral written⟩

theorem spells_of_readItems {fuel : Nat} {input rest : List Glyph} {items : List Tree}
    (read : readItems fuel input = some (items, rest)) :
    ∃ text, input = text ++ rest ∧ SpellsItems text items := by
  cases fuel with
  | zero => cases read
  | succ fuel =>
      rw [readItems] at read
      rcases Option.bind_eq_some_iff.mp read with ⟨⟨item, after⟩, found, ends⟩
      rcases spells_of_readValue found with ⟨text, rfl, spelled⟩
      rcases skipBlanks_split after with ⟨blanks, blank, split⟩
      rw [split]
      simp only at ends
      split at ends
      next later comma =>
        rcases Option.map_eq_some_iff.mp ends with ⟨⟨others, last⟩, more, same⟩
        cases same
        rcases spells_of_readItems more with ⟨back, rfl, spelledMore⟩
        exact ⟨_, by rw [comma]; simp, spellsItems_cons spelled blank spelledMore⟩
      next later closed =>
        cases ends
        exact ⟨_, by rw [closed]; simp, spellsItems_last spelled blank⟩
      next => cases ends

theorem spells_of_readMembers {fuel : Nat} {input rest : List Glyph}
    {members : List (Option String × Tree)}
    (read : readMembers fuel input = some (members, rest)) :
    ∃ text, input = text ++ rest ∧ SpellsMembers text members := by
  cases fuel with
  | zero => cases read
  | succ fuel =>
      rw [readMembers] at read
      rcases Option.bind_eq_some_iff.mp read with ⟨⟨key, middle⟩, named, found⟩
      rcases taken_readKey named with ⟨name, rfl, taken⟩
      rcases Option.bind_eq_some_iff.mp found with ⟨⟨value, after⟩, found, ends⟩
      rcases spells_of_readValue found with ⟨text, rfl, spelled⟩
      rcases skipBlanks_split after with ⟨blanks, blank, split⟩
      rw [split]
      simp only at ends
      split at ends
      next later comma =>
        rcases Option.map_eq_some_iff.mp ends with ⟨⟨others, last⟩, more, same⟩
        cases same
        rcases spells_of_readMembers more with ⟨back, rfl, spelledMore⟩
        exact ⟨_, by rw [comma]; simp, spellsMembers_cons taken spelled blank spelledMore⟩
      next later closed =>
        cases ends
        exact ⟨_, by rw [closed]; simp, spellsMembers_last taken spelled blank⟩
      next => cases ends

end

/-! ## Rows -/

section Rows

variable {κ α β : Type} {Related : α → β → Prop} {front : List (κ × α)} {back : List (κ × β)}

/-- Rows with the same keys, one for one, and related contents. -/
def Paired (Related : α → β → Prop) (front : List (κ × α)) (back : List (κ × β)) : Prop :=
  List.Forall₂ (fun row other => row.1 = other.1 ∧ Related row.2 other.2) front back

theorem Paired.lookup [BEq κ] (paired : Paired Related front back) (key : κ) :
    Option.Rel Related (front.lookup key) (back.lookup key) := by
  induction paired with
  | nil => exact .none
  | @cons row other front back same _ ih =>
      rw [List.lookup_cons, List.lookup_cons, same.1]
      split
      next => exact .some same.2
      next => exact ih

theorem Paired.keys_eq (paired : Paired Related front back) :
    front.map Prod.fst = back.map Prod.fst := by
  induction paired with
  | nil => rfl
  | cons same _ ih => rw [List.map_cons, List.map_cons, same.1, ih]

theorem Paired.lookup_of_some [BEq κ] (paired : Paired Related front back) {key : κ} {content : β}
    (found : back.lookup key = some content) :
    ∃ other, front.lookup key = some other ∧ Related other content := by
  have related := paired.lookup key
  rw [found] at related
  generalize front.lookup key = held at related
  cases related with
  | some related => exact ⟨_, rfl, related⟩

theorem paired_zip {contents : List α} {others : List β} (keys : List κ)
    (related : List.Forall₂ Related contents others) :
    Paired Related (keys.zip contents) (keys.zip others) := by
  induction related generalizing keys with
  | nil =>
      rw [List.zip_nil_right, List.zip_nil_right]
      exact .nil
  | cons same _ ih =>
      cases keys with
      | nil => exact .nil
      | cons key keys => exact .cons ⟨rfl, same⟩ (ih keys)

end Rows

/-! ## Fields -/

/-- The text of the value that the input begins with, and what comes after it. -/
def splitValue (fuel : Nat) (input : List Glyph) : Option (List Glyph × List Glyph) :=
  (readValue fuel input).map fun (_, rest) =>
    ((skipBlanks input).take ((skipBlanks input).length - rest.length), rest)

/-- The texts of the items of an array, after its opening bracket. -/
def itemTexts : Nat → List Glyph → List (List Glyph)
  | 0, _ => []
  | fuel + 1, input =>
    match splitValue fuel input with
    | none => []
    | some (text, rest) =>
      match skipBlanks rest with
      | .char ',' :: rest => text :: itemTexts fuel rest
      | _ => [text]

/-- The keys of an object with the texts of their values, after its opening brace. -/
def memberTexts : Nat → List Glyph → List (Option String × List Glyph)
  | 0, _ => []
  | fuel + 1, input =>
    match readKey input with
    | none => []
    | some (key, rest) =>
      match splitValue fuel rest with
      | none => []
      | some (text, rest) =>
        match skipBlanks rest with
        | .char ',' :: rest => (key, text) :: memberTexts fuel rest
        | _ => [(key, text)]

/-- The text given for a field of a record with the given names. -/
def fieldText? (names : List String) (input : List Glyph) (name : String) : Option (List Glyph) :=
  match skipBlanks input with
  | .char '[' :: rest => (names.zip (itemTexts (2 * input.length + 1) rest)).lookup name
  | .char '{' :: rest => (memberTexts (2 * input.length + 1) rest).lookup (some name)
  | _ => none

/-- A part of a text that spells a value. -/
structure Excerpt (whole text : List Glyph) (tree : Tree) : Prop where
  within : text <:+: whole
  spelled : Spells text tree

section Fields

variable {input rest : List Glyph} {fuel : Nat} {tree : Tree} {items : List Tree}
  {members : List (Option String × Tree)}

theorem Excerpt.grow {whole text : List Glyph} (excerpt : Excerpt rest text tree)
    (suffix : rest <:+ whole) : Excerpt whole text tree :=
  ⟨excerpt.within.trans suffix.isInfix, excerpt.spelled⟩

theorem skipBlanks_suffix (input : List Glyph) : skipBlanks input <:+ input := by
  rcases skipBlanks_split input with ⟨blanks, _, split⟩
  exact ⟨blanks, split.symm⟩

/-- What a value was read off is its text, which what comes after it follows. -/
theorem splitValue_of_readValue (read : readValue fuel input = some (tree, rest)) :
    ∃ text, splitValue fuel input = some (text, rest) ∧ Excerpt input text tree ∧
      rest <:+ input := by
  rw [← readValue_skipBlanks] at read
  rcases spells_of_readValue read with ⟨text, split, spelled⟩
  rw [readValue_skipBlanks] at read
  have suffix := skipBlanks_suffix input
  rw [split] at suffix
  refine ⟨text, ?_, ⟨?_, spelled⟩, (List.suffix_append text rest).trans suffix⟩
  · simp [splitValue, read, split]
  · exact (List.prefix_append text rest).isInfix.trans suffix.isInfix

theorem itemTexts_excerpts (read : readItems fuel input = some (items, rest)) :
    List.Forall₂ (Excerpt input) (itemTexts fuel input) items := by
  induction fuel generalizing input items with
  | zero => cases read
  | succ fuel ih =>
      rw [readItems] at read
      rcases Option.bind_eq_some_iff.mp read with ⟨⟨item, after⟩, found, ends⟩
      rcases splitValue_of_readValue found with ⟨text, split, excerpt, suffix⟩
      simp only [itemTexts, split]
      simp only at ends
      split at ends
      next later comma =>
        rcases Option.map_eq_some_iff.mp ends with ⟨⟨others, last⟩, more, same⟩
        cases same
        have tail := (skipBlanks_suffix after).trans suffix
        rw [comma] at tail
        rw [comma]
        refine .cons excerpt ((ih more).imp fun _ _ part => ?_)
        exact part.grow ((List.suffix_cons _ later).trans tail)
      next later closed =>
        cases ends
        rw [closed]
        exact .cons excerpt .nil
      next => cases ends

theorem memberTexts_excerpts (read : readMembers fuel input = some (members, rest)) :
    Paired (Excerpt input) (memberTexts fuel input) members := by
  induction fuel generalizing input members with
  | zero => cases read
  | succ fuel ih =>
      rw [readMembers] at read
      rcases Option.bind_eq_some_iff.mp read with ⟨⟨key, middle⟩, named, found⟩
      rcases taken_readKey named with ⟨name, rfl, _⟩
      rcases Option.bind_eq_some_iff.mp found with ⟨⟨value, after⟩, found, ends⟩
      rcases splitValue_of_readValue found with ⟨text, split, excerpt, suffix⟩
      have front := List.suffix_append name middle
      simp only [memberTexts, named, split]
      simp only at ends
      split at ends
      next later comma =>
        rcases Option.map_eq_some_iff.mp ends with ⟨⟨others, last⟩, more, same⟩
        cases same
        have tail := (skipBlanks_suffix after).trans (suffix.trans front)
        rw [comma] at tail
        rw [comma]
        refine .cons ⟨rfl, excerpt.grow front⟩ ((ih more).imp fun _ _ part => ⟨part.1, ?_⟩)
        exact part.2.grow ((List.suffix_cons _ later).trans tail)
      next later closed =>
        cases ends
        rw [closed]
        exact .cons ⟨rfl, excerpt.grow front⟩ .nil
      next => cases ends

theorem readItems_of_array (read : readValue (fuel + 1) input = some (.array items, rest)) :
    ∃ later, skipBlanks input = .char '[' :: later ∧
      (items = [] ∨ readItems fuel later = some (items, rest)) := by
  rw [readValue] at read
  split at read
  case h_5 later opens =>
    refine ⟨later, opens, ?_⟩
    split at read
    next =>
      cases read
      exact .inl rfl
    next =>
      rw [readItems_skipBlanks] at read
      rcases Option.map_eq_some_iff.mp read with ⟨⟨items, after⟩, found, same⟩
      cases same
      exact .inr found
  case h_6 =>
    split at read
    all_goals simp at read
  all_goals simp at read

theorem readMembers_of_object (read : readValue (fuel + 1) input = some (.object members, rest)) :
    ∃ later, skipBlanks input = .char '{' :: later ∧
      (members = [] ∨ readMembers fuel later = some (members, rest)) := by
  rw [readValue] at read
  split at read
  case h_6 later opens =>
    refine ⟨later, opens, ?_⟩
    split at read
    next =>
      cases read
      exact .inl rfl
    next =>
      rw [readMembers_skipBlanks] at read
      rcases Option.map_eq_some_iff.mp read with ⟨⟨members, after⟩, found, same⟩
      cases same
      exact .inr found
  case h_5 =>
    split at read
    all_goals simp at read
  all_goals simp at read

theorem Excerpt.after {glyph : Glyph} {later text : List Glyph} (excerpt : Excerpt later text tree)
    (opens : skipBlanks input = glyph :: later) : Excerpt input text tree := by
  have suffix := skipBlanks_suffix input
  rw [opens] at suffix
  exact excerpt.grow ((List.suffix_cons glyph later).trans suffix)

theorem readValue_of_ofGlyphs? (read : Tree.ofGlyphs? input = some tree) :
    ∃ rest, readValue (2 * input.length + 2) input = some (tree, rest) := by
  rcases Option.bind_eq_some_iff.mp read with ⟨⟨other, rest⟩, found, whole⟩
  simp only at whole
  split at whole
  next =>
    cases whole
    exact ⟨rest, found⟩
  next => cases whole

/-- Each field of a record that was read from a text has a part of the text for itself. -/
theorem fieldText?_of_fields? {names : List String} {fields : Fields} {name : String} {part : Tree}
    (read : Tree.ofGlyphs? input = some tree) (given : tree.fields? names = some fields)
    (found : fields name = some part) :
    ∃ text, fieldText? names input name = some text ∧ Excerpt input text part := by
  rcases readValue_of_ofGlyphs? read with ⟨rest, read⟩
  cases tree with
  | array items =>
      rcases of_fields?_array given with ⟨_, rfl⟩
      rcases readItems_of_array read with ⟨later, opens, rfl | more⟩
      · rw [List.zip_nil_right] at found
        cases found
      · rcases (paired_zip names (itemTexts_excerpts more)).lookup_of_some found with
          ⟨text, held, excerpt⟩
        exact ⟨text, by rw [fieldText?, opens]; exact held, excerpt.after opens⟩
  | object members =>
      rcases of_fields?_object given with ⟨_, rfl⟩
      rcases readMembers_of_object read with ⟨later, opens, rfl | more⟩
      · cases found
      · rcases (memberTexts_excerpts more).lookup_of_some found with ⟨text, held, excerpt⟩
        exact ⟨text, by rw [fieldText?, opens]; exact held, excerpt.after opens⟩
  | null | bool | number | string => cases given

end Fields

end ConversationBus.Json
