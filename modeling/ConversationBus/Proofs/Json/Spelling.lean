import ConversationBus.Proofs.Json.Doubles

/-!
# What a JSON text spells

The texts of values by their parts, with blanks between the tokens. A text is read as one value
whatever comes after it, so what holds of a value alone holds of it within an array or an object;
and a value that was read off an input was read off such a text.
-/

namespace ConversationBus.Json

open Utf8

/-- A reader takes a text for its content, whatever comes after it. -/
def Takes {α : Type} (read : List Glyph → Option (α × List Glyph)) (text : List Glyph)
    (content : α) : Prop :=
  ∀ rest, read (text ++ rest) = some (content, rest)

/-- A text that is left out between tokens. -/
def Blank (blanks : List Glyph) : Prop :=
  ∀ later, skipBlanks (blanks ++ later) = skipBlanks later

/-- A reader with fuel takes a text for its content when the fuel is enough for the length of the
text, whatever comes after it that fits there. -/
def TakesWithin {α : Type} (read : Nat → List Glyph → Option (α × List Glyph))
    (Fits : List Glyph → Prop) (text : List Glyph) (content : α) : Prop :=
  ∀ fuel rest, 2 * text.length ≤ fuel → Fits rest → read fuel (text ++ rest) = some (content, rest)

/-- A text is read as one value. -/
def Spells : List Glyph → Tree → Prop :=
  TakesWithin readValue Ended

/-- A text with a closing bracket is read as the items of an array. -/
def SpellsItems : List Glyph → List Tree → Prop :=
  TakesWithin readItems fun _ => True

/-- A text with a closing brace is read as the members of an object. -/
def SpellsMembers : List Glyph → List (Option String × Tree) → Prop :=
  TakesWithin readMembers fun _ => True

/-! ## Blanks -/

section Blanks

variable {input blanks later : List Glyph} {glyph : Glyph}

theorem blank_nil : Blank [] :=
  fun _ => rfl

theorem skipBlanks_split (input : List Glyph) :
    ∃ blanks, Blank blanks ∧ input = blanks ++ skipBlanks input := by
  fun_induction skipBlanks input with
  | case1 c rest space ih =>
      rcases ih with ⟨blanks, blank, split⟩
      refine ⟨.char c :: blanks, fun later => ?_, congrArg _ split⟩
      rw [List.cons_append, skipBlanks, if_pos space, blank]
  | case2 | case3 => exact ⟨[], blank_nil, rfl⟩

/-- What comes after blanks does not begin with one. -/
theorem skipBlanks_of_skipBlanks (found : skipBlanks input = glyph :: later)
    (other : List Glyph) : skipBlanks (glyph :: other) = glyph :: other := by
  fun_induction skipBlanks input with
  | case1 c rest space ih => exact ih found
  | case2 c rest shown =>
      cases found
      rw [skipBlanks, if_neg shown]
  | case3 input plain =>
      cases glyph with
      | junk byte => rfl
      | char c => exact absurd found (plain c later)

@[simp] theorem skipBlanks_skipBlanks (input : List Glyph) :
    skipBlanks (skipBlanks input) = skipBlanks input := by
  cases found : skipBlanks input with
  | nil => rfl
  | cons glyph later => exact skipBlanks_of_skipBlanks found later

theorem ended_of_skipBlanks (ended : Ended (skipBlanks input)) : Ended input := by
  cases input with
  | nil => exact ended_nil
  | cons glyph rest =>
      cases glyph with
      | junk byte => exact nofun
      | char c =>
          by_cases space : c = ' ' ∨ c = '\t' ∨ c = '\n' ∨ c = '\r'
          · refine ended_cons ?_
            rcases space with rfl | rfl | rfl | rfl
            all_goals decide
          · rwa [skipBlanks, if_neg space] at ended

theorem readValue_skipBlanks (fuel : Nat) (input : List Glyph) :
    readValue fuel (skipBlanks input) = readValue fuel input := by
  cases fuel with
  | zero => rfl
  | succ fuel => rw [readValue, readValue, skipBlanks_skipBlanks]

theorem readItems_skipBlanks (fuel : Nat) (input : List Glyph) :
    readItems fuel (skipBlanks input) = readItems fuel input := by
  cases fuel with
  | zero => rfl
  | succ fuel => rw [readItems, readItems, readValue_skipBlanks]

theorem readMembers_skipBlanks (fuel : Nat) (input : List Glyph) :
    readMembers fuel (skipBlanks input) = readMembers fuel input := by
  cases fuel with
  | zero => rfl
  | succ fuel => rw [readMembers, readMembers, readKey, readKey, skipBlanks_skipBlanks]

/-- Blanks may stand before what a reader takes that begins by leaving them out. -/
theorem TakesWithin.afterBlanks {α : Type} {read : Nat → List Glyph → Option (α × List Glyph)}
    {Fits : List Glyph → Prop} {text : List Glyph} {content : α}
    (takes : TakesWithin read Fits text content)
    (skips : ∀ fuel input, read fuel (skipBlanks input) = read fuel input) (blank : Blank blanks) :
    TakesWithin read Fits (blanks ++ text) content := by
  intro fuel rest enough fits
  rw [List.length_append] at enough
  rw [List.append_assoc, ← skips, blank, skips]
  exact takes fuel rest (by omega) fits

end Blanks

/-! ## Texts of values -/

section Formers

variable {text others blanks : List Glyph} {tree : Tree} {items : List Tree}
  {key : Option String} {members : List (Option String × Tree)}

/-- A text that is not empty is never read without fuel. -/
theorem spells_token (some : text ≠ [])
    (reads : ∀ fuel rest, Ended rest →
      readValue (fuel + 1) (text ++ rest) = .some (tree, rest)) : Spells text tree := by
  intro fuel rest enough ended
  cases fuel with
  | zero => exact absurd (List.length_eq_zero_iff.mp (by omega)) some
  | succ fuel => exact reads fuel rest ended

theorem spells_null : Spells (glyphs "null".toList) .null :=
  spells_token (by decide) fun fuel rest _ => by simp [readValue, skipBlanks, readWord]

theorem spells_true : Spells (glyphs "true".toList) (.bool true) :=
  spells_token (by decide) fun fuel rest _ => by simp [readValue, skipBlanks, readWord]

theorem spells_false : Spells (glyphs "false".toList) (.bool false) :=
  spells_token (by decide) fun fuel rest _ => by simp [readValue, skipBlanks, readWord]

theorem spells_string {content : Option String} (taken : Takes readString text content) :
    Spells (.char '"' :: text) (.string content) :=
  spells_token nofun fun fuel rest _ => by simp [readValue, skipBlanks, taken rest]

theorem readValue_number {c : Char} (begins : c = '-' ∨ Text.isDigit c = true) (fuel : Nat)
    (rest : List Glyph) :
    readValue (fuel + 1) (.char c :: rest) =
      (readNumber (.char c :: rest)).map fun (literal, rest) => (.number literal, rest) := by
  have shown : ¬(c = ' ' ∨ c = '\t' ∨ c = '\n' ∨ c = '\r') := by
    rintro (rfl | rfl | rfl | rfl)
    all_goals exact absurd begins (by decide)
  rw [readValue, skipBlanks, if_neg shown]
  split
  case h_7 => rfl
  all_goals
    next same =>
      cases same
      exact absurd begins (by decide)

theorem spells_numeral {numeral : List Char} {literal : Literal}
    (written : Numeral numeral literal) : Spells (glyphs numeral) (.number literal) := by
  rcases written.begins with ⟨c, later, rfl, begins⟩
  refine spells_token nofun fun fuel rest ended => ?_
  have read := readNumber_numeral written ended
  rw [glyphs_cons, List.cons_append] at read ⊢
  rw [readValue_number begins, read, Option.map_some]

/-- A value is read up to the mark after it, with blanks between them. -/
theorem Spells.readValue_mark (spelled : Spells text tree) (blank : Blank blanks) {mark : Char}
    (marks : mark = ',' ∨ mark = ']' ∨ mark = '}') {fuel : Nat} (enough : 2 * text.length ≤ fuel)
    (rest : List Glyph) :
    readValue fuel (text ++ (blanks ++ .char mark :: rest)) =
        some (tree, blanks ++ .char mark :: rest) ∧
      skipBlanks (blanks ++ .char mark :: rest) = .char mark :: rest := by
  have shown : skipBlanks (blanks ++ .char mark :: rest) = .char mark :: rest := by
    rw [blank]
    rcases marks with rfl | rfl | rfl
    all_goals rfl
  refine ⟨spelled fuel _ enough (ended_of_skipBlanks ?_), shown⟩
  rw [shown]
  refine ended_cons ?_
  rcases marks with rfl | rfl | rfl
  all_goals decide

theorem spellsItems_last (spelled : Spells text tree) (blank : Blank blanks) :
    SpellsItems (text ++ (blanks ++ [.char ']'])) [tree] := by
  intro fuel rest enough _
  simp only [List.length_append, List.length_singleton] at enough
  cases fuel with
  | zero => cases enough
  | succ fuel =>
      rcases spelled.readValue_mark blank (.inr (.inl rfl)) (by omega : _ ≤ fuel) rest with
        ⟨read, closed⟩
      simp [readItems, read, closed]

theorem spellsItems_cons (spelled : Spells text tree) (blank : Blank blanks)
    (later : SpellsItems others items) :
    SpellsItems (text ++ (blanks ++ .char ',' :: others)) (tree :: items) := by
  intro fuel rest enough _
  simp only [List.length_append, List.length_cons] at enough
  cases fuel with
  | zero => cases enough
  | succ fuel =>
      rcases spelled.readValue_mark blank (.inl rfl) (by omega : _ ≤ fuel) (others ++ rest) with
        ⟨read, comma⟩
      have readLater := later fuel rest (by omega) trivial
      simp [readItems, read, comma, readLater]

theorem spells_empty_array (blank : Blank blanks) :
    Spells (.char '[' :: (blanks ++ [.char ']'])) (.array []) :=
  spells_token nofun fun fuel rest _ => by
    simp [readValue, skipBlanks, blank (.char ']' :: rest)]

theorem readValue_items {fuel : Nat} {input rest : List Glyph}
    (read : readItems fuel input = some (items, rest)) :
    readValue (fuel + 1) (.char '[' :: input) = some (.array items, rest) := by
  rw [← readItems_skipBlanks] at read
  rw [readValue, skipBlanks, if_neg (by decide)]
  simp only
  split
  next closed =>
    rw [closed] at read
    cases fuel with
    | zero => cases read
    | succ fuel =>
        cases fuel with
        | zero => cases read
        | succ fuel =>
            simp [readItems, readValue, skipBlanks, readNumber, readWhole, readDigits, splitDigits,
              Text.isDigit] at read
  next => rw [read, Option.map_some]

theorem spells_array (spelled : SpellsItems text items) :
    Spells (.char '[' :: text) (.array items) := by
  intro fuel rest enough _
  rw [List.length_cons] at enough
  cases fuel with
  | zero => cases enough
  | succ fuel => exact readValue_items (spelled fuel rest (by omega) trivial)

theorem spellsMembers_last {name : List Glyph} (named : Takes readKey name key)
    (spelled : Spells text tree) (blank : Blank blanks) :
    SpellsMembers (name ++ (text ++ (blanks ++ [.char '}']))) [(key, tree)] := by
  intro fuel rest enough _
  simp only [List.length_append, List.length_singleton] at enough
  cases fuel with
  | zero => cases enough
  | succ fuel =>
      rcases spelled.readValue_mark blank (.inr (.inr rfl)) (by omega : _ ≤ fuel) rest with
        ⟨read, closed⟩
      have readName := named (text ++ (blanks ++ .char '}' :: rest))
      simp [readMembers, readName, read, closed]

theorem spellsMembers_cons {name : List Glyph} (named : Takes readKey name key)
    (spelled : Spells text tree) (blank : Blank blanks) (later : SpellsMembers others members) :
    SpellsMembers (name ++ (text ++ (blanks ++ .char ',' :: others))) ((key, tree) :: members) := by
  intro fuel rest enough _
  simp only [List.length_append, List.length_cons] at enough
  cases fuel with
  | zero => cases enough
  | succ fuel =>
      rcases spelled.readValue_mark blank (.inl rfl) (by omega : _ ≤ fuel) (others ++ rest) with
        ⟨read, comma⟩
      have readName := named (text ++ (blanks ++ .char ',' :: (others ++ rest)))
      have readLater := later fuel rest (by omega) trivial
      simp [readMembers, readName, read, comma, readLater]

theorem spells_empty_object (blank : Blank blanks) :
    Spells (.char '{' :: (blanks ++ [.char '}'])) (.object []) :=
  spells_token nofun fun fuel rest _ => by
    simp [readValue, skipBlanks, blank (.char '}' :: rest)]

theorem readValue_members {fuel : Nat} {input rest : List Glyph}
    (read : readMembers fuel input = some (members, rest)) :
    readValue (fuel + 1) (.char '{' :: input) = some (.object members, rest) := by
  rw [← readMembers_skipBlanks] at read
  rw [readValue, skipBlanks, if_neg (by decide)]
  simp only
  split
  next closed =>
    rw [closed] at read
    cases fuel with
    | zero => cases read
    | succ fuel => simp [readMembers, readKey, skipBlanks] at read
  next => rw [read, Option.map_some]

theorem spells_object (spelled : SpellsMembers text members) :
    Spells (.char '{' :: text) (.object members) := by
  intro fuel rest enough _
  rw [List.length_cons] at enough
  cases fuel with
  | zero => cases enough
  | succ fuel => exact readValue_members (spelled fuel rest (by omega) trivial)

theorem Spells.ofGlyphs? (spelled : Spells text tree) : Tree.ofGlyphs? text = some tree := by
  have read := spelled (2 * text.length + 2) [] (by omega) ended_nil
  rw [List.append_nil] at read
  simp [Tree.ofGlyphs?, read, skipBlanks]

end Formers

end ConversationBus.Json
