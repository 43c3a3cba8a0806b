import ConversationBus.Text.Decimal
import ConversationBus.Text.Hex
import ConversationBus.Text.Utf8

/-!
# JSON trees

What a JSON text spells, before anything is asked of its content. The grammar alone is checked:
strings may hold ill-formed UTF-8 or unpaired surrogates, numbers may have any size, and nesting
has no limit. Such strings are kept as strings without a text, so that a reader can pass over
them but cannot use them.
-/

namespace ConversationBus.Json

open Utf8

/-- A number as it is written. `fraction` is empty when there is none. -/
structure Literal where
  negative : Bool
  whole : List Char
  fraction : List Char
  exponent : Option (Bool × List Char)
  deriving DecidableEq, Repr

/-- What a JSON text spells. A string or key that stands for no text is `none`. -/
inductive Tree where
  | null
  | bool (value : Bool)
  | number (literal : Literal)
  | string (text : Option String)
  | array (items : List Tree)
  | object (members : List (Option String × Tree))
  deriving Repr, Inhabited

/-! ## Strings -/

/-- One unit of a string: a character, an escaped surrogate, or an ill-formed byte. -/
inductive Piece where
  | char (c : Char)
  | surrogate (code : Nat)
  | junk

/-- The unit that an escaped code stands for. -/
def Piece.ofCode (code : Nat) : Piece :=
  if 0xD800 ≤ code ∧ code < 0xE000 then .surrogate code else .char (Char.ofNat code)

/-- The text of a row of units. A leading surrogate counts with the trailing one right after it;
any other surrogate and any ill-formed byte leave the string without a text. -/
def Piece.text? : List Piece → Option (List Char)
  | [] => some []
  | .char c :: rest => (text? rest).map (c :: ·)
  | .surrogate high :: .surrogate low :: rest =>
    if high < 0xDC00 ∧ 0xDC00 ≤ low then
      (text? rest).map (Char.ofNat (0x10000 + (high - 0xD800) * 0x400 + (low - 0xDC00)) :: ·)
    else none
  | _ => none

/-- The character that a backslash and a letter stand for. -/
def simpleEscape? : Char → Option Char
  | '"' => some '"'
  | '\\' => some '\\'
  | '/' => some '/'
  | 'b' => some '\x08'
  | 'f' => some '\x0c'
  | 'n' => some '\n'
  | 'r' => some '\r'
  | 't' => some '\t'
  | _ => none

/-- Where the reader of a string is: between units, after a backslash, or within an escaped code
with so many digits to come and the value of those before. -/
inductive StringState where
  | between
  | escape
  | code (missing value : Nat)

/-- Reads the units of a string up to its closing quote. -/
def readPieces : StringState → List Glyph → Option (List Piece × List Glyph)
  | .between, .char c :: rest =>
    if c = '"' then some ([], rest)
    else if c = '\\' then readPieces .escape rest
    else if c.toNat < 0x20 then none
    else (readPieces .between rest).map fun (pieces, after) => (.char c :: pieces, after)
  | .between, .junk _ :: rest =>
    (readPieces .between rest).map fun (pieces, after) => (.junk :: pieces, after)
  | .escape, .char c :: rest =>
    if c = 'u' then readPieces (.code 4 0) rest
    else match simpleEscape? c with
      | some d => (readPieces .between rest).map fun (pieces, after) => (.char d :: pieces, after)
      | none => none
  | .code missing value, .char c :: rest =>
    match Hex.value? c with
    | none => none
    | some digit =>
      let value := value * 16 + digit
      if missing ≤ 1 then
        (readPieces .between rest).map fun (pieces, after) => (.ofCode value :: pieces, after)
      else readPieces (.code (missing - 1) value) rest
  | _, _ => none

/-- Reads a string after its opening quote. -/
def readString (input : List Glyph) : Option (Option String × List Glyph) :=
  (readPieces .between input).map fun (pieces, rest) =>
    ((Piece.text? pieces).map String.ofList, rest)

/-! ## Numbers -/

/-- Splits off the digits that begin the input. -/
def splitDigits : List Glyph → List Char × List Glyph
  | .char c :: rest =>
    if Text.isDigit c then
      let (row, after) := splitDigits rest
      (c :: row, after)
    else ([], .char c :: rest)
  | input => ([], input)

/-- Reads at least one digit. -/
def readDigits (input : List Glyph) : Option (List Char × List Glyph) :=
  match splitDigits input with
  | ([], _) => none
  | split => some split

/-- Reads the digits before the point. A leading zero stands alone. -/
def readWhole (input : List Glyph) : Option (List Char × List Glyph) :=
  match readDigits input with
  | some ('0' :: _ :: _, _) => none
  | other => other

/-- Reads an optional point and the digits after it. -/
def readFraction : List Glyph → Option (List Char × List Glyph)
  | .char '.' :: rest => readDigits rest
  | input => some ([], input)

/-- Reads an optional exponent. -/
def readExponent : List Glyph → Option (Option (Bool × List Char) × List Glyph)
  | .char c :: rest =>
    if c = 'e' ∨ c = 'E' then
      let (negative, rest) := match rest with
        | .char '-' :: rest => (true, rest)
        | .char '+' :: rest => (false, rest)
        | rest => (false, rest)
      (readDigits rest).map fun (row, rest) => (some (negative, row), rest)
    else some (none, .char c :: rest)
  | input => some (none, input)

def readNumber (input : List Glyph) : Option (Literal × List Glyph) := do
  let (negative, input) := match input with
    | .char '-' :: rest => (true, rest)
    | input => (false, input)
  let (whole, input) ← readWhole input
  let (fraction, input) ← readFraction input
  let (exponent, input) ← readExponent input
  some ({ negative, whole, fraction, exponent }, input)

/-! ## Values -/

/-- Leaves out the blanks that JSON allows between tokens. -/
def skipBlanks : List Glyph → List Glyph
  | .char c :: rest =>
    if c = ' ' ∨ c = '\t' ∨ c = '\n' ∨ c = '\r' then skipBlanks rest else .char c :: rest
  | input => input

def readWord : List Char → List Glyph → Option (List Glyph)
  | [], input => some input
  | c :: word, .char d :: rest => if c = d then readWord word rest else none
  | _ :: _, _ => none

/-- Reads a key and the colon after it. -/
def readKey (input : List Glyph) : Option (Option String × List Glyph) :=
  match skipBlanks input with
  | .char '"' :: rest => do
    let (key, rest) ← readString rest
    match skipBlanks rest with
    | .char ':' :: rest => some (key, rest)
    | _ => none
  | _ => none

mutual

/-- Reads one value. The first argument bounds the depth of the recursion. -/
def readValue : Nat → List Glyph → Option (Tree × List Glyph)
  | 0, _ => none
  | fuel + 1, input =>
    match skipBlanks input with
    | .char 'n' :: rest => (readWord "ull".toList rest).map fun rest => (.null, rest)
    | .char 't' :: rest => (readWord "rue".toList rest).map fun rest => (.bool true, rest)
    | .char 'f' :: rest => (readWord "alse".toList rest).map fun rest => (.bool false, rest)
    | .char '"' :: rest => (readString rest).map fun (text, rest) => (.string text, rest)
    | .char '[' :: rest =>
      match skipBlanks rest with
      | .char ']' :: rest => some (.array [], rest)
      | rest => (readItems fuel rest).map fun (items, rest) => (.array items, rest)
    | .char '{' :: rest =>
      match skipBlanks rest with
      | .char '}' :: rest => some (.object [], rest)
      | rest => (readMembers fuel rest).map fun (members, rest) => (.object members, rest)
    | rest => (readNumber rest).map fun (literal, rest) => (.number literal, rest)

/-- Reads the items of an array up to its closing bracket. -/
def readItems : Nat → List Glyph → Option (List Tree × List Glyph)
  | 0, _ => none
  | fuel + 1, input => do
    let (item, rest) ← readValue fuel input
    match skipBlanks rest with
    | .char ',' :: rest => (readItems fuel rest).map fun (items, rest) => (item :: items, rest)
    | .char ']' :: rest => some ([item], rest)
    | _ => none

/-- Reads the members of an object up to its closing brace. -/
def readMembers : Nat → List Glyph → Option (List (Option String × Tree) × List Glyph)
  | 0, _ => none
  | fuel + 1, input => do
    let (key, rest) ← readKey input
    let (value, rest) ← readValue fuel rest
    match skipBlanks rest with
    | .char ',' :: rest =>
      (readMembers fuel rest).map fun (members, rest) => ((key, value) :: members, rest)
    | .char '}' :: rest => some ([(key, value)], rest)
    | _ => none

end

/-- Reads a text that is one value with blanks around it. Every second call of the readers takes
something off the input, so the bound is never met. -/
def Tree.ofGlyphs? (input : List Glyph) : Option Tree := do
  let (tree, rest) ← readValue (2 * input.length + 2) input
  if (skipBlanks rest).isEmpty then some tree else none

/-- Reads the bytes of a JSON text. -/
def Tree.parse? (bytes : List UInt8) : Option Tree :=
  Tree.ofGlyphs? (decode bytes)

end ConversationBus.Json
