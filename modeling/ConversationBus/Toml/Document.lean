import ConversationBus.Toml.Scalar

/-!
# TOML documents

Keys, values, headers and lines. A document is read to its end or not at all.
-/

namespace ConversationBus.Toml

/-- Keys with this many parts are refused, and so are values nested this deeply. -/
def greatestDepth : Nat := 80

/-! ## Keys -/

/-- A character of a key without quotes. -/
def isKeyChar (c : Char) : Bool :=
  c.isAlphanum || c = '_' || c = '-'

/-- Reads one part of a key. Quotes keep to one line. -/
def readKeyPart : List Char → Option (String × List Char)
  | [] => none
  | c :: rest =>
    if c = '"' ∨ c = '\'' then
      (readLineString c (rest.length + 1) rest).map fun (content, rest) =>
        (String.ofList content, rest)
    else
      match (c :: rest).takeWhile isKeyChar with
      | [] => none
      | part => some (String.ofList part, (c :: rest).dropWhile isKeyChar)

/-- Reads the parts of a key with dots between them, and the blanks around it. -/
def readKeyParts : Nat → List Char → Option (List String × List Char)
  | 0, _ => none
  | fuel + 1, text => do
    let (part, rest) ← readKeyPart (skipSpaces text)
    match skipSpaces rest with
    | '.' :: rest => (readKeyParts fuel rest).map fun (parts, rest) => (part :: parts, rest)
    | rest => some ([part], rest)

def readKey (text : List Char) : Option (List String × List Char) := do
  let (parts, rest) ← readKeyParts (text.length + 1) text
  if parts.length < greatestDepth then some (parts, rest) else none

/-! ## Values -/

/-- Reads a comment, up to the end of its line. -/
def skipComment : List Char → List Char
  | '#' :: rest => rest.dropWhile isPrintable
  | text => text

/-- Leaves out blanks, line breaks and comments, as they may stand between the items of an
array. -/
def skipFiller : Nat → List Char → List Char
  | 0, text => text
  | fuel + 1, text =>
    let rest := skipComment (skipSpaces text)
    match readNewline rest with
    | some rest => skipFiller fuel rest
    | none => rest

mutual

/-- Reads a value at some depth. The first argument bounds the recursion. -/
def readValue : Nat → Nat → List Char → Option (Node × List Char)
  | 0, _, _ => none
  | _ + 1, _, [] => none
  | fuel + 1, depth, c :: rest =>
    if c = '"' ∨ c = '\'' then
      (readString c rest).map fun (text, rest) => (.string text, rest)
    else if c = '[' then
      if depth + 1 < greatestDepth then
        (readItems fuel (depth + 1) rest).map fun (items, rest) => (.array items, rest)
      else none
    else if c = '\x7b' then
      if depth + 1 < greatestDepth then
        match skipSpaces rest with
        | '\x7d' :: rest => some (.table .inline [], rest)
        | rest => (readPairs fuel (depth + 1) [] rest).map fun (members, rest) =>
          (.table .inline members, rest)
      else none
    else if c = 't' then
      (readWord "rue".toList rest).map fun rest => (.boolean true, rest)
    else if c = 'f' then
      (readWord "alse".toList rest).map fun rest => (.boolean false, rest)
    else (readTime (c :: rest)).or (readNumber (c :: rest))

/-- Reads the items of an array up to its closing bracket. A comma may follow the last one. -/
def readItems : Nat → Nat → List Char → Option (List Node × List Char)
  | 0, _, _ => none
  | fuel + 1, depth, text =>
    match skipFiller text.length text with
    | ']' :: rest => some ([], rest)
    | text => do
      let (item, rest) ← readValue fuel depth text
      match skipFiller rest.length rest with
      | ',' :: rest =>
        (readItems fuel depth rest).map fun (items, rest) => (item :: items, rest)
      | ']' :: rest => some ([item], rest)
      | _ => none

/-- Reads the members of an inline table up to its closing brace. They stand on one line. -/
def readPairs : Nat → Nat → Members → List Char → Option (Members × List Char)
  | 0, _, _, _ => none
  | fuel + 1, depth, members, text => do
    let (path, rest) ← readKey text
    let rest ← readWord ['='] rest
    let (value, rest) ← readValue fuel depth (skipSpaces rest)
    let members ← Members.define value false .inline path members
    match skipSpaces rest with
    | ',' :: rest => readPairs fuel depth members rest
    | '\x7d' :: rest => some (members, rest)
    | _ => none

end

/-! ## Lines -/

/-- What is known of a document: its members, and the path of the last header. -/
structure Document where
  members : Members
  current : List String

namespace Document

/-- The document before its first line. -/
def empty : Document :=
  ⟨[], []⟩

def readPair (document : Document) (text : List Char) : Option (Document × List Char) := do
  let (path, rest) ← readKey text
  let rest ← readWord ['='] rest
  let rest := skipSpaces rest
  let (value, rest) ← readValue (2 * rest.length + 2) 0 rest
  let members ← Members.within (Members.define value false .header path) document.current
    document.members
  some ({ document with members }, rest)

/-- Reads a header after its first bracket. -/
def readHeader (document : Document) (text : List Char) : Option (Document × List Char) := do
  match text with
  | '[' :: text =>
    let (path, rest) ← readKey text
    let rest ← readWord [']', ']'] rest
    let members ← Members.openRepeated path document.members
    some (⟨members, path⟩, rest)
  | text =>
    let (path, rest) ← readKey text
    let rest ← readWord [']'] rest
    let members ← Members.openTable path document.members
    some (⟨members, path⟩, rest)

/-- Reads a line without what ends it. -/
def readLine (document : Document) (text : List Char) : Option (Document × List Char) :=
  match skipSpaces text with
  | [] => some (document, [])
  | '[' :: rest => document.readHeader rest
  | c :: rest =>
    if c = '#' ∨ c = '\n' ∨ c = '\r' then some (document, c :: rest)
    else document.readPair (c :: rest)

/-- Reads lines up to the end of the text. -/
def readLines : Nat → Document → List Char → Option Document
  | 0, _, _ => none
  | fuel + 1, document, text => do
    let (document, rest) ← document.readLine text
    match skipComment (skipSpaces rest) with
    | [] => some document
    | rest => readLines fuel document (← readNewline rest)

end Document

/-- The members of a document. A mark of the byte order may stand before it. -/
def parse? (text : String) : Option Members :=
  let text := match text.toList with
    | '\ufeff' :: rest => rest
    | text => text
  (Document.empty.readLines (text.length + 1) text).map Document.members

end ConversationBus.Toml
