import ConversationBus.Json.Binary64
import ConversationBus.Json.Tree

/-!
# JSON values

Values with a definite content, as they are written. A tree becomes a value when all of its
strings have a text, its numbers are in range and its nesting stays within a bound; the members
of its objects are then ordered by key, and the last member of a key counts.
-/

namespace ConversationBus.Json

/-- A number of a value: an integer of at most 64 bits, or a double-precision number. -/
inductive Number where
  | integer (value : Int)
  | float (value : Binary64)
  deriving DecidableEq, Repr

/-- A value. Members are written in the order they are held in. -/
inductive Value where
  | null
  | bool (value : Bool)
  | number (value : Number)
  | string (text : String)
  | array (items : List Value)
  | object (members : List (String × Value))
  deriving Repr, Inhabited

def Value.nat (number : Nat) : Value :=
  .number (.integer number)

/-! ## Writing -/

/-- The letter that escapes a control character, for the few that have one. -/
def escapeLetter? : Char → Option Char
  | '\x08' => some 'b'
  | '\x0c' => some 'f'
  | '\n' => some 'n'
  | '\r' => some 'r'
  | '\t' => some 't'
  | _ => none

/-- A character as it stands in a written string. Only the quote, the backslash and the
characters below U+0020 are escaped. -/
def escapeChar (c : Char) : List Char :=
  if c = '"' then ['\\', '"']
  else if c = '\\' then ['\\', '\\']
  else if c.toNat < 0x20 then
    match escapeLetter? c with
    | some letter => ['\\', letter]
    | none => ['\\', 'u', '0', '0', Nat.digitChar (c.toNat / 16), Nat.digitChar (c.toNat % 16)]
  else [c]

def quote (text : String) : List Char :=
  '"' :: text.toList.flatMap escapeChar ++ ['"']

def Number.render : Number → List Char
  | .integer value => Decimal.signed value
  | .float value => value.text

mutual

/-- The compact form of a value. -/
def Value.render : Value → List Char
  | .null => "null".toList
  | .bool true => "true".toList
  | .bool false => "false".toList
  | .number value => value.render
  | .string text => quote text
  | .array items => '[' :: renderItems items ++ [']']
  | .object members => '{' :: renderMembers members ++ ['}']

/-- The items of an array with commas between them. -/
def renderItems : List Value → List Char
  | [] => []
  | [item] => item.render
  | item :: rest => item.render ++ ',' :: renderItems rest

/-- The members of an object with commas between them. -/
def renderMembers : List (String × Value) → List Char
  | [] => []
  | [(key, value)] => quote key ++ ':' :: value.render
  | (key, value) :: rest => quote key ++ ':' :: value.render ++ ',' :: renderMembers rest

end

/-- The compact form as a string. -/
def Value.text (value : Value) : String :=
  String.ofList value.render

/-- The compact form as bytes. -/
def Value.bytes (value : Value) : List UInt8 :=
  Utf8.encode value.render

mutual

/-- The form with one item or member a line, indented by two blanks a level. Empty arrays and
objects stay on one line. -/
def Value.renderLines (level : Nat) : Value → List Char
  | .array [] => "[]".toList
  | .array items => '[' :: linesOfItems (level + 1) items ++ newLine level ++ [']']
  | .object [] => "\x7b\x7d".toList
  | .object members => '{' :: linesOfMembers (level + 1) members ++ newLine level ++ ['}']
  | .null => "null".toList
  | .bool true => "true".toList
  | .bool false => "false".toList
  | .number value => value.render
  | .string text => quote text

/-- The items of an array, each on its line. -/
def linesOfItems (level : Nat) : List Value → List Char
  | [] => []
  | [item] => newLine level ++ item.renderLines level
  | item :: rest => newLine level ++ item.renderLines level ++ ',' :: linesOfItems level rest

/-- The members of an object, each on its line. -/
def linesOfMembers (level : Nat) : List (String × Value) → List Char
  | [] => []
  | [(key, value)] => newLine level ++ quote key ++ ": ".toList ++ value.renderLines level
  | (key, value) :: rest =>
    newLine level ++ quote key ++ ": ".toList ++ value.renderLines level ++
      ',' :: linesOfMembers level rest

/-- A line break and the indentation after it. -/
def newLine (level : Nat) : List Char :=
  '\n' :: List.replicate (2 * level) ' '

end

/-- The indented form as a string. -/
def Value.indented (value : Value) : String :=
  String.ofList (value.renderLines 0)

/-! ## From trees -/

/-- The greatest magnitudes of integers that are kept exactly, with and without a sign. -/
def greatestUnsigned : Nat := 0xFFFFFFFFFFFFFFFF

@[inherit_doc greatestUnsigned]
def greatestNegated : Nat := 0x8000000000000000

/-- The exponent of a written number, zero when there is none. -/
def Literal.scale (literal : Literal) : Int :=
  match literal.exponent with
  | none => 0
  | some (true, row) => -(Decimal.value row : Int)
  | some (false, row) => Decimal.value row

/-- The integer that a number without a fraction and an exponent stands for. The spelling `-0` is
not one of an integer. -/
def Literal.integer? (literal : Literal) : Option Int :=
  if literal.fraction ≠ [] ∨ literal.exponent ≠ none then none
  else
    let magnitude := Decimal.value literal.whole
    if literal.negative then
      if magnitude = 0 then none else some (-(magnitude : Int))
    else some magnitude

/-- The number that a literal stands for: an integer where that is exact, otherwise a
double-precision number unless it is out of range. -/
def Number.ofLiteral? (literal : Literal) : Option Number :=
  let float := (Binary64.ofDecimal? literal.negative
    (Decimal.value (literal.whole ++ literal.fraction))
    (literal.scale - literal.fraction.length)).map Number.float
  match literal.integer? with
  | some value =>
    if -(greatestNegated : Int) ≤ value ∧ value ≤ greatestUnsigned then some (.integer value)
    else float
  | none => float

/-- Puts a member into a list ordered by key, in place of one with the same key. -/
def insertMember (key : String) (value : Value) : List (String × Value) → List (String × Value)
  | [] => [(key, value)]
  | (other, held) :: rest =>
    if key < other then (key, value) :: (other, held) :: rest
    else if key = other then (key, value) :: rest
    else (other, held) :: insertMember key value rest

/-- Orders members by key. The last one of a key stays. -/
def orderMembers (members : List (String × Value)) : List (String × Value) :=
  members.foldl (fun ordered (key, value) => insertMember key value ordered) []

mutual

/-- The value of a tree with at most `depth` levels of arrays and objects. -/
def Tree.value? (depth : Nat) : Tree → Option Value
  | .null => some .null
  | .bool value => some (.bool value)
  | .number literal => (Number.ofLiteral? literal).map .number
  | .string text => text.map .string
  | .array items =>
    if depth = 0 then none else (valuesOfItems (depth - 1) items).map .array
  | .object members =>
    if depth = 0 then none
    else (valuesOfMembers (depth - 1) members).map fun values => .object (orderMembers values)

def valuesOfItems (depth : Nat) : List Tree → Option (List Value)
  | [] => some []
  | item :: rest => do
    let value ← item.value? depth
    let values ← valuesOfItems depth rest
    some (value :: values)

/-- The values of the members of an object, in the order of the tree. -/
def valuesOfMembers (depth : Nat) : List (Option String × Tree) → Option (List (String × Value))
  | [] => some []
  | (key, tree) :: rest => do
    let key ← key
    let value ← tree.value? depth
    let values ← valuesOfMembers depth rest
    some ((key, value) :: values)

end

/-- The deepest nesting that a value may have, counted from the outermost value of its text. -/
def greatestDepth : Nat := 127

end ConversationBus.Json
