import ConversationBus.Json.Value

/-!
# Reading records from JSON

A record is read from an object, in any order and with unknown members passed over, or from an
array that gives its fields in order. A field is required, optional (absent or `null` for no
value) or has a default when it is absent.
-/

namespace ConversationBus.Json

/-- The trees given for the fields of a record, by name. -/
abbrev Fields := String → Option Tree

def countKey (key : String) (members : List (Option String × Tree)) : Nat :=
  members.countP fun member => member.1 = some key

/-- The fields of a record with the given names. Every key must have a text, no name may be given
twice, and an array may not have more items than there are names. -/
def Tree.fields? (names : List String) : Tree → Option Fields
  | .object members =>
    if members.any (·.1.isNone) || names.any (fun name => 1 < countKey name members) then none
    else some fun name => members.lookup (some name)
  | .array items =>
    if names.length < items.length then none else some fun name => (names.zip items).lookup name
  | _ => none

def Fields.required {α : Type} (fields : Fields) (name : String) (read? : Tree → Option α) :
    Option α :=
  (fields name).bind read?

/-- A field that may be absent or `null`. -/
def Fields.optional {α : Type} (fields : Fields) (name : String) (read? : Tree → Option α) :
    Option (Option α) :=
  match fields name with
  | none | some .null => some none
  | some tree => (read? tree).map some

/-- A field with a default for when it is absent; `null` is not its absence. -/
def Fields.withDefault {α : Type} (fields : Fields) (name : String) (default : α)
    (read? : Tree → Option α) : Option α :=
  match fields name with
  | none => some default
  | some tree => read? tree

def Tree.text? : Tree → Option String
  | .string text => text
  | _ => none

def Tree.bool? : Tree → Option Bool
  | .bool value => some value
  | _ => none

/-- An integer from zero up to, but not including, `limit`. -/
def Tree.natBelow? (limit : Nat) : Tree → Option Nat
  | .number literal =>
    match literal.integer? with
    | some (.ofNat value) => if value < limit then some value else none
    | _ => none
  | _ => none

/-- A list of things, each read from one item. -/
def Tree.list? {α : Type} (read? : Tree → Option α) : Tree → Option (List α)
  | .array items => items.mapM read?
  | _ => none

/-- A row of bytes, written as an array of numbers. -/
def Tree.bytes? : Tree → Option (List UInt8) :=
  Tree.list? fun item => (item.natBelow? 256).map UInt8.ofNat

/-- The name of a case without content: a string, or an object whose one member is `null`. -/
def Tree.caseName? : Tree → Option String
  | .string text => text
  | .object [(key, .null)] => key
  | _ => none

/-- The member that writes a field. -/
def member (name : String) (value : Value) : List (String × Value) :=
  [(name, value)]

/-- The member that writes an optional field; no value leaves it out. -/
def optionalMember {α : Type} (name : String) (write : α → Value) : Option α →
    List (String × Value)
  | none => []
  | some value => [(name, write value)]

/-- A row of bytes as an array of numbers. -/
def Value.ofBytes (bytes : List UInt8) : Value :=
  .array (bytes.map fun byte => .nat byte.toNat)

end ConversationBus.Json
