import ConversationBus.Text.Hex
import ConversationBus.Text.Utf8

/-!
# Addresses of a database

An address is the path of a file after `sqlite:`, with or without slashes, and parameters after a
question mark. Bytes of the path may be written as two hexadecimal digits after a percent sign.
-/

namespace ConversationBus

/-- Where a database is. -/
inductive StoreAddress where
  /-- Kept in memory, and gone at the end. -/
  | memory
  | file (path : String)
  deriving DecidableEq, Repr

/-- Why an address makes no sense. -/
inductive AddressError where
  /-- The path is not UTF-8. -/
  | notText
  /-- A parameter has a value that it cannot have. -/
  | unknownValue (name value : String)
  | unknownParameter (name : String)
  deriving DecidableEq, Repr

def AddressError.message : AddressError → String
  | .notText => "error with configuration: invalid utf-8 sequence"
  | .unknownValue name value =>
    s!"error with configuration: unknown value \"{value}\" for `{name}`"
  | .unknownParameter name =>
    s!"error with configuration: unknown query parameter `{name}` while parsing connection URL"

namespace StoreAddress

/-- Leaves out a word at the beginning of a text as often as it stands there. -/
def dropWord (word : List Char) : Nat → List Char → List Char
  | 0, text => text
  | fuel + 1, text =>
    if word.isPrefixOf text then dropWord word fuel (text.drop word.length) else text

/-- The address without its scheme. -/
def withoutScheme (text : List Char) : List Char :=
  let bare := dropWord "sqlite://".toList text.length text
  dropWord "sqlite:".toList bare.length bare

/-- Puts bytes for what stands after percent signs. -/
def unescape : List UInt8 → List UInt8
  | [] => []
  | 37 :: high :: low :: rest =>
    match Hex.value? (Char.ofNat high.toNat), Hex.value? (Char.ofNat low.toNat) with
    | some h, some l => UInt8.ofNat (h.val * 16 + l.val) :: unescape rest
    | _, _ => 37 :: unescape (high :: low :: rest)
  | byte :: rest => byte :: unescape rest

def path? (text : List Char) : Option String :=
  Utf8.decodeText? (unescape (Utf8.encode text))

/-- A parameter with its value. -/
def splitParameter (text : List Char) : String × String :=
  let plain (part : List Char) : String :=
    let spaced := part.map fun c => if c = '+' then ' ' else c
    (path? spaced).getD (String.ofList spaced)
  let name := text.takeWhile (· ≠ '=')
  (plain name, plain ((text.drop name.length).drop 1))

/-- Splits parameters at the signs between them. -/
def splitParameters : List Char → List (List Char)
  | [] => [[]]
  | '&' :: rest => [] :: splitParameters rest
  | c :: rest =>
    match splitParameters rest with
    | [] => [[c]]
    | part :: parts => (c :: part) :: parts

/-- Lets a parameter change an address. -/
def apply (address : StoreAddress) (parameter : String × String) :
    Except AddressError StoreAddress :=
  match parameter with
  | ("mode", "memory") => .ok .memory
  | ("mode", "ro") | ("mode", "rw") | ("mode", "rwc") => .ok address
  | ("cache", "private") | ("cache", "shared") => .ok address
  | ("immutable", "true") | ("immutable", "1") => .ok address
  | ("immutable", "false") | ("immutable", "0") => .ok address
  | ("vfs", _) => .ok address
  | ("mode", value) | ("cache", value) | ("immutable", value) =>
    .error (.unknownValue parameter.1 value)
  | (name, _) => .error (.unknownParameter name)

/-- The place that an address names. -/
def ofUrl (url : String) : Except AddressError StoreAddress := do
  let text := withoutScheme url.toList
  let database := text.takeWhile (· ≠ '?')
  let parameters := ((splitParameters ((text.drop database.length).drop 1)).filter
    fun part => !part.isEmpty).map splitParameter
  let address ←
    if database = ":memory:".toList then pure .memory
    else match path? database with
      | some path => pure (.file path)
      | none => .error .notText
  parameters.foldlM apply address

end StoreAddress

end ConversationBus
