/-!
# Command-line arguments

The words after the program's name are read from left to right, first those of the program and
then those of a command; some options may stand in either place. The first word that does not fit,
or that asks for help or for the version, ends the reading.
-/

namespace ConversationBus.Cli

def programName : String := "swbd"

def programVersion : String := "0.1.0"

/-- The shells that completions can be written for. -/
inductive Shell where
  | bash
  | elvish
  | fish
  | powershell
  | zsh
  deriving DecidableEq, Repr

def Shell.ofName? : String → Option Shell
  | "bash" => some .bash
  | "elvish" => some .elvish
  | "fish" => some .fish
  | "powershell" => some .powershell
  | "zsh" => some .zsh
  | _ => none

/-- What the program is to do. -/
inductive Command where
  | replay (channel : String) (file : Option String) (memory : Bool)
  | checkKey (channel scope id : String)
  | status
  | completions (shell : Shell)
  deriving DecidableEq, Repr

/-- A complete request to the program. -/
structure Invocation where
  json : Bool
  quiet : Bool
  verbosity : Nat
  otel : Bool
  dataDirectory : Option String
  command : Command
  deriving DecidableEq, Repr

/-- What the arguments ask for. -/
inductive Request where
  | run (invocation : Invocation)
  /-- Shows the version under a name. -/
  | version (name : String)
  | help
  /-- The arguments make no sense. -/
  | misuse
  deriving DecidableEq, Repr

/-! ## Reading words -/

/-- What can be given at one place. -/
structure Grammar where
  /-- The name that the version is shown under. -/
  name : String
  /-- Options that are there or not. -/
  switches : List String
  /-- Options with a value. -/
  values : List String
  /-- Names of the values without an option. -/
  positions : List String
  /-- Names of the commands that can follow. -/
  commands : List String

/-- What was given at one place. -/
structure Given where
  switches : List String
  verbosity : Nat
  values : List (String × String)
  positions : List String
  /-- The command that follows, with its words. -/
  command : Option (String × List String)
  deriving DecidableEq, Repr

def Given.nothing : Given :=
  { switches := [], verbosity := 0, values := [], positions := [], command := none }

/-- The options with a value that must not be empty, because it is a path. -/
def pathOptions : List String :=
  ["data-dir", "file"]

/-- Whether a value can be given under a name. -/
def isValid (name value : String) : Bool :=
  if name = "shell" then (Shell.ofName? value).isSome
  else !(pathOptions.contains name && value.isEmpty)

/-- Whether a word looks like an option. A single dash is a value. -/
def isOption (word : String) : Bool :=
  word.startsWith "-" && word ≠ "-"

/-- Splits a long option at its first equals sign. -/
def splitLong : List Char → List Char × Option (List Char)
  | [] => ([], none)
  | '=' :: rest => ([], some rest)
  | c :: rest =>
    let (name, value) := splitLong rest
    (c :: name, value)

/-- Why the reading ends early, or what was read. -/
abbrev Reading (α : Type) := Except Request α

/-- Takes a value of an option. -/
def Given.take (given : Given) (name value : String) : Reading Given :=
  if (given.values.lookup name).isSome || !isValid name value then .error .misuse
  else .ok { given with values := given.values ++ [(name, value)] }

/-- Reads the letters of short options. -/
def readShort (grammar : Grammar) : Given → List Char → Reading Given
  | given, [] => .ok given
  | given, 'v' :: rest => readShort grammar { given with verbosity := given.verbosity + 1 } rest
  | _, 'h' :: _ => .error .help
  | _, 'V' :: _ => .error (.version grammar.name)
  | _, _ => .error .misuse

/-- Reads a long option without a value of its own. -/
def readSwitch (grammar : Grammar) (given : Given) (name : String) (attached : Bool) :
    Reading Given :=
  if attached then .error .misuse
  else if name = "help" then .error .help
  else if name = "version" then .error (.version grammar.name)
  else if name = "verbose" then .ok { given with verbosity := given.verbosity + 1 }
  else if grammar.switches.contains name && !given.switches.contains name then
    .ok { given with switches := given.switches ++ [name] }
  else .error .misuse

/-- Reads a value without an option, or the name of the command that follows. -/
def readPlain (grammar : Grammar) (escaped : Bool) (given : Given) (word : String)
    (rest : List String) : Reading (Given ⊕ Given) :=
  if !grammar.commands.isEmpty then
    if !escaped && grammar.commands.contains word then
      .ok (.inr { given with command := some (word, rest) })
    else .error .misuse
  else match grammar.positions[given.positions.length]? with
    | none => .error .misuse
    | some name =>
      if isValid name word then .ok (.inl { given with positions := given.positions ++ [word] })
      else .error .misuse

/-- Reads the words at one place. After a double dash every word is a value. -/
def readWords (grammar : Grammar) : Bool → Given → List String → Reading Given
  | _, given, [] => .ok given
  | escaped, given, word :: rest =>
    if !escaped && word = "--" then readWords grammar true given rest
    else if !escaped && word.startsWith "--" then
      let (name, attached) := splitLong (word.toList.drop 2)
      let name := String.ofList name
      if grammar.values.contains name then
        match attached, rest with
        | some value, rest => do
          readWords grammar false (← given.take name (String.ofList value)) rest
        | none, value :: rest =>
          if isOption value then .error .misuse
          else do readWords grammar false (← given.take name value) rest
        | none, [] => .error .misuse
      else do
        readWords grammar false (← readSwitch grammar given name attached.isSome) rest
    else if !escaped && isOption word then do
      readWords grammar false (← readShort grammar given (word.toList.drop 1)) rest
    else do
      match ← readPlain grammar escaped given word rest with
      | .inl given => readWords grammar escaped given rest
      | .inr given => .ok given

/-! ## The program -/

/-- The switches that may stand anywhere. -/
def globalSwitches : List String :=
  ["json", "quiet", "otel"]

def commandNames : List String :=
  ["replay", "check-key", "status", "completions", "help"]

/-- What can be given before the command. -/
def programGrammar : Grammar :=
  { name := programName, switches := globalSwitches, values := ["data-dir"], positions := [],
    commands := commandNames }

/-- What can be given after a command. -/
def commandGrammar (command : String) : Grammar :=
  let (switches, values, positions) := match command with
    | "replay" => (["memory"], ["channel", "file"], [])
    | "check-key" => ([], [], ["channel", "scope", "id"])
    | "completions" => ([], [], ["shell"])
    | _ => ([], [], [])
  { name := programName ++ "-" ++ command
    switches := globalSwitches ++ switches
    values := "data-dir" :: values
    positions
    commands := [] }

/-- The command that was asked for, if nothing is missing. -/
def commandOf? (name : String) (given : Given) : Option Command :=
  match name, given.positions with
  | "replay", _ =>
    (given.values.lookup "channel").map fun channel =>
      .replay channel (given.values.lookup "file") (given.switches.contains "memory")
  | "check-key", [channel, scope, id] => some (.checkKey channel scope id)
  | "completions", [shell] => (Shell.ofName? shell).map .completions
  | "status", _ => some .status
  | _, _ => none

/-- Joins what was given before the command with what was given after it, which counts more. -/
def invocationOf (before after : Given) (command : Command) : Invocation where
  json := before.switches.contains "json" || after.switches.contains "json"
  quiet := before.switches.contains "quiet" || after.switches.contains "quiet"
  verbosity := if after.verbosity = 0 then before.verbosity else after.verbosity
  otel := before.switches.contains "otel" || after.switches.contains "otel"
  dataDirectory := (after.values.lookup "data-dir").or (before.values.lookup "data-dir")
  command

/-- What a request for help about commands gets. -/
def readHelp : List String → Request
  | [] => .help
  | [name] => if commandNames.contains name then .help else .misuse
  | _ => .misuse

/-- Reads the arguments up to where the reading ends. -/
def readArguments (words : List String) : Reading Request := do
  let before ← readWords programGrammar false .nothing words
  match before.command with
  | none => .ok .misuse
  | some ("help", rest) => .ok (readHelp rest)
  | some (name, rest) =>
    let after ← readWords (commandGrammar name) false .nothing rest
    match commandOf? name after with
    | none => .ok .misuse
    | some command => .ok (.run (invocationOf before after command))

/-- What the arguments ask for. -/
def parse (words : List String) : Request :=
  match readArguments words with
  | .ok request => request
  | .error request => request

end ConversationBus.Cli
