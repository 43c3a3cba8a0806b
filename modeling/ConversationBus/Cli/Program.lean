import ConversationBus.Cli.Arguments
import ConversationBus.Cli.Session
import ConversationBus.Config.Address
import ConversationBus.Config.File
import ConversationBus.Config.Location
import ConversationBus.Message.ConversationKey
import ConversationBus.Replay.Basic
import ConversationBus.Store.Memory
import ConversationBus.Store.Snapshot

/-!
# The program

The commands: keys are checked, the state of a bus is shown, and recorded events are replayed. The
data directory is made if it is not there, and the settings are read from it, before a command
that needs them begins.
-/

namespace ConversationBus.Cli

/-- What the program knows about the machine and the moment. -/
structure Context where
  environment : Environment
  now : Instant

/-- Lines of text, each with its end. -/
def lines (texts : List String) : String :=
  String.join (texts.map (· ++ "\n"))

/-- A JSON value as it is shown. -/
def shown (value : Json.Value) : Output :=
  .success (lines [value.indented])

/-! ## Keys -/

/-- Builds and shows a conversation key. -/
def checkKey (json : Bool) (channel scope id : String) : Output :=
  match Conversation.keyOfNames channel scope id with
  | .error error => .failure error.message []
  | .ok key =>
    if json then
      shown <| .object [("channel", .string channel), ("conversation_key", .string key),
        ("id", .string id), ("scope", .string scope)]
    else .success (lines [key])

/-! ## The store -/

/-- The settings that a command works with. -/
structure Setting where
  directory : String
  config : BusConfig
  deriving DecidableEq, Repr

def Setting.url (setting : Setting) : String :=
  setting.config.resolvedUrl setting.directory

/-- The output when a database cannot be used. -/
def databaseFailure (reason : String) : Output :=
  .failure ("error returned from database: " ++ reason) [reason]

/-- Opens the database at a path, which is made if it is not there. -/
def openFile (path : String) (next : Database → Session) : Session :=
  .ask (.readFile path) fun
    | .ok content =>
      match Database.ofFile? content with
      | some database => next database
      | none => .done (databaseFailure "(code: 26) file is not a database")
    | .error _ =>
      .ask (.writeFile path []) fun
        | .ok () => next .empty
        | .error _ => .done (databaseFailure "(code: 14) unable to open database file")

/-- Opens the store of a setting. -/
def openStore (setting : Setting) (next : StoreAddress → Database → Session) : Session :=
  match StoreAddress.ofUrl setting.url with
  | .error error => .done (.failure error.message [])
  | .ok .memory => next .memory .empty
  | .ok (.file path) => openFile path (next (.file path))

/-- Keeps a database at its address, and goes on with an output. -/
def keep (address : StoreAddress) (database : Database) (output : Output) : Session :=
  match address with
  | .memory => .done output
  | .file path => .ask (.writeFile path database.toFile) fun _ => .done output

/-! ## Status -/

def statusJson (setting : Setting) (counts : List (OutboxStatus × Nat)) : Json.Value :=
  .object [
    ("data_dir", .string setting.directory),
    ("database_url", .string setting.url),
    ("error_buffer", .nat setting.config.errorBuffer),
    ("ingress_buffer", .nat setting.config.ingressCapacity),
    ("max_in_flight", .nat setting.config.maxInFlight),
    ("outbox", .object (counts.map fun (status, count) => (status.name, .nat count))),
    ("version", .string programVersion)]

def statusText (setting : Setting) (counts : List (OutboxStatus × Nat)) : String :=
  lines <|
    ["",
      s!"  ⚡ Switchboard v{programVersion}",
      "",
      "  ── Bus ──",
      s!"  Max in flight:  {setting.config.maxInFlight}",
      s!"  Error buffer:   {setting.config.errorBuffer}",
      s!"  Ingress buffer: {setting.config.ingressCapacity}",
      "",
      "  ── Store ──",
      s!"  Data dir: {setting.directory}",
      s!"  Database: {setting.url}"] ++
    (if counts.isEmpty then ["  Outbox:   empty"] else []) ++
    counts.map (fun (status, count) => s!"  Outbox {status.name}: {count}") ++
    [""]

/-- Shows the settings and the counts of the outbox. -/
def status (json : Bool) (setting : Setting) : Session :=
  openStore setting fun _ database =>
    .done <| match database.countByStatus with
      | .error error => .failure error.message []
      | .ok counts =>
        if json then shown (statusJson setting counts) else .success (statusText setting counts)

/-! ## Replay -/

/-- A line about a count, left out when it is zero. -/
def countLine (label : String) (count : Nat) : List String :=
  if count = 0 then [] else ["  " ++ label ++ toString count]

def summaryText (channel : Channel) (summary : Replay.Summary) : String :=
  lines <|
    ["",
      s!"  ▶ Replayed {summary.lines} line(s) on {channel.name}",
      "",
      s!"  Published:  {summary.published}",
      s!"  Duplicates: {summary.duplicates}",
      s!"  Delivered:  {summary.delivered}"] ++
    countLine "Rejected:   " summary.rejected ++
    countLine "Malformed:  " summary.malformed ++
    countLine "Failed:     " summary.failed ++
    (if summary.cancelled then ["  Interrupted before end of input"] else []) ++
    [""]

def replayOutput (json : Bool) (channel : Channel) :
    Except Replay.ReplayError Replay.Summary → Output
  | .ok summary =>
    if json then shown summary.toJson else .success (summaryText channel summary)
  | .error .unreadable => .failure "invalid utf-8" []
  | .error (.bus error) | .error (.start (.refused error)) => .failure error.message []
  | .error (.start .tooManyPermits) =>
    { code := 101, stdout := ""
      stderr := s!"a semaphore may not have more than MAX_PERMITS permits ({greatestPermits})\n" }

/-- Replays an input on a store. -/
def replayOn {σ : Type} [RecordStore σ] (context : Context) (setting : Setting)
    (channel : Channel) (input : List UInt8) (store : σ) :
    Except Replay.ReplayError Replay.Summary × σ :=
  let (result, backing) := Replay.run setting.config channel (Lines.texts input) (.sound store)
    false (fun _ => false) context.now
  (result, backing.store)

/-- Replays an input on the store that was asked for. An input that cannot be read is one without
lines whose reading fails. -/
def replayInput (context : Context) (json memory : Bool) (setting : Setting) (channel : Channel)
    (input : Except FileError (List UInt8)) : Session :=
  let content := input.toOption.getD []
  let output (result : Except Replay.ReplayError Replay.Summary) : Output :=
    match input with
    | .ok _ => replayOutput json channel result
    | .error error => .failure error.message []
  if memory then .done (output (replayOn context setting channel content MemoryStore.empty).1)
  else openStore setting fun address database =>
    let (result, database) := replayOn context setting channel content database
    keep address database (output result)

/-- Replays a file, or the standard input. -/
def replay (context : Context) (json memory : Bool) (setting : Setting) (channel : String)
    (file : Option String) : Session :=
  match Channel.parse channel with
  | .error error => .done (.failure error.message [])
  | .ok channel =>
    match file with
    | none => .ask .readInput fun content =>
      replayInput context json memory setting channel (.ok content)
    | some path => .ask (.readFile path) fun
      | .error .isDirectory =>
        replayInput context json memory setting channel (.error .isDirectory)
      | .error error => .done (.failure ("failed to open " ++ path) [error.message])
      | .ok content => replayInput context json memory setting channel (.ok content)

/-! ## Completions and help -/

/-- The words that can follow the program's name. -/
def completionWords : String :=
  " ".intercalate (commandNames ++ globalSwitches.map ("--" ++ ·) ++ ["--data-dir", "--verbose"])

/-- A script that completes the program's words in a shell. -/
def completionScript : Shell → String
  | .bash => "complete -W '" ++ completionWords ++ "' " ++ programName
  | .elvish =>
    "set edit:completion:arg-completer[" ++ programName ++ "] = \x7b|@words| put " ++
      completionWords ++ " \x7d"
  | .fish => "complete -c " ++ programName ++ " -f -a '" ++ completionWords ++ "'"
  | .powershell =>
    "Register-ArgumentCompleter -Native -CommandName " ++ programName ++
      " -ScriptBlock \x7b '" ++ completionWords ++ "'.Split(' ') \x7d"
  | .zsh => "compctl -k '(" ++ completionWords ++ ")' " ++ programName

def helpText : String :=
  lines [
    "Operate a Switchboard message bus.",
    "",
    "Usage: swbd [OPTIONS] <COMMAND>",
    "",
    "Commands:",
    "  replay       Publish recorded inbound events (JSON lines) through the dedup flow",
    "  check-key    Build and print a conversation key",
    "  status       Show effective configuration and store counts",
    "  completions  Generate shell completions",
    "  help         Print this message or the help of the given subcommand(s)",
    "",
    "Options:",
    "      --json                 Output machine-readable JSON instead of styled text",
    "      --quiet                Suppress all output except errors",
    "  -v, --verbose...           Detailed output (-v for verbose, -vv for debug/trace)",
    "      --otel                 Export spans to stdout via OpenTelemetry",
    "      --data-dir <DATA_DIR>  Data directory holding switchboard.toml and the store",
    "  -h, --help                 Print help",
    "  -V, --version              Print version"]

/-! ## Running -/

/-- Makes the data directory and reads the settings in it. -/
def withSetting (directory : String) (next : Setting → Session) : Session :=
  .ask (.makeDirectory directory) fun
    | .error error => .done (.failure error.message [])
    | .ok () =>
      .ask (.readFile (joinPath directory configFileName)) fun content =>
        next { directory, config := BusConfig.ofFile content.toOption }

def carryOut (context : Context) (invocation : Invocation) : Session :=
  let directory := invocation.dataDirectory.getD context.environment.directory
  match invocation.command with
  | .completions shell => .done (.success (lines [completionScript shell]))
  | .checkKey channel scope id => .done (checkKey invocation.json channel scope id)
  | .status => withSetting directory (status invocation.json)
  | .replay channel file memory =>
    withSetting directory fun setting =>
      replay context invocation.json memory setting channel file

def program (context : Context) (arguments : List String) : Session :=
  match parse arguments with
  | .misuse => .done { code := 2, stdout := "", stderr := "error: invalid arguments\n\n" ++ helpText }
  | .help => .done (.success helpText)
  | .version name => .done (.success (lines [s!"{name} {programVersion}"]))
  | .run invocation => carryOut context invocation

end ConversationBus.Cli
