import ConversationBus.Cli.Disk

/-!
# Sessions

What a command asks of the machine that it runs on, one thing after the other. A session can be
run on a file system in memory as well as on a real one.
-/

namespace ConversationBus.Cli

/-- What a program leaves behind: its exit code and the texts it wrote. -/
structure Output where
  code : Nat
  stdout : String
  stderr : String
  deriving DecidableEq, Repr

/-- The output of a program that succeeds. -/
def Output.success (stdout : String) : Output :=
  { code := 0, stdout, stderr := "" }

/-- The output of a program that fails for a reason, which may have causes. -/
def Output.failure (message : String) (causes : List String) : Output :=
  let block := match causes with
    | [] => ""
    | _ => "\n\nCaused by:" ++ String.join (causes.map ("\n    " ++ ·))
  { code := 1, stdout := "", stderr := "Error: " ++ message ++ block ++ "\n" }

/-- What a session asks for. -/
inductive Call where
  /-- Makes a directory, with those above it. -/
  | makeDirectory (path : String)
  | readFile (path : String)
  | writeFile (path : String) (content : List UInt8)
  /-- Reads the standard input to its end. -/
  | readInput
  deriving DecidableEq, Repr

@[reducible] def Call.Answer : Call → Type
  | .makeDirectory _ => Except FileError Unit
  | .readFile _ => Except FileError (List UInt8)
  | .writeFile .. => Except FileError Unit
  | .readInput => List UInt8

/-- A tree of calls that ends in outputs. -/
inductive Session where
  | done (output : Output)
  | ask (call : Call) (next : call.Answer → Session)

namespace Session

/-- Changes a file system, if that is possible. -/
def change (disk : Disk) : Except FileError Disk → Except FileError Unit × Disk
  | .ok changed => (.ok (), changed)
  | .error error => (.error error, disk)

/-- Answers a call from a file system in memory. -/
def answer (input : List UInt8) (disk : Disk) : (call : Call) → call.Answer × Disk
  | .makeDirectory path => change disk (disk.makeDirectory path)
  | .readFile path => (disk.read path, disk)
  | .writeFile path content => change disk (disk.write path content)
  | .readInput => (input, disk)

/-- Runs a session on a file system in memory. -/
def runOn (input : List UInt8) : Session → Disk → Output × Disk
  | .done output, disk => (output, disk)
  | .ask call next, disk =>
    let (answer, disk) := answer input disk call
    (next answer).runOn input disk

end Session

end ConversationBus.Cli
