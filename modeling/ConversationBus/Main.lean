import ConversationBus.Cli.Program
import ConversationBus.Time.Unix
import Std.Time.DateTime.Timestamp

/-!
# The command line

The program on the real machine: its arguments, its environment, its files and its clock.
-/

namespace ConversationBus.Cli

/-- The cause of a failed call of the real file system. -/
def fileErrorOf : IO.Error → FileError
  | .noFileOrDirectory .. => .notFound
  | .alreadyExists .. => .exists
  | .inappropriateType .. => .notDirectory
  | error => .other (toString error)

/-- Makes a call whose failure is part of its answer. -/
def attempt {α : Type} (call : IO α) : IO (Except FileError α) := do
  match ← call.toBaseIO with
  | .ok result => return .ok result
  | .error error => return .error (fileErrorOf error)

def answerCall : (call : Call) → IO call.Answer
  | .makeDirectory path => attempt (IO.FS.createDirAll path)
  | .readFile path => attempt do return (← IO.FS.readBinFile path).toList
  | .writeFile path content => attempt (IO.FS.writeBinFile path content.toByteArray)
  | .readInput => do return (← (← IO.getStdin).readBinToEnd).toList

def readClock : IO Instant := do
  let nanoseconds := (← Std.Time.Timestamp.now).toNanosecondsSinceUnixEpoch.val
  return (Instant.ofUnix? (nanoseconds / nanosPerSecond)
    (nanoseconds % nanosPerSecond).toNat).getD default

def Session.perform : Session → IO Output
  | .done output => return output
  | .ask call next => do (next (← answerCall call)).perform

end ConversationBus.Cli

open ConversationBus ConversationBus.Cli in
def main (arguments : List String) : IO UInt32 := do
  let environment : Environment := {
    dataDirectory := ← IO.getEnv "SWITCHBOARD_DATA_DIR"
    home := ← IO.getEnv "HOME"
    accountHome := "." }
  let output ← (program { environment, now := ← readClock } arguments).perform
  IO.print output.stdout
  IO.eprint output.stderr
  return output.code.toUInt32
