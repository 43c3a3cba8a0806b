import ConversationBus.Store.Table

/-!
# A file system in memory

Directories and files under one root, with a working directory that relative paths start from.
Every step of a path but the last has to lead to a directory.
-/

namespace ConversationBus.Cli

/-- Why a call of a file system fails. -/
inductive FileError where
  | notFound
  | exists
  | notDirectory
  | isDirectory
  | other (text : String)
  deriving DecidableEq, Repr

def FileError.message : FileError → String
  | .notFound => "No such file or directory (os error 2)"
  | .exists => "File exists (os error 17)"
  | .notDirectory => "Not a directory (os error 20)"
  | .isDirectory => "Is a directory (os error 21)"
  | .other text => text

/-- What a path leads to. -/
inductive Entry where
  | directory
  | file (content : List UInt8)
  deriving DecidableEq, Repr

/-- The names of the steps from the root, the last one first. -/
abbrev Place := List String

/-- A file system. The root is a directory that is always there. -/
structure Disk where
  entries : Table Place Entry
  working : Place
  deriving DecidableEq, Repr

namespace Disk

/-- What is at a place. -/
def entry? (disk : Disk) (place : Place) : Option Entry :=
  match place with
  | [] => some .directory
  | _ :: _ => disk.entries.find? place

/-- The steps that are written in a text, without those that stay where they are. -/
def stepsOf (text : List Char) : List String :=
  ((text.splitOn '/').map String.ofList).filter fun step => step ≠ "" ∧ step ≠ "."

def steps (path : String) : List String :=
  stepsOf path.toList

/-- Where a path starts from. -/
def origin (disk : Disk) (path : String) : Place :=
  if path.startsWith "/" then [] else disk.working

/-- Goes one step from a directory. -/
def descend (place : Place) (step : String) : Place :=
  if step = ".." then place.tail else step :: place

/-- Follows the steps to a place, all but the last of which have to lead to directories. -/
def follow (disk : Disk) : Place → List String → Except FileError Place
  | place, [] => .ok place
  | place, [step] => .ok (descend place step)
  | place, step :: rest =>
    let next := descend place step
    match disk.entry? next with
    | some .directory => disk.follow next rest
    | some (.file _) => .error .notDirectory
    | none => .error .notFound

/-- The place that a path leads to. -/
def locate (disk : Disk) (path : String) : Except FileError Place :=
  if path.isEmpty then .error .notFound
  else disk.follow (disk.origin path) (steps path)

def read (disk : Disk) (path : String) : Except FileError (List UInt8) := do
  let place ← disk.locate path
  match disk.entry? place with
  | some (.file content) => if path.endsWith "/" then .error .notDirectory else .ok content
  | some .directory => .error .isDirectory
  | none => .error .notFound

/-- Puts content into a file, which is made if it is not there. -/
def write (disk : Disk) (path : String) (content : List UInt8) : Except FileError Disk := do
  let place ← disk.locate path
  match disk.entry? place with
  | some .directory => .error .isDirectory
  | _ => .ok { disk with entries := disk.entries.put place (.file content) }

/-- Makes the directories on the way to a place, and the one at its end. -/
def makeSteps (disk : Disk) : Place → List String → Except FileError Disk
  | _, [] => .ok disk
  | place, step :: rest =>
    let next := descend place step
    match disk.entry? next with
    | some .directory => disk.makeSteps next rest
    | some (.file _) => if rest.isEmpty then .error .exists else .error .notDirectory
    | none => { disk with entries := disk.entries.put next .directory }.makeSteps next rest

/-- Makes a directory, with those above it that are not there. -/
def makeDirectory (disk : Disk) (path : String) : Except FileError Disk :=
  disk.makeSteps (disk.origin path) (steps path)

end Disk

end ConversationBus.Cli
