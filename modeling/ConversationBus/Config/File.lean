import ConversationBus.Config.Basic
import ConversationBus.Text.Utf8
import ConversationBus.Toml.Document

/-!
# The configuration file

Settings are read from a TOML file in the data directory. A file that is missing, cannot be read
or makes no sense stands for the standard settings, and a zero where one is not usable stands for
the standard size; unknown keys are passed over.
-/

namespace ConversationBus

def configFileName : String :=
  "switchboard.toml"

namespace BusConfig

/-- A setting that is a number, with its standard value. -/
def sizeOf? (members : Toml.Members) (key : String) (standard : Nat) : Option Nat :=
  match members.lookup key with
  | none => some standard
  | some (.integer value) => if 0 ≤ value then some value.toNat else none
  | some _ => none

/-- A setting that is a text and may be missing. -/
def textOf? (members : Toml.Members) (key : String) : Option (Option String) :=
  match members.lookup key with
  | none => some none
  | some (.string text) => some (some text)
  | some _ => none

/-- The settings of a document. -/
def ofMembers? (members : Toml.Members) : Option BusConfig := do
  some {
    maxInFlight := ← sizeOf? members "max_in_flight" standard.maxInFlight
    errorBuffer := ← sizeOf? members "error_buffer" standard.errorBuffer
    ingressBuffer := ← sizeOf? members "ingress_buffer" standard.ingressBuffer
    databaseUrl := ← textOf? members "database_url" }

/-- Replaces sizes that a bus cannot be started with. -/
def usable (config : BusConfig) : BusConfig :=
  { config with
    maxInFlight := if config.maxInFlight = 0 then standard.maxInFlight else config.maxInFlight
    errorBuffer := if config.errorBuffer = 0 then standard.errorBuffer else config.errorBuffer }

/-- The settings of a file with some content, or without one that could be read. -/
def ofFile : Option (List UInt8) → BusConfig
  | none => standard
  | some bytes =>
    match ((Utf8.decodeText? bytes).bind Toml.parse?).bind ofMembers? with
    | some config => config.usable
    | none => standard

end BusConfig

end ConversationBus
