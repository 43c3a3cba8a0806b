import ConversationBus.Config.Basic

/-!
# Locations

Where the data directory is, and where the store is in it.
-/

namespace ConversationBus

/-- The path of something in a directory. -/
def joinPath (directory name : String) : String :=
  if directory.isEmpty ∨ directory.toList.getLast? = some '/' then directory ++ name
  else directory ++ "/" ++ name

def databaseFileName : String :=
  "switchboard.db"

/-- What the environment says about directories. -/
structure Environment where
  /-- The data directory that was asked for. -/
  dataDirectory : Option String
  /-- The user's home directory. -/
  home : Option String
  /-- The home directory that the account has. -/
  accountHome : String
  deriving DecidableEq, Repr

namespace Environment

/-- A value that is set to something. -/
def filled : Option String → Option String :=
  Option.filter fun value => !value.isEmpty

/-- The data directory: the one asked for, or a hidden one at home. -/
def directory (environment : Environment) : String :=
  (filled environment.dataDirectory).getD <|
    joinPath ((filled environment.home).getD environment.accountHome) ".switchboard"

end Environment

/-- The address of the database in a directory. -/
def storeUrl (directory : String) : String :=
  "sqlite://" ++ joinPath directory databaseFileName

/-- The address of the database: the one of the settings, or else the one in the data
directory. -/
def BusConfig.resolvedUrl (config : BusConfig) (directory : String) : String :=
  config.databaseUrl.getD (storeUrl directory)

end ConversationBus
