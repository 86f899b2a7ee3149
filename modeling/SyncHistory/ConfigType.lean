import SyncHistory.Error
import SyncHistory.Json.Record

/-!
# Kinds of jobs

What a job does is its config type. The order of `ConfigType.all` is the order in which a plan lists
the kinds it asks for.
-/

namespace SyncHistory

/-- What a job does. -/
inductive ConfigType where
  | checkConnectionSource
  | checkConnectionDestination
  | discoverSchema
  | getSpec
  | sync
  | resetConnection
  | refresh
  | clear
deriving DecidableEq

namespace ConfigType

/-- Every config type, in order. -/
def all : List ConfigType :=
  [checkConnectionSource, checkConnectionDestination, discoverSchema, getSpec, sync,
    resetConnection, refresh, clear]

/-- The config types that move data for a connection. -/
def syncReplication : List ConfigType := [sync, refresh]

/-- Every config type that touches the destination data of a connection. -/
def replication : List ConfigType := [sync, resetConnection, refresh, clear]

def name : ConfigType → String
  | checkConnectionSource => "check_connection_source"
  | checkConnectionDestination => "check_connection_destination"
  | discoverSchema => "discover_schema"
  | getSpec => "get_spec"
  | sync => "sync"
  | resetConnection => "reset_connection"
  | refresh => "refresh"
  | clear => "clear"

/-- The place of a config type in the order. -/
def rank : ConfigType → Nat
  | checkConnectionSource => 0
  | checkConnectionDestination => 1
  | discoverSchema => 2
  | getSpec => 3
  | sync => 4
  | resetConnection => 5
  | refresh => 6
  | clear => 7

/-- Reads a name without regard to letter case and to blanks around it. -/
def parse (text : String) : Except HistoryError ConfigType :=
  match all.find? fun t => Text.sameLetters t.name (Text.trim text) with
  | some t => .ok t
  | none => .error (.invalidArgument (.unknownConfigType text))

/-- The requested config types, each once and in order. -/
def normalize (requested : List ConfigType) : List ConfigType :=
  all.filter requested.contains

def toJson (t : ConfigType) : Json := .str t.name

def ofJson? : Json → Option ConfigType := Json.oneOf? all name

end ConfigType

end SyncHistory
