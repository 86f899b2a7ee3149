import SyncHistory.Stream

/-!
# Configured catalogs

The streams that a job is configured to sync, and how. `Catalog.ofJobConfig?` finds the catalog in the
document of a job's configuration, `Catalog.syncModes` answers how each stream is synced, or names the
first stream that is configured twice.
-/

namespace SyncHistory

/-- How a stream is synced. -/
inductive SyncMode where
  | fullRefresh
  | incremental
deriving DecidableEq

namespace SyncMode

def all : List SyncMode := [fullRefresh, incremental]

def name : SyncMode → String
  | fullRefresh => "full_refresh"
  | incremental => "incremental"

def toJson (m : SyncMode) : Json := .str m.name

def ofJson? : Json → Option SyncMode := Json.oneOf? all name

end SyncMode

/-- A stream and how it is synced. -/
structure ConfiguredStream where
  key : StreamKey
  mode : SyncMode
deriving DecidableEq

/-- The stream's key as a document. -/
def StreamKey.toJson (k : StreamKey) : Json :=
  .obj [("name", .str k.name), ("namespace", .ofOption .str k.nameSpace)]

/-- Reads a stream's key from a document. -/
def StreamKey.ofJson? (j : Json) : Option StreamKey := do
  let r ← Json.Record.ofJson? ["name", "namespace"] j
  let name ← r.required? "name" Json.string?
  let nameSpace ← r.withDefault? "namespace" none (Json.nullable? Json.string?)
  some ⟨name, nameSpace⟩

namespace ConfiguredStream

def toJson (s : ConfiguredStream) : Json :=
  .obj [("stream", s.key.toJson), ("sync_mode", s.mode.toJson)]

def ofJson? (j : Json) : Option ConfiguredStream := do
  let r ← Json.Record.ofJson? ["stream", "sync_mode"] j
  let key ← r.required? "stream" StreamKey.ofJson?
  let mode ← r.required? "sync_mode" SyncMode.ofJson?
  some ⟨key, mode⟩

end ConfiguredStream

/-- The streams that a job is configured to sync. -/
structure Catalog where
  streams : List ConfiguredStream
deriving DecidableEq

namespace Catalog

def toJson (c : Catalog) : Json :=
  .obj [("streams", .ofList ConfiguredStream.toJson c.streams)]

def ofJson? (j : Json) : Option Catalog := do
  let r ← Json.Record.ofJson? ["streams"] j
  let streams ← r.withDefault? "streams" [] (Json.list? ConfiguredStream.ofJson?)
  some ⟨streams⟩

/-- The sections of a job's configuration that may hold a catalog, in the order they are tried. -/
def sections : List String := ["sync", "resetConnection", "refresh"]

/-- The catalog of a section, if it can be read. -/
def ofSection? (config : Json) (name : String) : Option Catalog :=
  match config.get? name with
  | some part =>
    match part.get? "configuredAirbyteCatalog" with
    | some catalog => ofJson? catalog
    | none => none
  | none => none

/-- The catalog in the document of a job's configuration: the first that can be read. -/
def ofJobConfig? (config : Json) : Option Catalog :=
  sections.findSome? (ofSection? config)

/-- Puts a stream where its key belongs; `none` if the key is there already. -/
def insertMode? (s : ConfiguredStream) : List ConfiguredStream → Option (List ConfiguredStream)
  | [] => some [s]
  | t :: rest =>
    if s.key = t.key then none
    else if s.key.lt t.key then some (s :: t :: rest)
    else (insertMode? s rest).map (t :: ·)

/-- Sorts streams by key, in front of those sorted already; the first stream whose key occurred before
is the failure. -/
def sortModes : (sorted : List ConfiguredStream) → List ConfiguredStream →
    Except StreamKey (List ConfiguredStream)
  | sorted, [] => .ok sorted
  | sorted, s :: rest =>
    match insertMode? s sorted with
    | some sorted => sortModes sorted rest
    | none => .error s.key

/-- How each stream is synced, in order of the streams; a stream that is configured twice is the
failure. -/
def syncModes (c : Catalog) : Except StreamKey (List ConfiguredStream) :=
  sortModes [] c.streams

end Catalog

end SyncHistory
