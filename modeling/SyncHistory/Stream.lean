import SyncHistory.Stats

/-!
# Streams

A stream is a table of a source: it is known by its name and, if it has one, its namespace. Streams are
ordered by name and then by namespace, a stream without namespace first (`StreamKey.lt`).

Statistics are kept per stream. `StreamStats.merge` adds up the statistics of the same stream and lists
each stream once, in order.
-/

namespace SyncHistory

/-- What a stream is known by. -/
structure StreamKey where
  name : String
  nameSpace : Option String
deriving DecidableEq

namespace StreamKey

/-- An absent namespace comes before every namespace. -/
def nameSpaceLt : Option String → Option String → Bool
  | none, some _ => true
  | some a, some b => a < b
  | _, none => false

/-- By name, then by namespace. -/
def lt (a b : StreamKey) : Bool :=
  a.name < b.name || (a.name == b.name && nameSpaceLt a.nameSpace b.nameSpace)

/-- The stream in words: its namespace and its name, with a point between them. -/
def text (k : StreamKey) : String :=
  match k.nameSpace with
  | some ns => ns ++ "." ++ k.name
  | none => k.name

end StreamKey

/-- Statistics of one stream. -/
structure StreamStats where
  key : StreamKey
  stats : SyncStats
deriving DecidableEq

namespace StreamStats

/-- Adds statistics of one stream to a list that has every stream once, in order. -/
def insert (s : StreamStats) : List StreamStats → List StreamStats
  | [] => [s]
  | t :: rest =>
    if s.key = t.key then ⟨t.key, s.stats + t.stats⟩ :: rest
    else if s.key.lt t.key then s :: t :: rest
    else t :: insert s rest

/-- Adds up the statistics of the same stream; every stream once, in order. -/
def merge (streams : List StreamStats) : List StreamStats :=
  streams.foldr insert []

/-- The statistics as a document: the stream and the counters side by side. -/
def toJson (s : StreamStats) : Json :=
  .obj <| ("streamName", .str s.key.name) ::
    ("streamNamespace", .ofOption .str s.key.nameSpace) :: s.stats.toFields

/-- Reads statistics of a stream from a document, whose fields are given by name. -/
def ofJson? (j : Json) : Option StreamStats := do
  let r ← Json.Record.named? (["streamName", "streamNamespace"] ++ SyncStats.fieldNames) j
  let name ← r.required? "streamName" Json.string?
  let nameSpace ← r.optional? "streamNamespace" Json.string?
  let stats ← SyncStats.ofRecord? r
  some ⟨⟨name, nameSpace⟩, stats⟩

end StreamStats

/-- Statistics recorded for one attempt. -/
structure AttemptStats where
  attemptNumber : Int
  totals : SyncStats
  streams : List StreamStats
deriving DecidableEq

/-- The statistics of an attempt for which nothing was recorded. -/
def AttemptStats.empty (attemptNumber : Int) : AttemptStats := ⟨attemptNumber, 0, []⟩

end SyncHistory
