import SyncHistory.Json.Record

/-!
# Statistics of a sync

What an attempt moved: records and bytes, emitted by the source and committed to the destination.
Counters are exact integers, and statistics add up counter by counter.
-/

namespace SyncHistory

/-- Records and bytes that were moved. -/
structure SyncStats where
  recordsEmitted : Int
  bytesEmitted : Int
  recordsCommitted : Int
  bytesCommitted : Int
deriving DecidableEq

namespace SyncStats

/-- Nothing moved. -/
def zero : SyncStats := ⟨0, 0, 0, 0⟩

/-- Adds counter by counter. -/
def add (a b : SyncStats) : SyncStats where
  recordsEmitted := a.recordsEmitted + b.recordsEmitted
  bytesEmitted := a.bytesEmitted + b.bytesEmitted
  recordsCommitted := a.recordsCommitted + b.recordsCommitted
  bytesCommitted := a.bytesCommitted + b.bytesCommitted

instance : Zero SyncStats := ⟨zero⟩
instance : Add SyncStats := ⟨add⟩

/-- The sum over a list. -/
def sum (xs : List SyncStats) : SyncStats :=
  xs.foldl (· + ·) 0

/-- The names of the counters in a document. -/
def fieldNames : List String :=
  ["recordsEmitted", "bytesEmitted", "recordsCommitted", "bytesCommitted"]

/-- The counters as fields of a document. -/
def toFields (s : SyncStats) : List (String × Json) :=
  [("recordsEmitted", .ofInt s.recordsEmitted), ("bytesEmitted", .ofInt s.bytesEmitted),
    ("recordsCommitted", .ofInt s.recordsCommitted), ("bytesCommitted", .ofInt s.bytesCommitted)]

/-- The statistics as a document. -/
def toJson (s : SyncStats) : Json := .obj s.toFields

/-- Reads the counters of a record. -/
def ofRecord? (r : Json.Record) : Option SyncStats := do
  some {
    recordsEmitted := ← r.required? "recordsEmitted" (Json.signed? 64)
    bytesEmitted := ← r.required? "bytesEmitted" (Json.signed? 64)
    recordsCommitted := ← r.required? "recordsCommitted" (Json.signed? 64)
    bytesCommitted := ← r.required? "bytesCommitted" (Json.signed? 64) }

/-- Reads statistics from a document. -/
def ofJson? (j : Json) : Option SyncStats := do
  ofRecord? (← Json.Record.ofJson? fieldNames j)

end SyncStats

end SyncHistory
