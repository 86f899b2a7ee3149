import SyncHistory.Instant
import SyncHistory.Status
import SyncHistory.Stream

/-!
# Attempts

One try at a job: its status, its times, where its log lies, what it reported when it ended and what it
reported about its failure.
-/

namespace SyncHistory

/-- Totals that an attempt reported. -/
structure SyncOutput where
  bytesSynced : Int
  recordsSynced : Int
deriving DecidableEq

namespace SyncOutput

/-- The totals as a document. -/
def toJson (o : SyncOutput) : Json :=
  .obj [("bytesSynced", .ofInt o.bytesSynced), ("recordsSynced", .ofInt o.recordsSynced)]

/-- Reads totals from a document. -/
def ofJson? (j : Json) : Option SyncOutput := do
  let r ← Json.Record.ofJson? ["bytesSynced", "recordsSynced"] j
  let bytesSynced ← r.required? "bytesSynced" (Json.signed? 64)
  let recordsSynced ← r.required? "recordsSynced" (Json.signed? 64)
  some ⟨bytesSynced, recordsSynced⟩

/-- A counter of a summary, zero unless it is a whole number of 64 bits. -/
def counter (summary : Json) (name : String) : Int :=
  ((summary.get? name).bind (Json.signed? 64)).getD 0

/-- The totals in the document that an attempt left behind, if it has a summary of a sync. -/
def ofAttemptOutput? (output : Json) : Option SyncOutput := do
  let sync ← output.get? "sync"
  let summary ← sync.get? "standardSyncSummary"
  some ⟨counter summary "bytesSynced", counter summary "recordsSynced"⟩

end SyncOutput

/-- One try at a job. -/
structure Attempt where
  number : Int
  status : AttemptStatus
  logPath : Option String
  output : Option SyncOutput
  failureSummary : Option Json
  createdAt : Instant
  updatedAt : Instant
  endedAt : Option Instant
deriving DecidableEq

/-- Whether the data of an attempt was normalised after it was moved. -/
structure NormalizationStatus where
  attemptNumber : Int
  recordsCommitted : Option Int
  hasFailed : Bool
deriving DecidableEq

namespace NormalizationStatus

/-- The status as a document. -/
def toJson (s : NormalizationStatus) : Json :=
  .obj [("attemptNumber", .ofInt s.attemptNumber),
    ("recordsCommitted", .ofOption .ofInt s.recordsCommitted),
    ("hasNormalizationFailed", .bool s.hasFailed)]

/-- Reads a status from a document. -/
def ofJson? (j : Json) : Option NormalizationStatus := do
  let r ← Json.Record.ofJson? ["attemptNumber", "recordsCommitted", "hasNormalizationFailed"] j
  let attemptNumber ← r.required? "attemptNumber" (Json.signed? 32)
  let recordsCommitted ← r.optional? "recordsCommitted" (Json.signed? 64)
  let hasFailed ← r.required? "hasNormalizationFailed" Json.bool?
  some ⟨attemptNumber, recordsCommitted, hasFailed⟩

end NormalizationStatus

/-- A point in time in a document. -/
def Instant.toJson (t : Instant) : Json := .str t.text

/-- Reads a point in time from a document. -/
def Instant.ofJson? (j : Json) : Option Instant := j.string?.bind Instant.parse?

/-- An identifier in a document. -/
def Uuid.toJson (u : Uuid) : Json := .str u.text

/-- Reads an identifier from a document. -/
def Uuid.ofJson? (j : Json) : Option Uuid := j.string?.bind Uuid.parse?

end SyncHistory
