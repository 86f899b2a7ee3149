import SyncHistory.Attempt
import SyncHistory.Catalog
import SyncHistory.ConfigType

/-!
# Jobs

A job belongs to a scope. For a job that moves data the scope is the text of the connection's
identifier, for others it may be any text.
-/

namespace SyncHistory

/-- The number of a job, a signed number of 64 bits. -/
abbrev JobId := Int

/-- A job with its attempts. -/
structure Job where
  id : JobId
  configType : ConfigType
  scope : String
  catalog : Option Catalog
  status : JobStatus
  createdAt : Instant
  updatedAt : Instant
  startedAt : Option Instant
  attempts : List Attempt
deriving DecidableEq

namespace Job

/-- The connection that the job belongs to, if its scope is an identifier. -/
def connectionId (job : Job) : Option Uuid :=
  Uuid.parse? job.scope

/-- How each stream of the job is synced, in order of the streams; none for a job without a catalog. -/
def syncModes (job : Job) : Except HistoryError (List ConfiguredStream) :=
  match (job.catalog.getD ⟨[]⟩).syncModes with
  | .ok modes => .ok modes
  | .error key => .error <| .validation .job (Digits.intText job.id)
      ("stream " ++ key.text ++ " is configured more than once")

end Job

/-- The state of the latest job of a connection. -/
structure JobSummary where
  jobId : JobId
  connectionId : String
  createdAt : Instant
  status : JobStatus
deriving DecidableEq

namespace JobSummary

/-- The summary of a job. -/
def ofJob (job : Job) : JobSummary :=
  ⟨job.id, job.scope, job.createdAt, job.status⟩

/-- The summary as a document. -/
def toJson (s : JobSummary) : Json :=
  .obj [("jobId", .ofInt s.jobId), ("connectionId", .str s.connectionId),
    ("createdAt", s.createdAt.toJson), ("status", s.status.toJson)]

/-- Reads a summary from a document. -/
def ofJson? (j : Json) : Option JobSummary := do
  let r ← Json.Record.ofJson? ["jobId", "connectionId", "createdAt", "status"] j
  let jobId ← r.required? "jobId" (Json.signed? 64)
  let connectionId ← r.required? "connectionId" Json.string?
  let createdAt ← r.required? "createdAt" Instant.ofJson?
  let status ← r.required? "status" JobStatus.ofJson?
  some ⟨jobId, connectionId, createdAt, status⟩

end JobSummary

end SyncHistory
