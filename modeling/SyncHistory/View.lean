import SyncHistory.Job

/-!
# Views

What callers get to see of jobs and attempts, and how it is written as a document. A view without
statistics is made from the stored record alone; statistics are put in afterwards. Fields that are
absent are either written as `null` or left out, as each encoder says.
-/

namespace SyncHistory

/-- A job as callers see it. -/
structure JobView where
  id : JobId
  configType : ConfigType
  configId : String
  status : JobStatus
  createdAt : Instant
  updatedAt : Instant
  startedAt : Option Instant
  /-- Totals over all attempts. -/
  aggregatedStats : Option SyncStats
  /-- Totals per stream over all attempts. -/
  streamAggregatedStats : Option (List StreamStats)
deriving DecidableEq

namespace JobView

/-- The view of a stored job, without statistics. -/
def ofJob (job : Job) : JobView where
  id := job.id
  configType := job.configType
  configId := job.scope
  status := job.status
  createdAt := job.createdAt
  updatedAt := job.updatedAt
  startedAt := job.startedAt
  aggregatedStats := none
  streamAggregatedStats := none

/-- The view as a document; statistics are left out when absent. -/
def toJson (v : JobView) : Json :=
  .obj <|
    [("id", .ofInt v.id), ("configType", v.configType.toJson), ("configId", .str v.configId),
      ("status", v.status.toJson), ("createdAt", v.createdAt.toJson),
      ("updatedAt", v.updatedAt.toJson), ("startedAt", .ofOption Instant.toJson v.startedAt)] ++
    Json.optionalField "aggregatedStats" SyncStats.toJson v.aggregatedStats ++
    Json.optionalField "streamAggregatedStats" (.ofList StreamStats.toJson) v.streamAggregatedStats

end JobView

/-- An attempt as callers see it; it is known by its number. -/
structure AttemptView where
  id : Int
  status : AttemptStatus
  createdAt : Instant
  updatedAt : Instant
  endedAt : Option Instant
  bytesSynced : Option Int
  recordsSynced : Option Int
  totalStats : Option SyncStats
  streamStats : Option (List StreamStats)
  failureSummary : Option Json
deriving DecidableEq

namespace AttemptView

/-- The view of a stored attempt, without statistics. -/
def ofAttempt (a : Attempt) : AttemptView where
  id := a.number
  status := a.status
  createdAt := a.createdAt
  updatedAt := a.updatedAt
  endedAt := a.endedAt
  bytesSynced := a.output.map (·.bytesSynced)
  recordsSynced := a.output.map (·.recordsSynced)
  totalStats := none
  streamStats := none
  failureSummary := a.failureSummary

/-- The view as a document; statistics and the failure summary are left out when absent. -/
def toJson (v : AttemptView) : Json :=
  .obj <|
    [("id", .ofInt v.id), ("status", v.status.toJson), ("createdAt", v.createdAt.toJson),
      ("updatedAt", v.updatedAt.toJson), ("endedAt", .ofOption Instant.toJson v.endedAt),
      ("bytesSynced", .ofOption .ofInt v.bytesSynced),
      ("recordsSynced", .ofOption .ofInt v.recordsSynced)] ++
    Json.optionalField "totalStats" SyncStats.toJson v.totalStats ++
    Json.optionalField "streamStats" (.ofList StreamStats.toJson) v.streamStats ++
    Json.optionalField "failureSummary" (fun j => j) v.failureSummary

end AttemptView

/-- A job as callers see it, with its attempts. -/
structure JobWithAttempts where
  job : JobView
  attempts : List AttemptView
deriving DecidableEq

namespace JobWithAttempts

/-- The view of a stored job and its attempts, without statistics. -/
def ofJob (job : Job) : JobWithAttempts :=
  ⟨.ofJob job, job.attempts.map .ofAttempt⟩

/-- The view as a document. -/
def toJson (v : JobWithAttempts) : Json :=
  .obj [("job", v.job.toJson), ("attempts", .ofList AttemptView.toJson v.attempts)]

end JobWithAttempts

/-- An attempt and the last lines of its log, if they were asked for. -/
structure AttemptInfo where
  attempt : AttemptView
  logLines : Option (List String)
deriving DecidableEq

/-- The attempt as a document; logs are left out when absent. -/
def AttemptInfo.toJson (v : AttemptInfo) : Json :=
  .obj <| ("attempt", v.attempt.toJson) ::
    Json.optionalField "logs" (fun ls => .obj [("logLines", .ofList .str ls)]) v.logLines

/-- A job with everything about its attempts. -/
structure JobInfo where
  job : JobView
  attempts : List AttemptInfo
deriving DecidableEq

/-- The job as a document. -/
def JobInfo.toJson (v : JobInfo) : Json :=
  .obj [("job", v.job.toJson), ("attempts", .ofList AttemptInfo.toJson v.attempts)]

/-- A listing, and how many jobs there are in all. -/
structure JobListing where
  jobs : List JobWithAttempts
  totalJobCount : Nat
deriving DecidableEq

/-- The listing as a document. -/
def JobListing.toJson (v : JobListing) : Json :=
  .obj [("jobs", .ofList JobWithAttempts.toJson v.jobs), ("totalJobCount", .ofNat v.totalJobCount)]

/-- A job under its own field, without attempts. -/
def JobView.toLightJson (v : JobView) : Json :=
  .obj [("job", v.toJson)]

/-- A job under its own field that may be absent; absence is written as `null`. -/
def JobView.toOptionalJson (v : Option JobView) : Json :=
  .obj [("job", .ofOption JobView.toJson v)]

/-- How one stream of a job is synced, as a document. -/
def ConfiguredStream.toModeJson (s : ConfiguredStream) : Json :=
  .obj [("streamName", .str s.key.name), ("streamNamespace", .ofOption .str s.key.nameSpace),
    ("syncMode", s.mode.toJson)]

end SyncHistory
