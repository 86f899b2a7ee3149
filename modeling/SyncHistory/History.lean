import SyncHistory.Debug
import SyncHistory.Progress

/-!
# The history of jobs

The operations that callers can perform, as data (`Operation`), and the answer to each, which is a
document (`Operation.answer`). No operation changes anything; what an operation asks of the surroundings
is all in its inquiry.
-/

namespace SyncHistory

/-- What can be set for all operations. -/
structure Settings where
  /-- The page size of a listing that asks for none. -/
  defaultPageSize : UInt32
  /-- Do listings carry statistics? -/
  hydrateAggregatedStats : Bool
  /-- How many lines of a log are shown. -/
  logTailLines : Nat
  platformVersion : String
deriving DecidableEq

/-- Settings for developing. -/
def Settings.standard : Settings := ⟨SyncHistory.defaultPageSize, false, 1000, "dev"⟩

namespace Inquiry

/-- The listing of a planned page, with the number of all jobs that pass its filter. -/
def countedListing (settings : Settings) (plan : ListingPlan) : Inquiry JobListing := do
  let jobs ← listJobs plan
  let total ← countJobs plan
  return ⟨← hydratedViews jobs settings.hydrateAggregatedStats, total⟩

/-- Jobs of one scope, or of all scopes. -/
def listing (settings : Settings) (request : JobListRequest) : Inquiry JobListing := do
  let plan ← ofExcept (request.plan settings.defaultPageSize)
  countedListing settings plan

/-- Jobs of workspaces; the number of all jobs is that of the page. -/
def workspaceListing (settings : Settings) (request : WorkspaceListRequest) : Inquiry JobListing := do
  let plan ← ofExcept (request.plan settings.defaultPageSize)
  let jobs ← listJobs plan
  let views ← hydratedViews jobs settings.hydrateAggregatedStats
  return ⟨views, views.length⟩

/-- A job with logs and statistics of its attempts. -/
def info (settings : Settings) (id : JobId) : Inquiry JobInfo := do
  jobInfo settings.logTailLines (← job id)

/-- A job with all statistics and without logs. -/
def infoWithoutLogs (id : JobId) : Inquiry JobInfo := do
  let job ← job id
  let views ← hydratedViews [job] true
  match views with
  | [view] => return ⟨view.job, view.attempts.map fun a => ⟨a, none⟩⟩
  | _ => return ⟨.ofJob job, []⟩

/-- A job alone, without its attempts. -/
def infoLight (id : JobId) : Inquiry JobView := do
  return .ofJob (← job id)

/-- How each stream of a job is synced, in order of the streams. -/
def syncModes (id : JobId) : Inquiry (List ConfiguredStream) := do
  ofExcept (← job id).syncModes

end Inquiry

/-- What callers can ask of the history of jobs. -/
inductive Operation where
  | listJobs (request : JobListRequest)
  | listWorkspaces (request : WorkspaceListRequest)
  | info (id : JobId)
  | infoWithoutLogs (id : JobId)
  | infoLight (id : JobId)
  | debug (id : JobId)
  | lastReplication (connection : Uuid)
  | latestRunning (connection : Uuid)
  | latestSync (connection : Uuid)
  | progress (connection : Uuid)
  | latestSyncs (connections : List Uuid)
  | runningSyncs (connections : List Uuid)
  | normalization (id : JobId)
  | syncModes (id : JobId)
deriving DecidableEq

namespace Operation

/-- Performs the operation, and gives the answer as a document. -/
def answer (settings : Settings) (asksWorkflow : Bool) : Operation → Inquiry Json
  | listJobs request => return (← Inquiry.listing settings request).toJson
  | listWorkspaces request => return (← Inquiry.workspaceListing settings request).toJson
  | info id => return (← Inquiry.info settings id).toJson
  | infoWithoutLogs id => return (← Inquiry.infoWithoutLogs id).toJson
  | infoLight id => return (← Inquiry.infoLight id).toLightJson
  | debug id => return (← Inquiry.debugInfo settings.logTailLines settings.platformVersion
      asksWorkflow id).toJson
  | lastReplication c => return JobView.toOptionalJson ((← Inquiry.lastReplication c).map .ofJob)
  | latestRunning c =>
    return .ofOption JobView.toJson ((← Inquiry.latestRunningSync c).map .ofJob)
  | latestSync c => return .ofOption JobView.toJson ((← Inquiry.latestSync c).map .ofJob)
  | progress c => return .ofList ProgressItem.toJson (← Inquiry.progress c)
  | latestSyncs cs => return .ofList JobSummary.toJson (← Inquiry.latestSyncs cs)
  | runningSyncs cs =>
    return .ofList JobView.toJson ((← Inquiry.runningSyncs cs).map .ofJob)
  | normalization id => do
    let statuses : List NormalizationStatus ← Inquiry.jobs (.normalization id)
    return .ofList NormalizationStatus.toJson statuses
  | syncModes id => return .ofList ConfiguredStream.toModeJson (← Inquiry.syncModes id)

end Operation

end SyncHistory
