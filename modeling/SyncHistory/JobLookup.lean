import SyncHistory.Inquiry
import SyncHistory.Listing

/-!
# Looking up jobs

Runs the plan of a listing against the job store, and answers which job of a connection is the latest
one.

A page that has to include a job is found in two questions: the place of the job in the listing, and
then all rows up to the end of the page that has this place. Such a page goes by kinds and owners of
jobs only, the newest job first, whatever else the plan says.
-/

namespace SyncHistory

/-- The largest number of rows that can be asked for. -/
def maxRows : Nat := 4294967295

/-- How many rows make up the whole pages up to a place counted from one, as far as that many can be
asked for. -/
def cursorLimit (position : Nat) (pageSize : UInt32) : UInt32 :=
  let pages := (position + pageSize.toNat - 1) / pageSize.toNat
  UInt32.ofNat (min (pages * pageSize.toNat) maxRows)

namespace Inquiry

/-- The jobs of a planned page. -/
def listJobs (plan : ListingPlan) : Inquiry (List Job) :=
  match plan.page with
  | .offset pageSize rowOffset =>
    jobs (.list plan.filter plan.order (some ⟨pageSize, rowOffset⟩))
  | .includingJob id pageSize => do
    let filter := plan.filter.cursorPart
    match ← jobs (.position filter .newestFirst id) with
    | some position =>
      jobs (.list filter .newestFirst (some ⟨cursorLimit position pageSize, 0⟩))
    | none => return []

/-- The number of jobs that pass the filter of a plan, whatever the page. -/
def countJobs (plan : ListingPlan) : Inquiry Nat :=
  jobs (.count plan.filter)

/-- One job, which must exist. -/
def job (id : JobId) : Inquiry Job := do
  match ← jobs (.get id) with
  | some job => return job
  | none => throw (.notFound .job (Digits.intText id))

/-- The newest job that passes a filter. -/
def newest (filter : JobFilter) : Inquiry (Option Job) := do
  return (← jobs (.list filter .newestFirst (some ⟨1, 0⟩))).head?

/-- The newest sync of a connection that has not finished. -/
def latestRunningSync (connection : Uuid) : Inquiry (Option Job) :=
  newest <| (JobFilter.ofScope ConfigType.syncReplication (.scope connection.text)).withStatuses
    JobStatus.nonTerminal

/-- The newest sync of a connection. -/
def latestSync (connection : Uuid) : Inquiry (Option Job) :=
  newest (.ofScope ConfigType.syncReplication (.scope connection.text))

/-- The newest job of a connection that touched its destination. -/
def lastReplication (connection : Uuid) : Inquiry (Option Job) :=
  newest (.ofScope ConfigType.replication (.scope connection.text))

/-- The newest sync of each connection; nothing is asked about no connection. -/
def latestSyncs (connections : List Uuid) : Inquiry (List JobSummary) :=
  if connections.isEmpty then return []
  else jobs (.latest (connections.map Uuid.text) ConfigType.syncReplication)

/-- Every unfinished sync of the connections, the newest first; nothing is asked about no
connection. -/
def runningSyncs (connections : List Uuid) : Inquiry (List Job) :=
  if connections.isEmpty then return []
  else jobs <| .list
    ((JobFilter.ofScope ConfigType.syncReplication
      (.scopes (connections.map Uuid.text))).withStatuses JobStatus.nonTerminal)
    .newestFirst none

end Inquiry

end SyncHistory
