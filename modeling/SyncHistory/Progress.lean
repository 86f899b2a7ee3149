import SyncHistory.Hydration
import SyncHistory.JobLookup

/-!
# Progress of a running sync

How far the running sync of a connection has got, stream by stream. A connection is expected to run one
sync at a time; where several run, the items of all of them carry the number and the start of the
newest.
-/

namespace SyncHistory

/-- How far one stream has got. -/
structure ProgressItem where
  jobId : JobId
  stream : StreamKey
  recordsExtracted : Int
  recordsLoaded : Int
  bytesExtracted : Int
  bytesLoaded : Int
  syncStartedAt : Option Instant
deriving DecidableEq

namespace ProgressItem

/-- The progress of a stream under a job: what was emitted is extracted, what was committed is
loaded. -/
def ofStream (job : JobView) (s : StreamStats) : ProgressItem where
  jobId := job.id
  stream := s.key
  recordsExtracted := s.stats.recordsEmitted
  recordsLoaded := s.stats.recordsCommitted
  bytesExtracted := s.stats.bytesEmitted
  bytesLoaded := s.stats.bytesCommitted
  syncStartedAt := job.startedAt

/-- The item as a document. -/
def toJson (i : ProgressItem) : Json :=
  .obj [("jobId", .ofInt i.jobId), ("streamName", .str i.stream.name),
    ("streamNamespace", .ofOption .str i.stream.nameSpace),
    ("recordsExtracted", .ofInt i.recordsExtracted), ("recordsLoaded", .ofInt i.recordsLoaded),
    ("bytesExtracted", .ofInt i.bytesExtracted), ("bytesLoaded", .ofInt i.bytesLoaded),
    ("syncStartedAt", .ofOption Instant.toJson i.syncStartedAt)]

/-- The items of all streams of some jobs, under the first of these. -/
def ofViews (views : List JobWithAttempts) : List ProgressItem :=
  match views with
  | [] => []
  | newest :: _ =>
    (views.flatMap fun v => v.job.streamAggregatedStats.getD []).map (ofStream newest.job)

end ProgressItem

/-- How far the running sync of a connection has got; nothing when none is running. -/
def Inquiry.progress (connection : Uuid) : Inquiry (List ProgressItem) := do
  let jobs ← runningSyncs [connection]
  return ProgressItem.ofViews (← hydratedViews jobs true)

end SyncHistory
