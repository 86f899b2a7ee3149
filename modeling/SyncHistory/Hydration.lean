import SyncHistory.Inquiry
import SyncHistory.View

/-!
# Statistics in views

Stored statistics are put into the views of jobs and attempts. An attempt gets its own, with streams
merged; a job gets the totals over everything that is stored for it, and per stream the totals over all
its attempts. Nothing else of a view changes.
-/

namespace SyncHistory

/-- The view of an attempt with its statistics. -/
def AttemptView.hydrate (v : AttemptView) (stats : AttemptStats) : AttemptView :=
  { v with totalStats := some stats.totals, streamStats := some (StreamStats.merge stats.streams) }

/-- The statistics of the attempt with a number: the first that are stored, or nothing moved. -/
def AttemptStats.forAttempt (stats : List AttemptStats) (number : Int) : AttemptStats :=
  (stats.find? fun s => s.attemptNumber == number).getD (.empty number)

/-- The view of a job and its attempts with the job's statistics. -/
def JobWithAttempts.hydrate (v : JobWithAttempts) (stats : List AttemptStats) : JobWithAttempts where
  job := { v.job with
    aggregatedStats := some (SyncStats.sum (stats.map (·.totals)))
    streamAggregatedStats := some (StreamStats.merge (stats.flatMap (·.streams))) }
  attempts := v.attempts.map fun a => a.hydrate (AttemptStats.forAttempt stats a.id)

namespace Inquiry

/-- Puts statistics into the views of jobs, the n-th view being that of the n-th job. If the lists have
different lengths or the statistics of one job cannot be had, there is no view at all; unless it is
wanted, nothing is asked and no view changes. -/
def hydrate (views : List JobWithAttempts) (jobs : List Job) (wanted : Bool) :
    Inquiry (List JobWithAttempts) := do
  if !wanted then return views
  if views.length ≠ jobs.length then
    throw (.invalidArgument (.unevenViews views.length jobs.length))
  let stats ← jobs.mapM fun job => Inquiry.jobs (.jobStats job.id)
  return List.zipWith JobWithAttempts.hydrate views stats

/-- The views of jobs, with statistics if these are wanted. -/
def hydratedViews (jobs : List Job) (wanted : Bool) : Inquiry (List JobWithAttempts) :=
  hydrate (jobs.map .ofJob) jobs wanted

end Inquiry

end SyncHistory
