import SyncHistory.Hydration
import SyncHistory.JobLookup
import SyncHistory.Log

/-!
# Debug records

Everything there is to know about a job: the job and its attempts with logs and statistics, its
connection, the connection's source and destination with their definitions, and the state of the
connection's workflow. The record is put together stage by stage, each stage using what the ones before
it found, and the first stage that fails is the failure of the whole.
-/

namespace SyncHistory

/-- A job in a debug record. -/
structure DebugJob where
  id : JobId
  configType : ConfigType
  configId : String
  status : JobStatus
  platformVersion : String
  sourceDefinition : Definition
  destinationDefinition : Definition
deriving DecidableEq

/-- The job as a document. -/
def DebugJob.toJson (j : DebugJob) : Json :=
  .obj [("id", .ofInt j.id), ("configType", j.configType.toJson), ("configId", .str j.configId),
    ("status", j.status.toJson), ("platformVersion", .str j.platformVersion),
    ("sourceDefinition", j.sourceDefinition.toJson),
    ("destinationDefinition", j.destinationDefinition.toJson)]

/-- Everything there is to know about a job. -/
structure DebugInfo where
  job : DebugJob
  attempts : List AttemptInfo
  connection : Connection
  source : Actor
  destination : Actor
  workflowState : Option WorkflowState
deriving DecidableEq

/-- The record as a document; the state of the workflow is left out when absent. -/
def DebugInfo.toJson (d : DebugInfo) : Json :=
  .obj <|
    [("job", d.job.toJson), ("attempts", .ofList AttemptInfo.toJson d.attempts),
      ("connection", d.connection.toJson), ("source", d.source.toJson),
      ("destination", d.destination.toJson)] ++
    Json.optionalField "workflowState" WorkflowState.toJson d.workflowState

namespace Inquiry

/-- An attempt at a job with the last lines of its log and its own statistics. -/
def attemptInfo (logLines : Nat) (id : JobId) (attempt : Attempt) : Inquiry AttemptInfo := do
  let lines ← logTail logLines attempt.logPath
  let stats ← jobs (.attemptStats id attempt.number)
  return ⟨(AttemptView.ofAttempt attempt).hydrate stats, some lines⟩

/-- A job with everything about its attempts. -/
def jobInfo (logLines : Nat) (job : Job) : Inquiry JobInfo := do
  let attempts ← job.attempts.mapM (attemptInfo logLines job.id)
  return ⟨.ofJob job, attempts⟩

/-- The connection that a job belongs to. -/
def owner (job : Job) : Inquiry Uuid :=
  match job.connectionId with
  | some id => pure id
  | none => throw (.notFound .connection job.scope)

/-- Everything there is to know about a job. The workflow is only asked for if there is anyone to
ask. -/
def debugInfo (logLines : Nat) (platformVersion : String) (asksWorkflow : Bool) (id : JobId) :
    Inquiry DebugInfo := do
  let job ← job id
  let info ← jobInfo logLines job
  let connectionId ← owner job
  let connection : Connection ← connectors (.connection connectionId)
  let source : Actor ← connectors (.source connection.sourceId)
  let destination : Actor ← connectors (.destination connection.destinationId)
  let sourceDefinition : Definition ← connectors (.sourceDefinition source.definitionId)
  let destinationDefinition : Definition ←
    connectors (.destinationDefinition destination.definitionId)
  let workflowState ← if asksWorkflow then workflow connectionId else pure none
  return {
    job := {
      id := job.id
      configType := job.configType
      configId := job.scope
      status := job.status
      platformVersion
      sourceDefinition
      destinationDefinition }
    attempts := info.attempts
    connection
    source
    destination
    workflowState }

end Inquiry

end SyncHistory
