import SyncHistory.Config
import SyncHistory.Postgres.Connectors
import SyncHistory.Postgres.Jobs
import SyncHistory.Workflow

/-!
# Deployments

The history of jobs as it is deployed: jobs and connectors in two relational databases, workflows behind a
service, logs in files. What a deployment asks of the outside are statements, requests and paths, and
`Deployment.answer` turns every question of an inquiry into these. `Deployment.perform` is an operation
as a program of them.
-/

namespace SyncHistory

/-- Something that is asked of the outside. -/
inductive Demand where
  /-- A statement for the database of jobs. -/
  | jobs (statement : Statement)
  /-- A statement for the database of connectors. -/
  | connectors (statement : Statement)
  /-- The resource at an address. -/
  | fetch (url : String)
  /-- The file at a path. -/
  | file (path : String)
deriving DecidableEq

/-- What the outside may answer. -/
def Demand.Answer : Demand → Type
  | .jobs _ | .connectors _ => Except DatabaseFault (List Row)
  | .fetch _ => Except String HttpResponse
  | .file _ => FileRead

/-- The outside of a deployment. -/
def outside : Interface := ⟨Demand, Demand.Answer⟩

namespace Deployment

/-- Sends the statements of a program to the database of jobs. -/
def jobsDatabase (p : Prog database α) : Prog outside α :=
  Prog.run (fun statement => Prog.query (I := outside) (.jobs statement)) p

/-- Sends the statements of a program to the database of connectors. -/
def connectorsDatabase (p : Prog database α) : Prog outside α :=
  Prog.run (fun statement => Prog.query (I := outside) (.connectors statement)) p

/-- Asks the service about the workflow of a connection. -/
def workflow (endpoint : WorkflowEndpoint) (connection : Uuid) :
    Prog outside (Except LookupError (Option WorkflowState)) := do
  let response : Except String HttpResponse ←
    Prog.query (I := outside) (.fetch (Workflow.stateUrl endpoint.baseUrl connection))
  return Workflow.state response

/-- Answers a question; without a service nothing is known about workflows. -/
def answer [SchemaChecker] (endpoint : Option WorkflowEndpoint) : (q : Question) → Prog outside q.Answer
  | .jobs q => jobsDatabase (Postgres.answer q).run
  | .connectors q => connectorsDatabase (Postgres.recordFor q).run
  | .workflow connection =>
    match endpoint with
    | some endpoint => workflow endpoint connection
    | none => return .ok none
  | .file path => Prog.query (I := outside) (.file path)

/-- Answers everything that an inquiry asks. -/
def resolve [SchemaChecker] (endpoint : Option WorkflowEndpoint) (inquiry : Inquiry α) :
    Prog outside (Except HistoryError α) :=
  Prog.run (I := surroundings) (answer endpoint) inquiry.run

/-- Performs an operation. -/
def perform [SchemaChecker] (settings : Settings) (endpoint : Option WorkflowEndpoint)
    (operation : Operation) : Prog outside (Except HistoryError Json) :=
  resolve endpoint (operation.answer settings endpoint.isSome)

end Deployment

end SyncHistory
