import SyncHistory.FileTree
import SyncHistory.History
import SyncHistory.Memory.Connectors
import SyncHistory.Memory.Jobs

/-!
# Sessions in memory

Surroundings that live in memory, in which the history of jobs can be set up step by step and asked. A
session has a job store, records of connectors, files and settings; looking up a kind of record can be
made to fail, and there may be somebody who knows about workflows. `Session.ask` answers every question
that an inquiry may have, `Session.perform` performs an operation, and `Session.set` changes what the
answers depend on.
-/

namespace SyncHistory

/-- How a look-up is made to fail. -/
inductive LookupFault where
  /-- There is no record; the failure calls it by the given kind. -/
  | missing (kind : String)
  | invalid (reason : String)
  | unavailable (reason : String)
deriving DecidableEq

/-- The failure of looking up a record with an identifier. -/
def LookupFault.error (id : Uuid) : LookupFault → LookupError
  | missing kind => .notFound kind id.text
  | invalid reason => .invalidConfiguration id.text reason
  | unavailable reason => .unavailable reason

/-- Somebody who is asked about workflows, and always answers the same. -/
inductive WorkflowSource where
  | answers (state : Option WorkflowState)
  | fails (fault : LookupFault)
deriving DecidableEq

/-- What is known about the workflow of a connection. -/
def WorkflowSource.state (id : Uuid) : WorkflowSource → Except LookupError (Option WorkflowState)
  | answers state => .ok state
  | fails fault => .error (fault.error id)

/-- Surroundings in memory. -/
structure Session where
  store : JobStore
  connectors : ConnectorTables
  /-- How looking up a kind of record fails; the latest entry of a kind counts. -/
  faults : List (Entity × Option LookupFault)
  workflow : Option WorkflowSource
  files : FileTree
  settings : Settings
deriving DecidableEq

/-- A change of the surroundings. -/
inductive Setup where
  | settings (change : Settings → Settings)
  | insertJob (job : Job)
  | insertStats (id : JobId) (stats : AttemptStats)
  | insertNormalization (id : JobId) (status : NormalizationStatus)
  | assignWorkspace (scope : String) (workspace : Uuid)
  | available (value : Bool)
  | writeFile (path : String) (file : FileNode)
  | makeDirectory (path : String)
  | connectors (change : ConnectorChange)
  | failLookup (entity : Entity) (fault : Option LookupFault)
  | workflow (source : Option WorkflowSource)

namespace Session

/-- Nothing stored anywhere. -/
def empty : Session where
  store := .empty
  connectors := .empty
  faults := []
  workflow := none
  files := .empty
  settings := .standard

/-- The session with its job tables changed. -/
def changeTables (s : Session) (change : JobTables → JobTables) : Session :=
  { s with store := { s.store with tables := change s.store.tables } }

/-- The session after a change. -/
def set (s : Session) : Setup → Session
  | .settings change => { s with settings := change s.settings }
  | .insertJob job => s.changeTables (·.insertJob job)
  | .insertStats id stats => s.changeTables (·.insertStats id stats)
  | .insertNormalization id status => s.changeTables (·.insertNormalization id status)
  | .assignWorkspace scope workspace => s.changeTables (·.assignWorkspace scope workspace)
  | .available value => { s with store := { s.store with available := value } }
  | .writeFile path file => { s with files := s.files.write path file }
  | .makeDirectory path => { s with files := s.files.makeDirectory path }
  | .connectors change => { s with connectors := s.connectors.change change }
  | .failLookup entity fault => { s with faults := (entity, fault) :: s.faults }
  | .workflow source => { s with workflow := source }

/-- The answer to a question about connectors. A fault comes before the records are looked at. -/
def lookup [SchemaChecker] (s : Session) (q : ConnectorQuery) : Except LookupError q.Result :=
  match s.faults.lookup q.entity with
  | some (some fault) => .error (fault.error q.id)
  | _ => s.connectors.answer q

/-- What is known about the workflow of a connection; nothing if there is nobody to ask. -/
def workflowState (s : Session) (id : Uuid) : Except LookupError (Option WorkflowState) :=
  match s.workflow with
  | some source => source.state id
  | none => .ok none

/-- Asks the job store. -/
def askStore (q : JobQuery) : StateM Session (Except HistoryError q.Result) :=
  modifyGet fun s =>
    let (answer, store) := (JobStore.ask q).run s.store
    (answer, { s with store })

/-- Asks whoever knows the answer to the question. -/
def ask [SchemaChecker] : (q : Question) → StateM Session q.Answer
  | .jobs q => askStore q
  | .connectors q => return (← get).lookup q
  | .workflow id => return (← get).workflowState id
  | .file path => return (← get).files.read path

/-- Answers everything that an inquiry asks. -/
def answer [SchemaChecker] (inquiry : Inquiry α) : StateM Session (Except HistoryError α) :=
  Prog.run (I := surroundings) ask inquiry.run

/-- Performs an operation under the settings of the session. -/
def perform [SchemaChecker] (operation : Operation) : StateM Session (Except HistoryError Json) := do
  let s ← get
  answer (operation.answer s.settings s.workflow.isSome)

/-- What happens in a session. -/
inductive Event where
  | setup (setup : Setup)
  | perform (operation : Operation)

/-- Lets an event happen; only an operation has an answer. -/
def step [SchemaChecker] : Event → StateM Session (Option (Except HistoryError Json))
  | .setup setup => modifyGet fun s => (none, s.set setup)
  | .perform operation => return some (← perform operation)

end Session

end SyncHistory
