import SyncHistory.Hydration

/-!
# A job store in memory

Stored jobs and what belongs to them, as plain lists in the order of insertion, and the answers to every
question about them. `JobTables.answer` is the answer of the tables; `JobStore.ask` is the store that
holds them, which counts the questions it gets and may be out of reach.
-/

namespace SyncHistory

/-- Everything that is stored about jobs. -/
structure JobTables where
  jobs : List Job
  /-- Statistics of attempts, each with the job it belongs to. -/
  stats : List (JobId × AttemptStats)
  normalization : List (JobId × NormalizationStatus)
  /-- The workspace of the owner of each scope; the latest entry of a scope counts. -/
  workspaces : List (String × Uuid)
deriving DecidableEq

namespace JobTables

/-- Nothing is stored. -/
def empty : JobTables := ⟨[], [], [], []⟩

/-- Stores a job. -/
def insertJob (t : JobTables) (job : Job) : JobTables :=
  { t with jobs := t.jobs ++ [job] }

/-- Stores statistics of an attempt. -/
def insertStats (t : JobTables) (id : JobId) (stats : AttemptStats) : JobTables :=
  { t with stats := t.stats ++ [(id, stats)] }

/-- Stores how the data of an attempt was normalised. -/
def insertNormalization (t : JobTables) (id : JobId) (status : NormalizationStatus) : JobTables :=
  { t with normalization := t.normalization ++ [(id, status)] }

/-- Stores which workspace the owner of a scope belongs to. -/
def assignWorkspace (t : JobTables) (scope : String) (workspace : Uuid) : JobTables :=
  { t with workspaces := (scope, workspace) :: t.workspaces }

/-- The workspace that the owner of a scope belongs to. -/
def workspaceOf (t : JobTables) (scope : String) : Option Uuid :=
  t.workspaces.lookup scope

/-- Does a job pass a filter? -/
def accepts (t : JobTables) (filter : JobFilter) (job : Job) : Bool :=
  filter.accepts (t.workspaceOf job.scope) job

/-- The jobs that pass a filter, in order. -/
def select (t : JobTables) (filter : JobFilter) (order : JobOrder) : List Job :=
  order.sort (t.jobs.filter (t.accepts filter))

/-- The jobs that pass a filter, in order, or a window of them. -/
def list (t : JobTables) (filter : JobFilter) (order : JobOrder) : Option Window → List Job
  | some window => window.of (t.select filter order)
  | none => t.select filter order

/-- The number of jobs that pass a filter. -/
def count (t : JobTables) (filter : JobFilter) : Nat :=
  (t.jobs.filter (t.accepts filter)).length

/-- The place of a job in the listing of a filter, counted from one. -/
def position (t : JobTables) (filter : JobFilter) (order : JobOrder) (id : JobId) : Option Nat :=
  ((t.select filter order).findIdx? fun job => job.id == id).map (· + 1)

/-- The newest job of a scope of the given kinds; of jobs that are tied, the one stored first. -/
def newestOf (t : JobTables) (configTypes : List ConfigType) (scope : String) : Option Job :=
  JobOrder.newestFirst.first?
    (t.jobs.filter fun job => job.scope == scope && configTypes.contains job.configType)

/-- Adds the newest job of a scope to the summaries found so far, unless these have one of the scope
already. A scope without such jobs leaves nothing behind. -/
def addLatest (t : JobTables) (configTypes : List ConfigType) (found : List JobSummary)
    (scope : String) : List JobSummary :=
  if found.any (·.connectionId == scope) then found
  else match t.newestOf configTypes scope with
    | some job => found ++ [.ofJob job]
    | none => found

/-- The newest job of each scope of the given kinds, each scope once. -/
def latest (t : JobTables) (scopes : List String) (configTypes : List ConfigType) : List JobSummary :=
  scopes.foldl (t.addLatest configTypes) []

/-- The statistics of the attempts at a job. -/
def statsOf (t : JobTables) (id : JobId) : List AttemptStats :=
  (t.stats.filter fun s => s.1 == id).map (·.2)

/-- How the data of each attempt at a job was normalised, ordered by number. -/
def normalizationOf (t : JobTables) (id : JobId) : List NormalizationStatus :=
  ((t.normalization.filter fun s => s.1 == id).map (·.2)).mergeSort
    fun a b => a.attemptNumber ≤ b.attemptNumber

/-- The answer to a question. -/
def answer (t : JobTables) : (q : JobQuery) → q.Result
  | .list filter order window => t.list filter order window
  | .count filter => t.count filter
  | .position filter order id => t.position filter order id
  | .get id => t.jobs.find? fun job => job.id == id
  | .latest scopes configTypes => t.latest scopes configTypes
  | .jobStats id => t.statsOf id
  | .attemptStats id number => AttemptStats.forAttempt (t.statsOf id) number
  | .normalization id => t.normalizationOf id

end JobTables

/-- A store that holds tables. -/
structure JobStore where
  tables : JobTables
  /-- How many questions the store has got. -/
  queries : Nat
  available : Bool
deriving DecidableEq

namespace JobStore

/-- A store that holds nothing. -/
def empty : JobStore := ⟨.empty, 0, true⟩

/-- Answers a question, which is counted whether or not the store is in reach. -/
def ask (q : JobQuery) : StateM JobStore (Except HistoryError q.Result) :=
  modifyGet fun s =>
    (if s.available then .ok (s.tables.answer q) else .error (.transient .jobStore),
      { s with queries := s.queries + 1 })

end JobStore

end SyncHistory
