import SyncHistory.JobQuery
import SyncHistory.Postgres.Filter
import SyncHistory.Sql.Row

/-!
# A job store in a relational database

The answers to questions about stored jobs, found by SQL statements: `Postgres.answer` gives for each
question a program of statements. Rows are read column by column in a fixed order, and the first value
that cannot be read is the failure of the whole answer.

A page of jobs takes two statements, one for the jobs and one for the attempts of all of them; attempts
are then handed out to the jobs that they belong to.
-/

namespace SyncHistory

/-- A program of statements that may fail. -/
abbrev Transaction := ExceptT HistoryError (Prog database)

namespace Postgres

/-! ## Statements -/

/-- The columns of a job. -/
def jobColumns : Columns where
  list := [("jobs.id", "id"), ("CAST(jobs.config_type AS VARCHAR) AS config_type", "config_type"),
    ("jobs.scope", "scope"), ("jobs.config", "config"),
    ("CAST(jobs.status AS VARCHAR) AS status", "status"), ("jobs.started_at", "started_at"),
    ("jobs.created_at", "created_at"), ("jobs.updated_at", "updated_at")]

/-- The columns of an attempt. -/
def attemptColumns : Columns where
  list := [("attempts.job_id", "job_id"), ("attempts.attempt_number", "attempt_number"),
    ("CAST(attempts.status AS VARCHAR) AS status", "status"), ("attempts.log_path", "log_path"),
    ("attempts.output", "output"), ("attempts.failure_summary", "failure_summary"),
    ("attempts.created_at", "created_at"), ("attempts.updated_at", "updated_at"),
    ("attempts.ended_at", "ended_at")]

/-- The columns of the totals of an attempt. -/
def totalsColumns : Columns where
  list := [("attempts.attempt_number", "attempt_number"),
    ("sync_stats.records_emitted", "records_emitted"),
    ("sync_stats.bytes_emitted", "bytes_emitted"),
    ("sync_stats.records_committed", "records_committed"),
    ("sync_stats.bytes_committed", "bytes_committed")]

/-- The columns of the statistics of a stream. -/
def streamColumns : Columns where
  list := [("attempts.attempt_number", "attempt_number"),
    ("stream_stats.stream_name", "stream_name"),
    ("stream_stats.stream_namespace", "stream_namespace"),
    ("stream_stats.records_emitted", "records_emitted"),
    ("stream_stats.bytes_emitted", "bytes_emitted"),
    ("stream_stats.records_committed", "records_committed"),
    ("stream_stats.bytes_committed", "bytes_committed")]

/-- The columns of the latest job of a scope. -/
def summaryColumns : Columns where
  list := [("jobs.id", "id"), ("jobs.scope", "scope"), ("jobs.created_at", "created_at"),
    ("CAST(jobs.status AS VARCHAR) AS status", "status")]

/-- The columns about the normalisation of an attempt. -/
def normalizationColumns : Columns where
  list := [("attempts.attempt_number", "attempt_number"),
    ("CAST(attempts.output -> 'sync' -> 'standardSyncSummary' -> 'totalStats' ->> " ++
      "'recordsCommitted' AS BIGINT) AS records_committed", "records_committed"),
    ("normalization_summaries.failures", "failures")]

/-- The column of a number of jobs. -/
def countColumns : Columns where
  list := [("COUNT(*)", "count")]

/-- The column of a place in a listing. -/
def positionColumns : Columns where
  list := [("ranked.position", "position")]

/-- A statement with the section of a listing behind it: the limit and the offset take the next two
places. -/
def withWindow (s : Statement) : Option Window → Statement
  | some window =>
    let limit := s.nextPlace
    ⟨s.text ++ (" LIMIT " ++ Fragment.placeholder limit ++ " OFFSET " ++ Fragment.placeholder (limit + 1)),
      s.params ++ [.int window.limit.toNat, .int window.offset.toNat]⟩
  | none => s

/-- The jobs that pass a filter, in order, or a section of them. -/
def listStatement (filter : JobFilter) (order : JobOrder) (window : Option Window) : Statement :=
  let predicate := filter.predicate
  withWindow ⟨"SELECT " ++ jobColumns.text ++ " FROM jobs WHERE " ++ predicate.text ++ " ORDER BY " ++
    order.clause, predicate.params⟩ window

/-- The number of jobs that pass a filter. -/
def countStatement (filter : JobFilter) : Statement :=
  let predicate := filter.predicate
  ⟨"SELECT " ++ countColumns.text ++ " FROM jobs WHERE " ++ predicate.text, predicate.params⟩

/-- The place of a job in the listing of a filter; the number of the job takes the place after those of
the filter. -/
def positionStatement (filter : JobFilter) (order : JobOrder) (id : JobId) : Statement :=
  let predicate := filter.predicate
  ⟨"SELECT " ++ positionColumns.text ++ " FROM (SELECT jobs.id, ROW_NUMBER() OVER " ++
      "(ORDER BY " ++ order.clause ++ ") AS position FROM jobs WHERE " ++ predicate.text ++
      ") ranked WHERE ranked.id = " ++ Fragment.placeholder predicate.nextPlace,
    predicate.params ++ [.int id]⟩

/-- One job. -/
def jobStatement (id : JobId) : Statement :=
  .ofFragments
    [.literal ("SELECT " ++ jobColumns.text ++ " FROM jobs WHERE jobs.id = "), .param (.int id)]

/-- The attempts at some jobs. -/
def attemptsStatement (ids : List JobId) : Statement :=
  .ofFragments
    [.literal ("SELECT " ++ attemptColumns.text ++ " FROM attempts WHERE attempts.job_id = ANY("),
      .param (.ints ids), .literal ") ORDER BY attempts.job_id, attempts.attempt_number"]

/-- The newest job of each scope. -/
def latestStatement (scopes : List String) (configTypes : List ConfigType) : Statement :=
  .ofFragments
    [.literal ("SELECT DISTINCT ON (jobs.scope) " ++ summaryColumns.text ++
        " FROM jobs WHERE jobs.scope = ANY("), .param (.texts scopes),
      .literal ") AND CAST(jobs.config_type AS VARCHAR) = ANY(",
      .param (.texts (configTypes.map ConfigType.name)),
      .literal ") ORDER BY jobs.scope, jobs.created_at DESC, jobs.id DESC"]

/-- The condition on statistics: those of a job, and of one attempt if a number is given. The number is
needed twice, so the places are numbered by hand. -/
def ofAttempt : String :=
  " WHERE attempts.job_id = $1 AND ($2::INT IS NULL OR attempts.attempt_number = $2)"

/-- The values for the condition on statistics. -/
def attemptParams (id : JobId) (number : Option Int) : List SqlValue :=
  [.int id, (number.map SqlValue.int).getD .null]

/-- The totals of the attempts at a job, or of one of them. -/
def totalsStatement (id : JobId) (number : Option Int) : Statement where
  text := "SELECT " ++ totalsColumns.text ++
    " FROM attempts JOIN sync_stats ON sync_stats.attempt_id = attempts.id" ++ ofAttempt ++
    " ORDER BY attempts.attempt_number"
  params := attemptParams id number

/-- The statistics of the streams of the attempts at a job, or of one of them. -/
def streamsStatement (id : JobId) (number : Option Int) : Statement where
  text := "SELECT " ++ streamColumns.text ++
    " FROM attempts JOIN stream_stats ON stream_stats.attempt_id = attempts.id" ++ ofAttempt ++
    " ORDER BY attempts.attempt_number, stream_stats.stream_namespace, stream_stats.stream_name"
  params := attemptParams id number

/-- How the data of each attempt at a job was normalised. -/
def normalizationStatement (id : JobId) : Statement :=
  .ofFragments
    [.literal ("SELECT " ++ normalizationColumns.text ++ " FROM attempts " ++
        "LEFT JOIN normalization_summaries ON normalization_summaries.attempt_id = attempts.id " ++
        "WHERE attempts.job_id = "), .param (.int id),
      .literal " ORDER BY attempts.attempt_number"]

/-! ## Rows -/

/-- Reads a column; a value that cannot be read is a fault of the database. -/
def read (c : Columns) (row : Row) (name : String) (decode : SqlValue → Option α) :
    Except HistoryError α :=
  (c.read row name decode).mapError fun fault => .transient (.database fault)

/-- The job in a row, without its attempts. -/
def job (row : Row) : Except HistoryError Job := do
  let config ← read jobColumns row "config" (SqlValue.nullable? SqlValue.json?)
  let status ← read jobColumns row "status" SqlValue.text?
  let configType ← read jobColumns row "config_type" SqlValue.text?
  let id ← read jobColumns row "id" SqlValue.int?
  let configType ← ConfigType.parse configType
  let scope ← read jobColumns row "scope" SqlValue.text?
  let status ← JobStatus.parse status
  let createdAt ← read jobColumns row "created_at" SqlValue.time?
  let updatedAt ← read jobColumns row "updated_at" SqlValue.time?
  let startedAt ← read jobColumns row "started_at" (SqlValue.nullable? SqlValue.time?)
  return {
    id, configType, scope, status, createdAt, updatedAt, startedAt
    catalog := config.bind Catalog.ofJobConfig?
    attempts := [] }

/-- The attempt in a row. -/
def attempt (row : Row) : Except HistoryError Attempt := do
  let status ← read attemptColumns row "status" SqlValue.text?
  let output ← read attemptColumns row "output" (SqlValue.nullable? SqlValue.json?)
  let number ← read attemptColumns row "attempt_number" SqlValue.int?
  let status ← AttemptStatus.parse status
  let logPath ← read attemptColumns row "log_path" (SqlValue.nullable? SqlValue.text?)
  let failureSummary ← read attemptColumns row "failure_summary" (SqlValue.nullable? SqlValue.json?)
  let createdAt ← read attemptColumns row "created_at" SqlValue.time?
  let updatedAt ← read attemptColumns row "updated_at" SqlValue.time?
  let endedAt ← read attemptColumns row "ended_at" (SqlValue.nullable? SqlValue.time?)
  return {
    number, status, logPath, failureSummary, createdAt, updatedAt, endedAt
    output := output.bind SyncOutput.ofAttemptOutput? }

/-- The attempt in a row, with the job it belongs to. -/
def ownedAttempt (row : Row) : Except HistoryError (JobId × Attempt) := do
  let id ← read attemptColumns row "job_id" SqlValue.int?
  return (id, ← attempt row)

/-- A counter, zero where there is none. -/
def counter (c : Columns) (row : Row) (name : String) : Except HistoryError Int := do
  return (← read c row name (SqlValue.nullable? SqlValue.int?)).getD 0

/-- The four counters in a row. -/
def counters (c : Columns) (row : Row) : Except HistoryError SyncStats := do
  let recordsEmitted ← counter c row "records_emitted"
  let bytesEmitted ← counter c row "bytes_emitted"
  let recordsCommitted ← counter c row "records_committed"
  let bytesCommitted ← counter c row "bytes_committed"
  return { recordsEmitted, bytesEmitted, recordsCommitted, bytesCommitted }

/-- The totals in a row, with the number of their attempt. -/
def totals (row : Row) : Except HistoryError (Int × SyncStats) := do
  let number ← read totalsColumns row "attempt_number" SqlValue.int?
  return (number, ← counters totalsColumns row)

/-- The statistics of a stream in a row, with the number of their attempt. -/
def stream (row : Row) : Except HistoryError (Int × StreamStats) := do
  let number ← read streamColumns row "attempt_number" SqlValue.int?
  let name ← read streamColumns row "stream_name" SqlValue.text?
  let nameSpace ← read streamColumns row "stream_namespace" (SqlValue.nullable? SqlValue.text?)
  return (number, ⟨⟨name, nameSpace⟩, ← counters streamColumns row⟩)

/-- The latest job of a scope, in a row. -/
def summary (row : Row) : Except HistoryError JobSummary := do
  let status ← read summaryColumns row "status" SqlValue.text?
  let createdAt ← read summaryColumns row "created_at" SqlValue.time?
  let jobId ← read summaryColumns row "id" SqlValue.int?
  let connectionId ← read summaryColumns row "scope" SqlValue.text?
  let status ← JobStatus.parse status
  return { jobId, connectionId, createdAt, status }

/-- Has anything failed? An empty list of failures means that nothing has. -/
def hasFailures : Option Json → Bool
  | none | some .null => false
  | some (.arr failures) => !failures.isEmpty
  | some _ => true

/-- How an attempt was normalised, in a row. -/
def normalization (row : Row) : Except HistoryError NormalizationStatus := do
  let failures ← read normalizationColumns row "failures" (SqlValue.nullable? SqlValue.json?)
  let attemptNumber ← read normalizationColumns row "attempt_number" SqlValue.int?
  let recordsCommitted ←
    read normalizationColumns row "records_committed" (SqlValue.nullable? SqlValue.int?)
  return { attemptNumber, recordsCommitted, hasFailed := hasFailures failures }

/-! ## Putting rows together -/

/-- Puts an attempt behind those of the same job; a job that has none so far comes last. -/
def addAttempt (owned : JobId × Attempt) : List (JobId × List Attempt) → List (JobId × List Attempt)
  | [] => [(owned.1, [owned.2])]
  | group :: rest =>
    if group.1 = owned.1 then (group.1, group.2 ++ [owned.2]) :: rest
    else group :: addAttempt owned rest

/-- Attempts by the number of their job, those of one job in the order they came. -/
def byJob (owned : List (JobId × Attempt)) : List (JobId × List Attempt) :=
  owned.foldl (fun groups o => addAttempt o groups) []

/-- Hands the attempts out to the jobs whose number they carry. What is handed out is gone, so of jobs
with the same number the first one gets them. -/
def attach : (groups : List (JobId × List Attempt)) → List Job → List Job
  | _, [] => []
  | groups, job :: rest =>
    { job with attempts := (groups.lookup job.id).getD [] } ::
      attach (groups.filter fun group => group.1 != job.id) rest

/-- Changes the statistics of the attempt with a number in a list that is ordered by number; there is an
entry for it afterwards. -/
def changeAt (number : Int) (change : AttemptStats → AttemptStats) :
    List AttemptStats → List AttemptStats
  | [] => [change (.empty number)]
  | s :: rest =>
    if number < s.attemptNumber then change (.empty number) :: s :: rest
    else if number = s.attemptNumber then change s :: rest
    else s :: changeAt number change rest

/-- The statistics of attempts, ordered by number: of several totals of an attempt the last ones count,
and its streams are all that were found, in order. -/
def gather (totals : List (Int × SyncStats)) (streams : List (Int × StreamStats)) :
    List AttemptStats :=
  let withTotals := totals.foldl
    (fun all (number, totals) => changeAt number (fun s => { s with totals }) all) []
  streams.foldl
    (fun all (number, stream) => changeAt number (fun s => { s with streams := s.streams ++ [stream] }) all)
    withTotals

/-! ## Answers -/

/-- The rows that answer a statement. -/
def rows (statement : Statement) : Transaction (List Row) :=
  ExceptT.mk do
    let answer : Except DatabaseFault (List Row) ← Prog.query (I := database) statement
    return answer.mapError fun fault => .transient (.database fault)

/-- A value that is known already, or a failure. -/
def ofExcept (outcome : Except HistoryError α) : Transaction α :=
  ExceptT.mk (pure outcome)

/-- A value that is known already, or a fault of the database. -/
def ofFault (outcome : Except DatabaseFault α) : Transaction α :=
  ofExcept (outcome.mapError fun fault => .transient (.database fault))

/-- The jobs with their attempts; nothing is asked about no job. -/
def withAttempts (jobs : List Job) : Transaction (List Job) := do
  if jobs.isEmpty then return []
  let found ← rows (attemptsStatement (jobs.map (·.id)))
  let owned ← ofExcept (found.mapM ownedAttempt)
  return attach (byJob owned) jobs

/-- The jobs that pass a filter, in order, or a section of them. -/
def listJobs (filter : JobFilter) (order : JobOrder) (window : Option Window) :
    Transaction (List Job) := do
  let found ← rows (listStatement filter order window)
  withAttempts (← ofExcept (found.mapM job))

/-- The number of jobs that pass a filter. -/
def countJobs (filter : JobFilter) : Transaction Nat := do
  let found ← rows (countStatement filter)
  let row ← ofFault (Row.one found)
  let count ← ofExcept (read countColumns row "count" SqlValue.int?)
  return count.toNat

/-- The place of a job in the listing of a filter, a number of 64 bits. -/
def position (filter : JobFilter) (order : JobOrder) (id : JobId) : Transaction (Option Nat) := do
  let found ← rows (positionStatement filter order id)
  match ← ofFault (Row.atMostOne found) with
  | some row =>
    let position ← ofExcept (read positionColumns row "position" SqlValue.int?)
    return some (position % Nat.pow 2 64).toNat
  | none => return none

/-- The job with an identifier, if there is one. -/
def getJob (id : JobId) : Transaction (Option Job) := do
  let found ← rows (jobStatement id)
  match ← ofFault (Row.atMostOne found) with
  | some row => return (← withAttempts [← ofExcept (job row)]).getLast?
  | none => return none

/-- The newest job of each scope; nothing is asked about no scope. -/
def latest (scopes : List String) (configTypes : List ConfigType) : Transaction (List JobSummary) := do
  if scopes.isEmpty then return []
  let found ← rows (latestStatement scopes configTypes)
  ofExcept (found.mapM summary)

/-- The statistics of the attempts at a job, or of one of them. Both statements are answered before any
row is read. -/
def stats (id : JobId) (number : Option Int) : Transaction (List AttemptStats) := do
  let totalsRows ← rows (totalsStatement id number)
  let streamRows ← rows (streamsStatement id number)
  let totals ← ofExcept (totalsRows.mapM totals)
  let streams ← ofExcept (streamRows.mapM stream)
  return gather totals streams

/-- The statistics of one attempt at a job. -/
def attemptStats (id : JobId) (number : Int) : Transaction AttemptStats := do
  return ((← stats id (some number)).head?).getD (.empty number)

/-- How the data of each attempt at a job was normalised. -/
def normalizationStatuses (id : JobId) : Transaction (List NormalizationStatus) := do
  let found ← rows (normalizationStatement id)
  ofExcept (found.mapM normalization)

/-- The answer to a question. -/
def answer : (q : JobQuery) → Transaction q.Result
  | .list filter order window => listJobs filter order window
  | .count filter => countJobs filter
  | .position filter order id => position filter order id
  | .get id => getJob id
  | .latest scopes configTypes => latest scopes configTypes
  | .jobStats id => stats id none
  | .attemptStats id number => attemptStats id number
  | .normalization id => normalizationStatuses id

end Postgres

end SyncHistory
