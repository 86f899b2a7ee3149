import SyncHistory.Postgres.Jobs
import SyncHistory.Proofs.Conversation
import SyncHistory.Proofs.JobRow

/-!
# Attempts and the jobs they belong to

Jobs and their attempts come in the answers to two statements. `Row.ShowsJob` and `Row.ShowsAttempt` say
what the columns of a row hold, and reading a row finds just that (`Postgres.job_eq_ok`,
`Postgres.ownedAttempt_eq_ok`). Attempts are collected by the number of their job: one more attempt
changes what is collected for its own job and for no other (`Postgres.collected_addAttempt`), so that in
the end each job has the attempts with its number, in the order of their rows
(`Postgres.collected_byJob`). Handing them out takes away what belongs to one job and leaves the rest
(`Postgres.attach_eq`).

`attempts_attached` says what comes of the answers of a database, whatever rows they have.
-/

namespace SyncHistory

/-! ## Rows -/

namespace SqlValue

theorem int?_eq_some {v : SqlValue} {n : Int} : v.int? = some n ↔ v = .int n := by
  cases v <;> simp [int?]

theorem text?_eq_some {v : SqlValue} {s : String} : v.text? = some s ↔ v = .text s := by
  cases v <;> simp [text?]

theorem time?_eq_some {v : SqlValue} {t : Instant} : v.time? = some t ↔ v = .time t := by
  cases v <;> simp [time?]

theorem json?_eq_some {v : SqlValue} {j : Json} : v.json? = some j ↔ v = .json j := by
  cases v <;> simp [json?]

/-- A column that may be null is read as nothing where it is null, and else as its value. -/
theorem nullable?_eq_some {read : SqlValue → Option α} {write : α → SqlValue}
    (reads : ∀ v a, read v = some a ↔ v = write a) (notNull : ∀ a, write a ≠ .null) {v : SqlValue}
    {found : Option α} : nullable? read v = some found ↔ v = (found.map write).getD .null := by
  by_cases h : v = .null
  · subst h
    cases found with
    | none => simp [nullable?]
    | some a => simpa [nullable?] using (notNull a).symm
  · have value : nullable? read v = (read v).map some := by
      cases v <;> first | rfl | exact absurd rfl h
    cases found with
    | none => simpa [value] using h
    | some a => simp [value, reads]

end SqlValue

/-- The columns of a row hold what the job has; its attempts are not in the row. -/
structure Row.ShowsJob (row : Row) (job : Job) : Prop where
  id : row.get "id" = .int job.id
  configType : ∃ token, row.get "config_type" = .text token ∧ ConfigType.parse token = .ok job.configType
  scope : row.get "scope" = .text job.scope
  catalog : ∃ config : Option Json, row.get "config" = (config.map SqlValue.json).getD .null ∧
    config.bind Catalog.ofJobConfig? = job.catalog
  status : ∃ token, row.get "status" = .text token ∧ JobStatus.parse token = .ok job.status
  createdAt : row.get "created_at" = .time job.createdAt
  updatedAt : row.get "updated_at" = .time job.updatedAt
  startedAt : row.get "started_at" = (job.startedAt.map SqlValue.time).getD .null
  attempts : job.attempts = []

/-- The columns of a row hold the number of a job and what an attempt at it has. -/
structure Row.ShowsAttempt (row : Row) (owned : JobId × Attempt) : Prop where
  jobId : row.get "job_id" = .int owned.1
  number : row.get "attempt_number" = .int owned.2.number
  status : ∃ token, row.get "status" = .text token ∧ AttemptStatus.parse token = .ok owned.2.status
  logPath : row.get "log_path" = (owned.2.logPath.map SqlValue.text).getD .null
  output : ∃ output : Option Json, row.get "output" = (output.map SqlValue.json).getD .null ∧
    output.bind SyncOutput.ofAttemptOutput? = owned.2.output
  failureSummary : row.get "failure_summary" = (owned.2.failureSummary.map SqlValue.json).getD .null
  createdAt : row.get "created_at" = .time owned.2.createdAt
  updatedAt : row.get "updated_at" = .time owned.2.updatedAt
  endedAt : row.get "ended_at" = (owned.2.endedAt.map SqlValue.time).getD .null

namespace Postgres

section Read

variable {c : Columns} {row : Row} {name : String}

theorem read_eq_ok {α : Type} {decode : SqlValue → Option α} {a : α} :
    read c row name decode = .ok a ↔ decode (row.get name) = some a := by
  rw [read, mapError_eq_ok, Columns.read]
  cases decode (row.get name) <;> simp

theorem read_int {n : Int} : read c row name SqlValue.int? = .ok n ↔ row.get name = .int n :=
  read_eq_ok.trans SqlValue.int?_eq_some

theorem read_text {s : String} : read c row name SqlValue.text? = .ok s ↔ row.get name = .text s :=
  read_eq_ok.trans SqlValue.text?_eq_some

theorem read_time {t : Instant} : read c row name SqlValue.time? = .ok t ↔ row.get name = .time t :=
  read_eq_ok.trans SqlValue.time?_eq_some

theorem read_nullable_text {s : Option String} :
    read c row name (SqlValue.nullable? SqlValue.text?) = .ok s ↔
      row.get name = (s.map SqlValue.text).getD .null :=
  read_eq_ok.trans (SqlValue.nullable?_eq_some (fun _ _ => SqlValue.text?_eq_some) (by simp))

theorem read_nullable_time {t : Option Instant} :
    read c row name (SqlValue.nullable? SqlValue.time?) = .ok t ↔
      row.get name = (t.map SqlValue.time).getD .null :=
  read_eq_ok.trans (SqlValue.nullable?_eq_some (fun _ _ => SqlValue.time?_eq_some) (by simp))

theorem read_nullable_json {j : Option Json} :
    read c row name (SqlValue.nullable? SqlValue.json?) = .ok j ↔
      row.get name = (j.map SqlValue.json).getD .null :=
  read_eq_ok.trans (SqlValue.nullable?_eq_some (fun _ _ => SqlValue.json?_eq_some) (by simp))

end Read

/-- Reading a row finds the job that the row shows, and fails where it shows none. -/
theorem job_eq_ok {row : Row} {found : Job} : job row = .ok found ↔ row.ShowsJob found := by
  unfold job
  simp only [bind_eq_ok, read_int, read_text, read_time, read_nullable_time, read_nullable_json]
  constructor
  · intro read
    obtain ⟨config, configRead, token, status, kind, configType, id, idRead, _, kindParsed, scope,
      scopeRead, _, statusParsed, createdAt, created, updatedAt, updated, startedAt, started, done⟩ := read
    cases done
    exact ⟨idRead, ⟨kind, configType, kindParsed⟩, scopeRead, ⟨config, configRead, rfl⟩,
      ⟨token, status, statusParsed⟩, created, updated, started, rfl⟩
  · intro shows
    obtain ⟨id, ⟨kind, configType, kindParsed⟩, scope, ⟨config, configRead, catalog⟩,
      ⟨token, status, statusParsed⟩, created, updated, started, attempts⟩ := shows
    refine ⟨config, configRead, token, status, kind, configType, _, id, _, kindParsed, _, scope, _,
      statusParsed, _, created, _, updated, _, started, ?_⟩
    rw [catalog, ← attempts]
    rfl

theorem ownedAttempt_eq_ok {row : Row} {found : JobId × Attempt} :
    ownedAttempt row = .ok found ↔ row.ShowsAttempt found := by
  unfold ownedAttempt attempt
  simp only [bind_eq_ok, read_int, read_text, read_time, read_nullable_text, read_nullable_time,
    read_nullable_json]
  constructor
  · intro read
    obtain ⟨jobId, jobIdRead, _, ⟨token, status, output, outputRead, number, numberRead, _, statusParsed,
      logPath, logPathRead, failureSummary, failureRead, createdAt, created, updatedAt, updated, endedAt,
      ended, attempt⟩, done⟩ := read
    cases attempt
    cases done
    exact ⟨jobIdRead, numberRead, ⟨token, status, statusParsed⟩, logPathRead, ⟨output, outputRead, rfl⟩,
      failureRead, created, updated, ended⟩
  · intro shows
    obtain ⟨jobId, number, ⟨token, status, statusParsed⟩, logPath, ⟨output, outputRead, reported⟩,
      failureSummary, created, updated, ended⟩ := shows
    refine ⟨_, jobId, found.2, ⟨token, status, output, outputRead, _, number, _, statusParsed, _, logPath,
      _, failureSummary, _, created, _, updated, _, ended, ?_⟩, rfl⟩
    rw [reported]
    rfl

/-! ## Collecting attempts -/

/-- The attempts that are collected for a job. -/
def collected (groups : List (JobId × List Attempt)) (id : JobId) : List Attempt :=
  (groups.lookup id).getD []

theorem collected_cons (group : JobId × List Attempt) (rest : List (JobId × List Attempt)) (id : JobId) :
    collected (group :: rest) id = if group.1 = id then group.2 else collected rest id := by
  unfold collected
  rw [List.lookup_cons]
  by_cases own : group.1 = id
  · simp [own]
  · simp [own, beq_false_of_ne (Ne.symm own)]

/-- One more attempt comes last among those of its job and bears on no other job. -/
theorem collected_addAttempt (owned : JobId × Attempt) (groups : List (JobId × List Attempt)) (id : JobId) :
    collected (addAttempt owned groups) id =
      if owned.1 = id then collected groups id ++ [owned.2] else collected groups id := by
  induction groups with
  | nil =>
    rw [addAttempt, collected_cons]
    simp [collected]
  | cons group rest ih =>
    rw [addAttempt]
    by_cases same : group.1 = owned.1
    · rw [if_pos same, collected_cons, collected_cons, same]
      split <;> rfl
    · rw [if_neg same, collected_cons, collected_cons, ih]
      by_cases own : owned.1 = id
      · rw [if_neg (fun first => same (first.trans own.symm)), if_pos own, if_pos own,
          if_neg (fun first => same (first.trans own.symm))]
      · rw [if_neg own, if_neg own]

/-- The attempts that carry the number of a job, in the order of their rows. -/
def attemptsOf (owned : List (JobId × Attempt)) (id : JobId) : List Attempt :=
  (owned.filter (·.1 = id)).map (·.2)

theorem attemptsOf_cons (first : JobId × Attempt) (rest : List (JobId × Attempt)) (id : JobId) :
    attemptsOf (first :: rest) id =
      if first.1 = id then first.2 :: attemptsOf rest id else attemptsOf rest id := by
  unfold attemptsOf
  by_cases own : first.1 = id <;> simp [own]

/-- What is collected in the end is what was there before, and behind it the attempts of the job. -/
theorem collected_foldl (owned : List (JobId × Attempt)) (groups : List (JobId × List Attempt)) (id : JobId) :
    collected (owned.foldl (fun groups o => addAttempt o groups) groups) id =
      collected groups id ++ attemptsOf owned id := by
  induction owned generalizing groups with
  | nil => simp [attemptsOf]
  | cons first rest ih =>
    rw [List.foldl_cons, ih, collected_addAttempt, attemptsOf_cons]
    by_cases own : first.1 = id <;> simp [own]

theorem collected_byJob (owned : List (JobId × Attempt)) (id : JobId) :
    collected (byJob owned) id = attemptsOf owned id := by
  rw [byJob, collected_foldl]
  rfl

/-! ## Handing attempts out -/

/-- Taking away what belongs to one job leaves the attempts of every other. -/
theorem collected_filter {groups : List (JobId × List Attempt)} {taken id : JobId} (other : id ≠ taken) :
    collected (groups.filter fun group => group.1 != taken) id = collected groups id := by
  induction groups with
  | nil => rfl
  | cons group rest ih =>
    by_cases own : group.1 = taken
    · simp [own, collected_cons, ih, Ne.symm other]
    · simp [own, collected_cons, ih]

/-- Jobs with pairwise different numbers all get what is collected for them. -/
theorem attach_eq {jobs : List Job} (distinct : (jobs.map Job.id).Nodup)
    (groups : List (JobId × List Attempt)) :
    attach groups jobs = jobs.map fun job => { job with attempts := collected groups job.id } := by
  induction jobs generalizing groups with
  | nil => rfl
  | cons job rest ih =>
    rw [List.map_cons, List.nodup_cons] at distinct
    rw [attach, List.map_cons, ih distinct.2]
    refine congrArg (_ :: ·) (List.map_congr_left ?_)
    intro later mem
    have other : later.id ≠ job.id := by
      intro same
      exact distinct.1 (same ▸ List.mem_map_of_mem mem)
    rw [collected_filter other]

/-- The jobs, each with the attempts that carry its number. -/
def withOwn (owned : List (JobId × Attempt)) (jobs : List Job) : List Job :=
  jobs.map fun job => { job with attempts := attemptsOf owned job.id }

theorem attach_byJob {jobs : List Job} (distinct : (jobs.map Job.id).Nodup)
    (owned : List (JobId × Attempt)) : attach (byJob owned) jobs = withOwn owned jobs := by
  rw [attach_eq distinct, withOwn]
  simp only [collected_byJob]

/-- Jobs with pairwise different numbers share no attempt, and what they have together are the attempts
that carry the number of one of them. -/
theorem flatMap_filter_perm (owned : List (JobId × Attempt)) {ids : List JobId} (distinct : ids.Nodup) :
    (ids.flatMap fun id => owned.filter (·.1 = id)).Perm (owned.filter (·.1 ∈ ids)) := by
  induction ids with
  | nil => simp
  | cons id ids ih =>
    rw [List.nodup_cons] at distinct
    have own : (owned.filter (·.1 ∈ id :: ids)).filter (·.1 = id) = owned.filter (·.1 = id) := by
      rw [List.filter_filter]
      refine List.filter_congr ?_
      intro o _
      by_cases h : o.1 = id <;> simp [h]
    have others : (owned.filter (·.1 ∈ id :: ids)).filter (fun o => !decide (o.1 = id)) =
        owned.filter (·.1 ∈ ids) := by
      rw [List.filter_filter]
      refine List.filter_congr ?_
      intro o _
      by_cases h : o.1 = id
      · simp [h, distinct.1]
      · simp [h]
    have split := List.filter_append_perm (·.1 = id) (owned.filter (·.1 ∈ id :: ids))
    rw [own, others] at split
    rw [List.flatMap_cons]
    exact ((ih distinct.2).append_left _).trans split

/-! ## Conversations with a database -/

/-- The reply to a statement that has rows. -/
abbrev reply (statement : Statement) (rows : List Row) : Exchange database :=
  ⟨statement, Except.ok rows⟩

variable {α β : Type} {statement : Statement} {found : List Row} {t : List (Exchange database)}
  {outcome : Except HistoryError β}

theorem rows_converses {f : List Row → Transaction β} (rest : (ExceptT.run (f found)).Converses t outcome) :
    (ExceptT.run (rows statement >>= f)).Converses (reply statement found :: t) outcome :=
  .ask rest

theorem ofExcept_converses {x : Except HistoryError α} {a : α} {f : α → Transaction β} (known : x = .ok a)
    (rest : (ExceptT.run (f a)).Converses t outcome) :
    (ExceptT.run (ofExcept x >>= f)).Converses t outcome := by
  subst known
  exact rest

theorem ofExcept_fails {x : Except HistoryError α} {e : HistoryError} {f : α → Transaction β}
    (failed : x = .error e) : (ExceptT.run (ofExcept x >>= f)).Converses [] (.error e) := by
  subst failed
  exact .done _

/-- Where one of several rows cannot be read, reading them fails as one of them does. -/
theorem mapM_unreadable {read : Row → Except HistoryError α} {Shows : Row → α → Prop}
    (reads : ∀ row a, read row = .ok a ↔ Shows row a) {rows : List Row}
    (unreadable : ∃ row ∈ rows, ∀ a, ¬ Shows row a) :
    ∃ row ∈ rows, ∃ e, read row = .error e ∧ rows.mapM read = .error e := by
  cases h : rows.mapM read with
  | ok as =>
    obtain ⟨row, mem, never⟩ := unreadable
    obtain ⟨a, done⟩ := exists_mapM_eq_ok.mp ⟨as, h⟩ row mem
    exact absurd ((reads row a).mp done) (never a)
  | error e =>
    obtain ⟨row, mem, failed⟩ := exists_of_mapM_eq_error h
    exact ⟨row, mem, e, failed, rfl⟩

section Attempts

variable {jobs : List Job} {attemptRows : List Row}

/-- The statement for the attempts of jobs, with rows for a reply. -/
abbrev attemptsReply (jobs : List Job) (attemptRows : List Row) : Exchange database :=
  reply (attemptsStatement (jobs.map Job.id)) attemptRows

theorem withAttempts_eq (some : jobs ≠ []) :
    withAttempts jobs = (do
      let found ← rows (attemptsStatement (jobs.map Job.id))
      let owned ← ofExcept (found.mapM ownedAttempt)
      return attach (byJob owned) jobs) := by
  cases jobs with
  | nil => exact absurd rfl some
  | cons job rest => rfl

theorem withAttempts_converses {owned : List (JobId × Attempt)} (some : jobs ≠ [])
    (distinct : (jobs.map Job.id).Nodup) (shown : List.Forall₂ Row.ShowsAttempt attemptRows owned) :
    (ExceptT.run (withAttempts jobs)).Converses [attemptsReply jobs attemptRows]
      (.ok (withOwn owned jobs)) := by
  have read : attemptRows.mapM ownedAttempt = .ok owned :=
    mapM_eq_ok.mpr (shown.imp fun _ _ => ownedAttempt_eq_ok.mpr)
  rw [withAttempts_eq some, ← attach_byJob distinct]
  exact rows_converses (ofExcept_converses read (.done _))

theorem withAttempts_fails (some : jobs ≠ []) {e : HistoryError}
    (failed : attemptRows.mapM ownedAttempt = .error e) :
    (ExceptT.run (withAttempts jobs)).Converses [attemptsReply jobs attemptRows] (.error e) := by
  rw [withAttempts_eq some]
  exact rows_converses (ofExcept_fails failed)

end Attempts

section Load

variable {filter : JobFilter} {order : JobOrder} {window : Option Window} {id : JobId}
  {t : List (Exchange database)}

/-- A listing comes to what loading the attempts of its jobs comes to. -/
theorem listJobs_converses {jobRows : List Row} {jobs : List Job} {outcome : Except HistoryError (List Job)}
    (shown : List.Forall₂ Row.ShowsJob jobRows jobs)
    (loaded : (ExceptT.run (withAttempts jobs)).Converses t outcome) :
    (ExceptT.run (listJobs filter order window)).Converses
      (reply (listStatement filter order window) jobRows :: t) outcome := by
  have read : jobRows.mapM job = .ok jobs := mapM_eq_ok.mpr (shown.imp fun _ _ => job_eq_ok.mpr)
  exact rows_converses (ofExcept_converses read loaded)

/-- A single job is the last one of a listing of its own. -/
theorem getJob_converses {row : Row} {found : Job} {outcome : Except HistoryError (List Job)}
    (shown : row.ShowsJob found) (loaded : (ExceptT.run (withAttempts [found])).Converses t outcome) :
    (ExceptT.run (getJob id)).Converses (reply (jobStatement id) [row] :: t)
      (outcome.map List.getLast?) := by
  refine rows_converses (ofExcept_converses rfl (ofExcept_converses (job_eq_ok.mpr shown) ?_))
  refine Prog.converses_bind.mpr ⟨t, [], outcome, (List.append_nil t).symm, loaded, ?_⟩
  cases outcome with
  | ok jobs => exact .done _
  | error e => exact .done _

theorem getJob_absent : (ExceptT.run (getJob id)).Converses [reply (jobStatement id) []] (.ok none) := by
  refine rows_converses (ofExcept_converses rfl ?_)
  exact .done _

theorem getJob_fails {row : Row} {e : HistoryError} (failed : job row = .error e) :
    (ExceptT.run (getJob id)).Converses [reply (jobStatement id) [row]] (.error e) :=
  rows_converses (ofExcept_converses rfl (ofExcept_fails failed))

end Load

/-- What belongs to jobs is attached to them, and to no others. -/
structure Attached (jobs : List Job) (owned : List (JobId × Attempt)) (listed : List Job) : Prop where
  /-- They are the same jobs in the same order, with everything that is their own. -/
  same : listed.map Job.withoutAttempts = jobs
  /-- Each has the attempts that carry its number, in the order of the rows. -/
  own : ∀ job ∈ listed, job.attempts = (owned.filter (·.1 = job.id)).map (·.2)
  /-- The attempts of all jobs together are those that carry the number of one of them, each as often as
  there are rows for it. -/
  kept : (listed.flatMap fun job => job.attempts.map (job.id, ·)).Perm
    (owned.filter (·.1 ∈ jobs.map Job.id))
  /-- If the rows are sorted by job and number, every job has its attempts in ascending order. -/
  ascending : (owned.Pairwise fun a b => a.1 < b.1 ∨ a.1 = b.1 ∧ a.2.number ≤ b.2.number) →
    ∀ job ∈ listed, job.attempts.Pairwise fun a b => a.number ≤ b.number

theorem withOwn_attached {jobs : List Job} (distinct : (jobs.map Job.id).Nodup)
    (bare : ∀ job ∈ jobs, job.attempts = []) (owned : List (JobId × Attempt)) :
    Attached jobs owned (withOwn owned jobs) where
  same := by
    rw [withOwn, List.map_map]
    refine (List.map_congr_left ?_).trans (List.map_id jobs)
    intro job mem
    show { job with attempts := [] } = job
    rw [← bare job mem]
  own := by
    intro job mem
    obtain ⟨own, -, rfl⟩ := List.mem_map.mp mem
    rfl
  kept := by
    have carried (id : JobId) : (attemptsOf owned id).map (id, ·) = owned.filter (·.1 = id) := by
      rw [attemptsOf, List.map_map]
      refine (List.map_congr_left ?_).trans (List.map_id _)
      intro o mem
      rw [← of_decide_eq_true (List.mem_filter.mp mem).2]
      rfl
    have perm := flatMap_filter_perm owned distinct
    rw [List.flatMap_map] at perm
    rw [withOwn, List.flatMap_map]
    simpa only [carried] using perm
  ascending := by
    intro sorted job mem
    obtain ⟨own, -, rfl⟩ := List.mem_map.mp mem
    refine List.pairwise_map.mpr (List.Pairwise.imp_of_mem ?_ (sorted.filter _))
    intro a b memA memB before
    have ownA : a.1 = own.id := of_decide_eq_true (List.mem_filter.mp memA).2
    have ownB : b.1 = own.id := of_decide_eq_true (List.mem_filter.mp memB).2
    rw [ownA, ownB] at before
    exact (before.resolve_left (Int.lt_irrefl _)).2

end Postgres

open Postgres

/-- **Attempts are attached to the right jobs.** A database answers the statements for a listing with rows
whatever. If every row can be read and the jobs have pairwise different numbers, the listing has these jobs
with their attempts (`Postgres.Attached`), and the row of one of them alone, with the same attempts for its
number, is the same job. If a row of a job cannot be read, or one of an attempt, whether or not its job is
listed, the failure of reading such a row is all that comes of it. Without a row of a job nothing is asked
about attempts. -/
theorem attempts_attached (filter : JobFilter) (order : JobOrder) (window : Option Window) (id : JobId) :
    let listing := ExceptT.run (answer (.list filter order window))
    let single := ExceptT.run (answer (.get id))
    let listed (rows : List Row) := reply (listStatement filter order window) rows
    let found (rows : List Row) := reply (jobStatement id) rows
    (listing.EndsIn [listed []] (.ok []) ∧ single.EndsIn [found []] (.ok none)) ∧
    (∀ jobRows : List Row, (∃ row ∈ jobRows, ∀ job, ¬ row.ShowsJob job) →
      ∃ row ∈ jobRows, ∃ e, job row = .error e ∧ listing.EndsIn [listed jobRows] (.error e) ∧
        (jobRows = [row] → single.EndsIn [found jobRows] (.error e))) ∧
    ∀ (jobRows : List Row) (jobs : List Job), List.Forall₂ Row.ShowsJob jobRows jobs → jobs ≠ [] →
      (∀ attemptRows : List Row, (∃ row ∈ attemptRows, ∀ owned, ¬ row.ShowsAttempt owned) →
        ∃ row ∈ attemptRows, ∃ e, ownedAttempt row = .error e ∧
          listing.EndsIn [listed jobRows, attemptsReply jobs attemptRows] (.error e) ∧
          (jobs.length = 1 → single.EndsIn [found jobRows, attemptsReply jobs attemptRows] (.error e))) ∧
      ((jobs.map Job.id).Nodup →
        ∀ (attemptRows : List Row) (owned : List (JobId × Attempt)),
          List.Forall₂ Row.ShowsAttempt attemptRows owned →
          ∃ whole, listing.EndsIn [listed jobRows, attemptsReply jobs attemptRows] (.ok whole) ∧
            Attached jobs owned whole ∧
            List.Forall₂ (fun row job => ∀ (attemptRows' : List Row) (owned' : List (JobId × Attempt)),
              List.Forall₂ Row.ShowsAttempt attemptRows' owned' →
              owned'.filter (·.1 = job.id) = owned.filter (·.1 = job.id) →
              single.EndsIn [found [row], attemptsReply [job] attemptRows'] (.ok (some job)))
              jobRows whole) := by
  intro listing single listed found
  refine ⟨⟨?_, ?_⟩, ?_, ?_⟩
  · exact (listJobs_converses .nil (.done _)).endsIn
  · exact getJob_absent.endsIn
  · intro jobRows unreadable
    obtain ⟨row, mem, e, failed, all⟩ := mapM_unreadable (fun _ _ => job_eq_ok) unreadable
    refine ⟨row, mem, e, failed, (rows_converses (ofExcept_fails all)).endsIn, ?_⟩
    intro alone
    rw [alone]
    exact (getJob_fails failed).endsIn
  · intro jobRows jobs shown some
    refine ⟨?_, ?_⟩
    · intro attemptRows unreadable
      obtain ⟨row, mem, e, failed, all⟩ := mapM_unreadable (fun _ _ => ownedAttempt_eq_ok) unreadable
      refine ⟨row, mem, e, failed, (listJobs_converses shown (withAttempts_fails some all)).endsIn, ?_⟩
      intro one
      obtain ⟨job, rfl⟩ := List.length_eq_one_iff.mp one
      cases shown with
      | cons shown rest =>
        cases rest
        exact (getJob_converses shown (withAttempts_fails some all)).endsIn
    · intro distinct attemptRows owned shownAttempts
      have bare : ∀ job ∈ jobs, job.attempts = [] :=
        ((List.forall₂_and_left jobs jobRows).mp (shown.flip.imp fun _ _ own => ⟨own.attempts, own⟩)).1
      refine ⟨withOwn owned jobs, ?_, withOwn_attached distinct bare owned, ?_⟩
      · exact (listJobs_converses shown (withAttempts_converses some distinct shownAttempts)).endsIn
      · refine List.forall₂_map_right_iff.mpr (shown.imp ?_)
        intro row job own attemptRows' owned' shown' same
        have loaded := withAttempts_converses (List.cons_ne_nil job []) (by simp) shown'
        have alone : single.EndsIn [found [row], attemptsReply [job] attemptRows'] _ :=
          (getJob_converses own loaded).endsIn
        rw [withOwn, List.map_singleton, attemptsOf, same] at alone
        exact alone

/-- Two jobs, the newer one with two attempts, and an attempt at a job that is not listed; then the same
rows and one whose status nobody knows. -/
theorem attempts_attached_two :
    let jobRow (id : Int) : Row := ⟨[("id", .int id), ("config_type", .text "sync"), ("scope", .text "c"),
      ("status", .text "failed"), ("created_at", .time ⟨id, 0⟩), ("updated_at", .time ⟨id, 0⟩)]⟩
    let attemptRow (id number : Int) (status : String) : Row := ⟨[("job_id", .int id),
      ("attempt_number", .int number), ("status", .text status), ("created_at", .time ⟨id, 0⟩),
      ("updated_at", .time ⟨id, 0⟩)]⟩
    let job (id : Int) (attempts : List Attempt) : Job :=
      ⟨id, .sync, "c", none, .failed, ⟨id, 0⟩, ⟨id, 0⟩, none, attempts⟩
    let attempt (id number : Int) : Attempt :=
      ⟨number, .failed, none, none, none, ⟨id, 0⟩, ⟨id, 0⟩, none⟩
    let filter := JobFilter.ofScope [.sync] .unscoped
    let listing := ExceptT.run (answer (.list filter .newestFirst none))
    let listed := reply (listStatement filter .newestFirst none) [jobRow 7, jobRow 5]
    let attemptRows := [attemptRow 7 0 "failed", attemptRow 5 0 "failed", attemptRow 6 0 "FAILED",
      attemptRow 7 1 "failed"]
    (jobRow 7).ShowsJob (job 7 []) ∧ (attemptRow 6 0 "FAILED").ShowsAttempt (6, attempt 6 0) ∧
    listing.EndsIn [listed, attemptsReply [job 7 [], job 5 []] attemptRows]
      (.ok [job 7 [attempt 7 0, attempt 7 1], job 5 [attempt 5 0]]) ∧
    (ExceptT.run (answer (.get 5))).EndsIn
      [reply (jobStatement 5) [jobRow 5], attemptsReply [job 5 []] [attemptRow 5 0 "failed"]]
      (.ok (some (job 5 [attempt 5 0]))) ∧
    ∃ e, listing.EndsIn
      [listed, attemptsReply [job 7 [], job 5 []] (attemptRow 6 1 "stuck" :: attemptRows)] (.error e) := by
  intro jobRow attemptRow job attempt filter listing listed attemptRows
  have showsJob (id : Int) : (jobRow id).ShowsJob (job id []) :=
    ⟨rfl, ⟨"sync", rfl, rfl⟩, rfl, ⟨none, rfl, rfl⟩, ⟨"failed", rfl, rfl⟩, rfl, rfl, rfl, rfl⟩
  have showsAttempt (id number : Int) (status : String) (known : AttemptStatus.parse status = .ok .failed) :
      (attemptRow id number status).ShowsAttempt (id, attempt id number) :=
    ⟨rfl, rfl, ⟨status, rfl, known⟩, rfl, ⟨none, rfl, rfl⟩, rfl, rfl, rfl, rfl⟩
  have jobs : List.Forall₂ Row.ShowsJob [jobRow 7, jobRow 5] [job 7 [], job 5 []] :=
    .cons (showsJob 7) (.cons (showsJob 5) .nil)
  have attempts : List.Forall₂ Row.ShowsAttempt attemptRows
      [(7, attempt 7 0), (5, attempt 5 0), (6, attempt 6 0), (7, attempt 7 1)] :=
    .cons (showsAttempt 7 0 _ rfl) (.cons (showsAttempt 5 0 _ rfl)
      (.cons (showsAttempt 6 0 _ rfl) (.cons (showsAttempt 7 1 _ rfl) .nil)))
  obtain ⟨-, -, readable⟩ := attempts_attached filter .newestFirst none 5
  obtain ⟨failing, attached⟩ := readable _ _ jobs (by decide)
  obtain ⟨whole, ends, -, singles⟩ := attached (by decide) _ _ attempts
  have computed : whole = [job 7 [attempt 7 0, attempt 7 1], job 5 [attempt 5 0]] := by
    have comes : listing.Converses [listed, attemptsReply [job 7 [], job 5 []] attemptRows] _ :=
      listJobs_converses jobs (withAttempts_converses (by decide) (by decide) attempts)
    have same := ((ends [] _).mp comes).2
    cases same
    rfl
  rw [computed] at ends singles
  refine ⟨showsJob 7, showsAttempt 6 0 _ rfl, ends, ?_, ?_⟩
  · cases singles with
    | cons _ rest =>
      cases rest with
      | cons alone _ => exact alone _ [(5, attempt 5 0)] (.cons (showsAttempt 5 0 _ rfl) .nil) rfl
  · have stuck : ∀ owned, ¬ (attemptRow 6 1 "stuck").ShowsAttempt owned := by
      intro owned shows
      obtain ⟨token, stored, known⟩ := shows.status
      cases stored
      cases known
    obtain ⟨-, -, e, -, failed, -⟩ := failing (attemptRow 6 1 "stuck" :: attemptRows)
      ⟨_, List.mem_cons_self, stuck⟩
    exact ⟨e, failed⟩

end SyncHistory
