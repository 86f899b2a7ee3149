import SyncHistory.Proofs.ListingRows

/-!
# Attempts one by one and together

There are two ways to the statistics of attempts: a job with logs asks for those of each attempt on its
own (`Inquiry.info`), a job without logs fetches all of them at once and looks each attempt up among them
(`Inquiry.infoWithoutLogs`). Both come to the same views of attempts (`Session.attempts_of_jobInfo`), and
the only thing that can go wrong with one and not with the other is the log of an attempt
(`Session.unreadable_of_jobInfo`). Debug records have the attempts of a job with logs.

`attempt_statistics_agree` says so of every number of a job, whatever is stored under it.
-/

namespace SyncHistory

namespace Session

variable [SchemaChecker] {s : Session}

/-! ## Attempts with logs -/

theorem outcome_mapM_eq (s : Session) (f : α → Inquiry β) (as : List α) :
    s.outcome (as.mapM f) = as.mapM fun a => s.outcome (f a) := by
  simp only [outcome_eq_eval]
  exact Inquiry.eval_mapM s.reply f as

@[simp] theorem outcome_logTail_none (s : Session) (count : Nat) :
    s.outcome (.logTail count none) = .ok [] := rfl

/-- The last lines of a log, none if the log is not there, and a failure if it cannot be read. -/
theorem outcome_logTail_some (s : Session) (count : Nat) (path : String) :
    s.outcome (.logTail count (some path)) = match s.files.read path with
      | .missing => .ok []
      | .text contents => .ok (Log.tail count contents)
      | .fault fault => .error (.transient (.logFile path fault)) := by
  have reply : s.outcome (.file path) = .ok (s.files.read path) := rfl
  rw [Inquiry.logTail, outcome_bind_ok reply]
  cases s.files.read path <;> rfl

/-- The view of an attempt has the statistics that are stored under its number. -/
theorem outcome_attemptInfo (available : s.store.available = true) (count : Nat) (id : JobId)
    (attempt : Attempt) :
    s.outcome (.attemptInfo count id attempt) =
      (s.outcome (.logTail count attempt.logPath)).map fun lines =>
        ⟨(AttemptView.ofAttempt attempt).hydrate
          (AttemptStats.forAttempt (s.store.tables.statsOf id) attempt.number), some lines⟩ := by
  unfold Inquiry.attemptInfo
  rw [outcome_bind]
  cases s.outcome (.logTail count attempt.logPath) with
  | error e => rfl
  | ok lines => exact outcome_bind_ok (outcome_jobs available (.attemptStats id attempt.number)) _

theorem outcome_jobInfo (s : Session) (count : Nat) (job : Job) :
    s.outcome (.jobInfo count job) =
      (job.attempts.mapM fun attempt => s.outcome (.attemptInfo count job.id attempt)).map
        fun attempts => ⟨.ofJob job, attempts⟩ := by
  unfold Inquiry.jobInfo
  rw [outcome_bind, outcome_mapM_eq]
  cases job.attempts.mapM fun attempt => s.outcome (.attemptInfo count job.id attempt) <;> rfl

/-- A job with logs has the view of the job without statistics, and those of its attempts with them. -/
theorem attempts_of_jobInfo (available : s.store.available = true) {count : Nat} {job : Job}
    {info : JobInfo} (answered : s.outcome (.jobInfo count job) = .ok info) :
    info.job = .ofJob job ∧
      info.attempts.map (·.attempt) = (s.store.tables.view true job).attempts := by
  rw [outcome_jobInfo] at answered
  obtain ⟨attempts, done, rfl⟩ := map_eq_ok.mp answered
  refine ⟨rfl, ?_⟩
  have views := map_of_mapM_eq_ok (h := AttemptInfo.attempt)
    (g := fun attempt => (AttemptView.ofAttempt attempt).hydrate
      (AttemptStats.forAttempt (s.store.tables.statsOf job.id) attempt.number))
    (fun attempt view answer => ?_) done
  · rw [views, JobTables.view, if_pos rfl, JobWithAttempts.hydrate, JobWithAttempts.ofJob, List.map_map]
    rfl
  · rw [outcome_attemptInfo available] at answer
    obtain ⟨lines, -, rfl⟩ := map_eq_ok.mp answer
    rfl

/-- Nothing but the log of an attempt keeps a job with logs from being answered. -/
theorem unreadable_of_jobInfo (available : s.store.available = true) {count : Nat} {job : Job}
    {e : HistoryError} (failed : s.outcome (.jobInfo count job) = .error e) :
    ∃ attempt ∈ job.attempts, ∃ path fault, attempt.logPath = some path ∧
      s.files.read path = .fault fault ∧ e = .transient (.logFile path fault) := by
  rw [outcome_jobInfo, map_eq_error] at failed
  obtain ⟨attempt, mem, failed⟩ := exists_of_mapM_eq_error failed
  -- the statistics can be had, so it is the log that failed
  rw [outcome_attemptInfo available, map_eq_error] at failed
  refine ⟨attempt, mem, ?_⟩
  cases logged : attempt.logPath with
  | none =>
    rw [logged, outcome_logTail_none] at failed
    cases failed
  | some path =>
    rw [logged, outcome_logTail_some] at failed
    cases read : s.files.read path with
    | missing | text contents =>
      rw [read] at failed
      cases failed
    | fault fault =>
      rw [read] at failed
      cases failed
      exact ⟨path, fault, rfl, read, rfl⟩

/-! ## Debug records -/

theorem attempts_of_debugInfo {count : Nat} {platformVersion : String} {asksWorkflow : Bool} {id : JobId}
    {debug : DebugInfo}
    (answered : s.outcome (.debugInfo count platformVersion asksWorkflow id) = .ok debug) :
    ∃ job info, s.outcome (.job id) = .ok job ∧ s.outcome (.jobInfo count job) = .ok info ∧
      debug.attempts = info.attempts := by
  unfold Inquiry.debugInfo at answered
  rw [outcome_bind] at answered
  obtain ⟨job, found, answered⟩ := bind_eq_ok.mp answered
  rw [outcome_bind] at answered
  obtain ⟨info, informed, answered⟩ := bind_eq_ok.mp answered
  refine ⟨job, info, found, informed, ?_⟩
  -- what the other stages find does not touch the attempts
  simp only [outcome_bind] at answered
  obtain ⟨_, -, answered⟩ := bind_eq_ok.mp answered
  obtain ⟨_, -, answered⟩ := bind_eq_ok.mp answered
  obtain ⟨_, -, answered⟩ := bind_eq_ok.mp answered
  obtain ⟨_, -, answered⟩ := bind_eq_ok.mp answered
  obtain ⟨_, -, answered⟩ := bind_eq_ok.mp answered
  obtain ⟨_, -, answered⟩ := bind_eq_ok.mp answered
  cases asksWorkflow with
  | false =>
    cases answered
    rfl
  | true =>
    obtain ⟨_, -, answered⟩ := bind_eq_ok.mp ((outcome_bind s _ _).symm.trans answered)
    cases answered
    rfl

theorem outcome_info (s : Session) (settings : Settings) (id : JobId) :
    s.outcome (.info settings id) =
      s.outcome (.job id) >>= fun job => s.outcome (.jobInfo settings.logTailLines job) :=
  outcome_bind s _ _

end Session

/-- **Statistics one by one and together.** In a session whose job store can be reached, whatever it
holds, a job without logs is there for every stored job. Where a job with logs is answered too, its
attempts have the same views, and the views of the job differ in nothing but the statistics over all
attempts, which only the one without logs has. Where it is not, an attempt has a log that cannot be read.
The attempts of a debug record are those of the job with logs. -/
theorem attempt_statistics_agree [SchemaChecker] (s : Session) (available : s.store.available = true)
    (settings : Settings) (id : JobId) :
    ((∃ job ∈ s.store.tables.jobs, job.id = id) → ∃ bare, s.outcome (.infoWithoutLogs id) = .ok bare) ∧
    (∀ info bare, s.outcome (.info settings id) = .ok info → s.outcome (.infoWithoutLogs id) = .ok bare →
      info.attempts.map (·.attempt) = bare.attempts.map (·.attempt) ∧
      bare.job.withoutStats = info.job ∧
      info.job.aggregatedStats = none ∧ info.job.streamAggregatedStats = none ∧
      bare.job.aggregatedStats.isSome ∧ bare.job.streamAggregatedStats.isSome) ∧
    (∀ bare e, s.outcome (.infoWithoutLogs id) = .ok bare → s.outcome (.info settings id) = .error e →
      ∃ job, s.outcome (.job id) = .ok job ∧ ∃ attempt ∈ job.attempts, ∃ path fault,
        attempt.logPath = some path ∧ s.files.read path = .fault fault ∧
        e = .transient (.logFile path fault)) ∧
    ∀ platformVersion asksWorkflow debug,
      s.outcome (.debugInfo settings.logTailLines platformVersion asksWorkflow id) = .ok debug →
      ∃ info, s.outcome (.info settings id) = .ok info ∧ debug.attempts = info.attempts := by
  refine ⟨fun ⟨job, mem, same⟩ => ?_, fun info bare answered bareAnswered => ?_,
    fun bare e bareAnswered failed => ?_, fun platformVersion asksWorkflow debug answered => ?_⟩
  · obtain ⟨found, leads⟩ := Session.exists_outcome_job available mem
    rw [same] at leads
    exact ⟨_, Session.outcome_infoWithoutLogs available leads⟩
  · rw [Session.outcome_info] at answered
    obtain ⟨job, found, informed⟩ := bind_eq_ok.mp answered
    obtain ⟨same, views⟩ := Session.attempts_of_jobInfo available informed
    rw [Session.outcome_infoWithoutLogs available found] at bareAnswered
    cases bareAnswered
    refine ⟨?_, same.symm, ?_, ?_, rfl, rfl⟩
    · rw [views, List.map_map]
      exact (List.map_id _).symm
    · rw [same, JobView.ofJob]
    · rw [same, JobView.ofJob]
  · rw [Session.outcome_info] at failed
    rcases bind_eq_error.mp failed with missing | ⟨job, found, failed⟩
    · rw [Inquiry.infoWithoutLogs, Session.outcome_bind, missing] at bareAnswered
      cases bareAnswered
    · exact ⟨job, found, Session.unreadable_of_jobInfo available failed⟩
  · obtain ⟨job, info, found, informed, same⟩ := Session.attempts_of_debugInfo answered
    exact ⟨info, (Session.outcome_info s settings id).trans (bind_eq_ok.mpr ⟨job, found, informed⟩), same⟩

/-- A job of two attempts, the first with two entries of statistics and the second with none, and a job
whose log lies where a directory is. -/
theorem attempt_statistics_agree_two :
    let uuid (digit : Fin 16) : Uuid := ⟨.replicate 32 digit⟩
    let attempt (number : Int) (logPath : String) : Attempt :=
      ⟨number, .failed, some logPath, none, none, ⟨number, 0⟩, ⟨number, 0⟩, none⟩
    let job (id : JobId) (logPath : String) : Job :=
      ⟨id, .sync, (uuid 1).text, none, .failed, ⟨id, 0⟩, ⟨id, 0⟩, none,
        [attempt 0 logPath, attempt 1 logPath]⟩
    let s := Session.setUp [.insertJob (job 7 "log"), .insertJob (job 8 "logs"),
      .insertStats 7 ⟨0, ⟨5, 5, 5, 5⟩, []⟩, .insertStats 7 ⟨0, ⟨6, 6, 6, 6⟩, []⟩,
      .writeFile "log" (.file (some "begin\nend\n")), .makeDirectory "logs",
      .connectors (.insertConnection ⟨uuid 1, "", uuid 2, uuid 3, ""⟩),
      .connectors (.insertSource ⟨uuid 2, "", uuid 4, uuid 9, .obj []⟩),
      .connectors (.insertDestination ⟨uuid 3, "", uuid 5, uuid 9, .obj []⟩),
      .connectors (.insertSourceDefinition ⟨uuid 4, "", "", "", .obj []⟩),
      .connectors (.insertDestinationDefinition ⟨uuid 5, "", "", "", .obj []⟩)]
    s.store.available = true ∧
    (∃ info bare debug, s.outcome (.info .standard 7) = .ok info ∧
      s.outcome (.infoWithoutLogs 7) = .ok bare ∧ s.outcome (.debugInfo 1000 "dev" false 7) = .ok debug ∧
      debug.attempts = info.attempts ∧
      info.attempts.map (·.attempt.totalStats) = [some ⟨5, 5, 5, 5⟩, some 0]) ∧
    ∃ bare, s.outcome (.infoWithoutLogs 8) = .ok bare ∧
      s.outcome (.info .standard 8) = .error (.transient (.logFile "logs" .isDirectory)) ∧
      ∃ job, s.outcome (.job 8) = .ok job ∧ ∃ attempt ∈ job.attempts, attempt.logPath = some "logs" := by
  intro uuid attempt job s
  have available : s.store.available = true := rfl
  obtain ⟨-, same, -, debugged⟩ := attempt_statistics_agree s available .standard 7
  obtain ⟨-, -, unreadable, -⟩ := attempt_statistics_agree s available .standard 8
  refine ⟨available, ?_, ?_⟩
  · have assembled : (s.outcome (.debugInfo 1000 "dev" false 7)).toBool = true := by decide +kernel
    cases answered : s.outcome (.debugInfo 1000 "dev" false 7) with
    | error e =>
      rw [answered] at assembled
      cases assembled
    | ok debug =>
      obtain ⟨info, informed, attempts⟩ := debugged "dev" false debug answered
      refine ⟨info, _, debug, informed, rfl, rfl, attempts, ?_⟩
      have views := (same info _ informed rfl).1
      have totals := congrArg (List.map AttemptView.totalStats) views
      rw [List.map_map] at totals
      exact totals
  · have failed : s.outcome (.info .standard 8) = .error (.transient (.logFile "logs" .isDirectory)) := rfl
    obtain ⟨job, found, attempt, mem, path, fault, logged, -, same⟩ := unreadable _ _ rfl failed
    cases same
    exact ⟨_, rfl, failed, job, found, attempt, mem, logged⟩

end SyncHistory
