import Mathlib.Data.List.TakeWhile
import SyncHistory.Proofs.AttemptInfo
import SyncHistory.Proofs.Cursor
import SyncHistory.Proofs.RunningSyncs

/-!
# Counting questions

A session counts the questions that its job store gets. `Session.cost` is by how much an inquiry raises
this count, and costs add up where inquiries are made one after the other, up to the first that fails
(`Session.cost_bind`).

`Session.price` says for each operation what it costs while the job store can be reached, in terms of what
is stored: which page is asked for, how many rows it has, how many logs can be read.
-/

namespace SyncHistory

variable {α β : Type}

namespace Session

variable [SchemaChecker] {s : Session}

/-- How many questions the job store gets when an inquiry is made. -/
def cost (s : Session) (inquiry : Inquiry α) : Nat :=
  (inquiry.run.asked s.reply).countP Question.isForStore

theorem answer_run (s : Session) (inquiry : Inquiry α) :
    (answer inquiry).run s = (s.outcome inquiry, s.counted (s.cost inquiry)) := by
  rw [outcome_eq_eval]
  exact run_eq s inquiry.run

@[simp] theorem cost_pure (s : Session) (a : α) : s.cost (pure a) = 0 := rfl

@[simp] theorem cost_throw (s : Session) (e : HistoryError) : s.cost (throw e : Inquiry α) = 0 := rfl

@[simp] theorem cost_ofExcept (s : Session) (outcome : Except HistoryError α) :
    s.cost (.ofExcept outcome) = 0 := rfl

@[simp] theorem cost_jobs (s : Session) (q : JobQuery) : s.cost (.jobs q) = 1 := rfl

@[simp] theorem cost_connectors (s : Session) (q : ConnectorQuery) : s.cost (.connectors q) = 0 := rfl

@[simp] theorem cost_workflow (s : Session) (id : Uuid) : s.cost (.workflow id) = 0 := rfl

@[simp] theorem cost_file (s : Session) (path : String) : s.cost (.file path) = 0 := rfl

/-- What follows costs something only if nothing failed before. -/
theorem cost_bind (s : Session) (p : Inquiry α) (f : α → Inquiry β) :
    s.cost (p >>= f) = s.cost p + match s.outcome p with
      | .ok a => s.cost (f a)
      | .error _ => 0 := by
  have asked : (p >>= f).run.asked s.reply = p.run.asked s.reply ++ _ :=
    Prog.asked_bind s.reply p.run _
  rw [cost, asked, List.countP_append, outcome_eq_eval]
  cases (ExceptT.run p).eval s.reply <;> rfl

theorem cost_bind_ok {p : Inquiry α} {a : α} (found : s.outcome p = .ok a) (f : α → Inquiry β) :
    s.cost (p >>= f) = s.cost p + s.cost (f a) := by
  rw [cost_bind, found]

theorem cost_bind_error {p : Inquiry α} {e : HistoryError} (failed : s.outcome p = .error e)
    (f : α → Inquiry β) : s.cost (p >>= f) = s.cost p := by
  rw [cost_bind, failed, Nat.add_zero]

theorem cost_bind_free {p : Inquiry α} {f : α → Inquiry β} (free : ∀ a, s.cost (f a) = 0) :
    s.cost (p >>= f) = s.cost p := by
  rw [cost_bind]
  cases s.outcome p with
  | ok a => simp only [free, Nat.add_zero]
  | error e => rfl

@[simp] theorem cost_map (s : Session) (p : Inquiry α) (f : α → β) :
    s.cost (p >>= fun a => pure (f a)) = s.cost p :=
  cost_bind_free fun a => cost_pure s (f a)

/-- Inquiries that cost one question each, up to the first that fails, and that one nothing. -/
theorem cost_mapM {f : α → Inquiry β} (good : α → Bool)
    (succeeds : ∀ a, good a = true → s.cost (f a) = 1 ∧ ∃ b, s.outcome (f a) = .ok b)
    (fails : ∀ a, good a = false → s.cost (f a) = 0 ∧ ∃ e, s.outcome (f a) = .error e) (as : List α) :
    s.cost (as.mapM f) = (as.takeWhile good).length := by
  induction as with
  | nil => rfl
  | cons a as ih =>
    rw [List.mapM_cons]
    cases h : good a with
    | false =>
      obtain ⟨free, e, failed⟩ := fails a h
      rw [cost_bind_error failed, free, List.takeWhile_cons_of_neg (by simp [h])]
      rfl
    | true =>
      obtain ⟨one, b, found⟩ := succeeds a h
      have rest : s.cost (as.mapM f >>= fun bs => pure (b :: bs)) = s.cost (as.mapM f) := cost_map s _ _
      rw [cost_bind_ok found, one, rest, ih, List.takeWhile_cons_of_pos h, List.length_cons,
        Nat.add_comm]

/-! ## What inquiries cost -/

theorem cost_newest (s : Session) (filter : JobFilter) : s.cost (.newest filter) = 1 :=
  cost_map s _ _

theorem cost_job (s : Session) (id : JobId) : s.cost (.job id) = 1 := by
  unfold Inquiry.job
  rw [cost_bind_free, cost_jobs]
  intro found
  cases found <;> rfl

theorem cost_hydratedViews (available : s.store.available = true) (jobs : List Job) (wanted : Bool) :
    s.cost (.hydratedViews jobs wanted) = if wanted then jobs.length else 0 := by
  cases wanted with
  | false => rfl
  | true =>
    have fetched : s.cost (jobs.mapM fun job => Inquiry.jobs (.jobStats job.id)) = jobs.length := by
      have each (job : Job) : s.cost (.jobs (.jobStats job.id)) = 1 ∧
          ∃ stats, s.outcome (.jobs (.jobStats job.id)) = .ok stats :=
        ⟨cost_jobs s _, _, outcome_jobs available _⟩
      rw [cost_mapM (fun _ => true) (fun job _ => each job) (fun _ never => nomatch never),
        List.takeWhile_eq_self_iff.mpr fun _ _ => rfl]
    unfold Inquiry.hydratedViews Inquiry.hydrate
    simp only [Bool.not_true, Bool.false_eq_true, if_false, List.length_map, ne_eq, not_true_eq_false]
    rw [← fetched]
    exact cost_map s _ _

/-- The log of an attempt can be read; one that is not there is read as an empty one. -/
def logReadable (s : Session) (attempt : Attempt) : Bool :=
  match attempt.logPath with
  | none => true
  | some path => match s.files.read path with
    | .fault _ => false
    | _ => true

theorem cost_logTail (s : Session) (count : Nat) (path : Option String) :
    s.cost (.logTail count path) = 0 := by
  cases path with
  | none => rfl
  | some path =>
    rw [Inquiry.logTail, cost_bind_free, cost_file]
    intro read
    cases read <;> rfl

theorem outcome_logTail_readable (count : Nat) {attempt : Attempt} (readable : s.logReadable attempt = true) :
    ∃ lines, s.outcome (.logTail count attempt.logPath) = .ok lines := by
  unfold logReadable at readable
  cases path : attempt.logPath with
  | none => exact ⟨[], rfl⟩
  | some path' =>
    rw [outcome_logTail_some]
    cases read : s.files.read path' with
    | missing => exact ⟨_, rfl⟩
    | text contents => exact ⟨_, rfl⟩
    | fault fault => simp [path, read] at readable

theorem outcome_logTail_unreadable (count : Nat) {attempt : Attempt}
    (unreadable : s.logReadable attempt = false) :
    ∃ e, s.outcome (.logTail count attempt.logPath) = .error e := by
  unfold logReadable at unreadable
  cases path : attempt.logPath with
  | none => simp [path] at unreadable
  | some path' =>
    rw [outcome_logTail_some]
    cases read : s.files.read path' with
    | missing => simp [path, read] at unreadable
    | text contents => simp [path, read] at unreadable
    | fault fault => exact ⟨_, rfl⟩

/-- Each attempt costs a question for its statistics, up to the first whose log cannot be read. -/
theorem cost_jobInfo (available : s.store.available = true) (count : Nat) (job : Job) :
    s.cost (.jobInfo count job) = (job.attempts.takeWhile s.logReadable).length := by
  have attempts : s.cost (job.attempts.mapM (Inquiry.attemptInfo count job.id)) =
      (job.attempts.takeWhile s.logReadable).length := by
    refine cost_mapM s.logReadable (fun attempt readable => ?_) (fun attempt unreadable => ?_) job.attempts
    · obtain ⟨lines, read⟩ := outcome_logTail_readable count readable
      constructor
      · rw [Inquiry.attemptInfo, cost_bind_ok read, cost_logTail, Nat.zero_add]
        exact cost_map s _ _
      · rw [outcome_attemptInfo available, read]
        exact ⟨_, rfl⟩
    · -- the log comes before the statistics, which are not asked for any more
      obtain ⟨e, failed⟩ := outcome_logTail_unreadable count unreadable
      constructor
      · rw [Inquiry.attemptInfo, cost_bind_error failed, cost_logTail]
      · rw [outcome_attemptInfo available, failed]
        exact ⟨_, rfl⟩
  exact (cost_map s _ _).trans attempts

/-! ## What operations cost -/

/-- How many questions find the jobs of a planned page. Cursor pages look for their job first. -/
def searches (s : Session) (plan : ListingPlan) : Nat :=
  match plan.page with
  | .offset _ _ => 1
  | .includingJob id _ =>
    if ∃ job ∈ s.store.tables.select plan.filter.cursorPart .newestFirst, job.id = id then 2 else 1

/-- The jobs of a planned page. -/
def pageOf (s : Session) (plan : ListingPlan) : List Job :=
  match plan.page with
  | .offset size offset => s.store.tables.list plan.filter plan.order (some ⟨size, offset⟩)
  | .includingJob id size =>
    match s.store.tables.position plan.filter.cursorPart .newestFirst id with
    | some position =>
      s.store.tables.list plan.filter.cursorPart .newestFirst (some ⟨cursorLimit position size, 0⟩)
    | none => []

/-- One question for each row that gets statistics. -/
def hydration (s : Session) (plan : ListingPlan) : Nat :=
  if s.settings.hydrateAggregatedStats then (s.pageOf plan).length else 0

/-- The attempts at a job whose logs are read before one cannot be. -/
def readLogs (s : Session) (id : JobId) : Nat :=
  match s.store.tables.jobs.find? fun job => job.id == id with
  | some job => (job.attempts.takeWhile s.logReadable).length
  | none => 0

/-- What an operation costs if no question fails. -/
def price (s : Session) : Operation → Nat
  | .listJobs request =>
    match request.plan s.settings.defaultPageSize with
    | .error _ => 0
    | .ok plan => s.searches plan + 1 + s.hydration plan
  | .listWorkspaces request =>
    match request.plan s.settings.defaultPageSize with
    | .error _ => 0
    | .ok plan => 1 + s.hydration plan
  | .info id | .debug id => 1 + s.readLogs id
  | .infoWithoutLogs id => if ∃ job ∈ s.store.tables.jobs, job.id = id then 2 else 1
  | .progress c => 1 + (s.store.tables.jobs.filter (·.RunsFor c)).length
  | .latestSyncs connections | .runningSyncs connections => if connections = [] then 0 else 1
  | _ => 1

theorem outcome_listJobs (available : s.store.available = true) (plan : ListingPlan) :
    s.outcome (.listJobs plan) = .ok (s.pageOf plan) := by
  unfold pageOf
  cases page : plan.page with
  | offset size offset => exact outcome_offset available page
  | includingJob id size => exact outcome_cursor available page

theorem cost_listJobs (available : s.store.available = true) (plan : ListingPlan) :
    s.cost (.listJobs plan) = s.searches plan := by
  unfold Inquiry.listJobs searches
  cases plan.page with
  | offset size offset => rfl
  | includingJob id size =>
    dsimp only
    -- whether there is a second question depends on what the first one finds
    have reply := outcome_jobs available (.position plan.filter.cursorPart .newestFirst id)
    by_cases found : ∃ job ∈ s.store.tables.select plan.filter.cursorPart .newestFirst, job.id = id
    · have place := JobTables.position_eq_some found
      rw [if_pos found, cost_bind_ok (reply.trans (congrArg Except.ok place))]
      rfl
    · have place : s.store.tables.position plan.filter.cursorPart .newestFirst id = none :=
        JobTables.position_eq_none.mpr fun job mem same => found ⟨job, mem, same⟩
      rw [if_neg found, cost_bind_ok (reply.trans (congrArg Except.ok place))]
      rfl

theorem cost_views (available : s.store.available = true) (plan : ListingPlan) :
    s.cost (.hydratedViews (s.pageOf plan) s.settings.hydrateAggregatedStats) = s.hydration plan :=
  cost_hydratedViews available _ _

theorem cost_listing (available : s.store.available = true) {request : JobListRequest}
    {plan : ListingPlan} (planned : request.plan s.settings.defaultPageSize = .ok plan) :
    s.cost (.listing s.settings request) = s.searches plan + 1 + s.hydration plan := by
  have total : s.outcome (.countJobs plan) = _ := outcome_jobs available (.count plan.filter)
  have counted : s.cost (.countJobs plan) = 1 := rfl
  unfold Inquiry.listing Inquiry.countedListing
  rw [planned, cost_bind_ok (outcome_ofExcept s _), cost_bind_ok (outcome_listJobs available plan),
    cost_bind_ok total, cost_map, cost_listJobs available, cost_views available, counted, cost_ofExcept]
  omega

theorem cost_workspaceListing (available : s.store.available = true) {request : WorkspaceListRequest}
    {plan : ListingPlan} (planned : request.plan s.settings.defaultPageSize = .ok plan) :
    s.cost (.workspaceListing s.settings request) = 1 + s.hydration plan := by
  have page := (ListingRequest.planPage_eq_ok.mp (ListingRequest.plan_parts planned).2.2).2
  have once : s.searches plan = 1 := by rw [searches, page]
  unfold Inquiry.workspaceListing
  rw [planned, cost_bind_ok (outcome_ofExcept s _), cost_bind_ok (outcome_listJobs available plan),
    cost_map, cost_listJobs available, cost_views available, once, cost_ofExcept, Nat.zero_add]

theorem cost_afterJob (available : s.store.available = true) (id : JobId) (f : Job → Inquiry α) :
    s.cost (.job id >>= f) = 1 + match s.store.tables.jobs.find? fun job => job.id == id with
      | some job => s.cost (f job)
      | none => 0 := by
  rw [cost_bind, cost_job, outcome_job available]
  cases s.store.tables.jobs.find? fun job => job.id == id <;> rfl

theorem cost_info (available : s.store.available = true) (settings : Settings) (id : JobId) :
    s.cost (.info settings id) = 1 + s.readLogs id := by
  unfold Inquiry.info
  rw [cost_afterJob available, readLogs]
  simp only [cost_jobInfo available]

/-- After its attempts a debug record costs the job store nothing. -/
theorem cost_debugInfo (available : s.store.available = true) (logLines : Nat) (platformVersion : String)
    (asksWorkflow : Bool) (id : JobId) :
    s.cost (.debugInfo logLines platformVersion asksWorkflow id) = 1 + s.readLogs id := by
  have owner (job : Job) : s.cost (.owner job) = 0 := by
    unfold Inquiry.owner
    cases job.connectionId with
    | none => exact cost_throw s _
    | some id => exact cost_pure s id
  unfold Inquiry.debugInfo
  rw [cost_afterJob available, readLogs]
  cases s.store.tables.jobs.find? fun job => job.id == id with
  | none => rfl
  | some job =>
    dsimp only
    rw [cost_bind_free, cost_jobInfo available]
    intro info
    rw [cost_bind_free, owner]
    intro connectionId
    -- the records of the connection, its source and destination and their definitions
    iterate 5
      rw [cost_bind_free, cost_connectors]
      intro record
    cases asksWorkflow with
    | false => exact cost_pure s _
    | true => exact (cost_map s _ _).trans (cost_workflow s connectionId)

theorem cost_infoWithoutLogs (available : s.store.available = true) (id : JobId) :
    s.cost (.infoWithoutLogs id) = if ∃ job ∈ s.store.tables.jobs, job.id = id then 2 else 1 := by
  unfold Inquiry.infoWithoutLogs
  rw [cost_afterJob available]
  cases found : s.store.tables.jobs.find? fun job => job.id == id with
  | none =>
    have absent : ¬ ∃ job ∈ s.store.tables.jobs, job.id = id := by simpa using found
    exact (if_neg absent).symm
  | some job =>
    have stored : ∃ job ∈ s.store.tables.jobs, job.id = id :=
      ⟨job, List.mem_of_find?_eq_some found, by simpa using List.find?_some found⟩
    have views : s.cost (.hydratedViews [job] true) = 1 := cost_hydratedViews available [job] true
    rw [if_pos stored]
    dsimp only
    rw [cost_bind_free, views]
    intro views
    split <;> rfl

theorem cost_progress (available : s.store.available = true) (c : Uuid) :
    s.cost (.progress c) = 1 + (s.store.tables.jobs.filter (·.RunsFor c)).length := by
  have running := outcome_runningSyncs available [c]
  have lists : JobOrder.newestFirst.Lists (s.store.tables.jobs.filter (·.RunsFor c)) _ :=
    JobTables.select_running (JobFilter.running_asksRunning (.scopes [c.text]))
      fun scope _ => List.mem_singleton
  have asked : s.cost (.runningSyncs [c]) = 1 := rfl
  unfold Inquiry.progress
  rw [cost_bind_ok running, asked, cost_map, cost_hydratedViews available, if_pos rfl]
  exact congrArg (1 + ·) lists.perm.length_eq

/-- Where the job store can be reached, an operation costs its price. -/
theorem cost_answer (available : s.store.available = true) (operation : Operation) :
    s.cost (operation.answer s.settings s.workflow.isSome) = s.price operation := by
  cases operation with
  | listJobs request =>
    refine (cost_map s _ _).trans ?_
    dsimp only [price]
    cases planned : request.plan s.settings.defaultPageSize with
    | ok plan => exact cost_listing available planned
    | error e =>
      unfold Inquiry.listing
      rw [planned]
      rfl
  | listWorkspaces request =>
    refine (cost_map s _ _).trans ?_
    dsimp only [price]
    cases planned : request.plan s.settings.defaultPageSize with
    | ok plan => exact cost_workspaceListing available planned
    | error e =>
      unfold Inquiry.workspaceListing
      rw [planned]
      rfl
  | info id => exact (cost_map s _ _).trans (cost_info available s.settings id)
  | infoWithoutLogs id => exact (cost_map s _ _).trans (cost_infoWithoutLogs available id)
  | infoLight id => exact (cost_map s _ _).trans ((cost_map s _ _).trans (cost_job s id))
  | debug id => exact (cost_map s _ _).trans (cost_debugInfo available _ _ _ id)
  | lastReplication c => exact (cost_map s _ _).trans (cost_newest s _)
  | latestRunning c => exact (cost_map s _ _).trans (cost_newest s _)
  | latestSync c => exact (cost_map s _ _).trans (cost_newest s _)
  | progress c => exact (cost_map s _ _).trans (cost_progress available c)
  | latestSyncs connections =>
    refine (cost_map s _ _).trans ?_
    cases connections <;> rfl
  | runningSyncs connections =>
    refine (cost_map s _ _).trans ?_
    cases connections <;> rfl
  | normalization id => exact (cost_map s _ _).trans (cost_jobs s _)
  | syncModes id =>
    refine (cost_map s _ _).trans ?_
    unfold Inquiry.syncModes
    rw [cost_bind_free fun _ => cost_ofExcept s _, cost_job]
    rfl

end Session

end SyncHistory
