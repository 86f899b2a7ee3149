import SyncHistory.Proofs.ListingRows

/-!
# Running syncs

There are four ways to the unfinished syncs of a connection: all of them at once, the newest of them, a
listing of such jobs, and the progress that they make. `Session.RunningViews` says that all four show the
same jobs, which are listed with the newest first, and `running_syncs_agree` that they do in every session
whose job store can be reached.

The ways differ in the filters that they ask with. `JobFilter.AsksRunning` is what these have in common, so
that they select the same jobs (`JobTables.select_running`). The unfinished syncs of several connections
are listed together, and those of one of them are a part of this list since leaving jobs out of a listing
gives a listing of the others (`JobOrder.Lists.filter`).
-/

namespace SyncHistory

/-- The job is an unfinished sync of the connection. -/
structure Job.RunsFor (job : Job) (c : Uuid) : Prop where
  scope : job.scope = c.text
  configType : job.configType ∈ [.sync, .refresh]
  status : job.status ∈ [.pending, .running, .incomplete]

theorem Job.runsFor_iff {job : Job} {c : Uuid} : job.RunsFor c ↔ job.scope = c.text ∧
    job.configType ∈ [.sync, .refresh] ∧ job.status ∈ [.pending, .running, .incomplete] :=
  ⟨fun h => ⟨h.scope, h.configType, h.status⟩, fun h => ⟨h.1, h.2.1, h.2.2⟩⟩

instance (job : Job) (c : Uuid) : Decidable (job.RunsFor c) :=
  decidable_of_iff _ Job.runsFor_iff.symm

/-- The filter asks for unfinished syncs and for nothing else, whoever owns them. -/
structure JobFilter.AsksRunning (f : JobFilter) : Prop where
  configTypes : ∀ t, t ∈ f.configTypes ↔ t ∈ [.sync, .refresh]
  statuses : ∃ statuses, f.statuses = some statuses ∧
    ∀ status, status ∈ statuses ↔ status ∈ [.pending, .running, .incomplete]
  createdAt : f.createdAt = .unbounded
  updatedAt : f.updatedAt = .unbounded

theorem JobFilter.AsksRunning.matches_iff {f : JobFilter} (asks : f.AsksRunning)
    {workspace : Option Uuid} {job : Job} : f.Matches workspace job ↔
      f.scope.Means job.scope workspace ∧ job.configType ∈ [.sync, .refresh] ∧
        job.status ∈ [.pending, .running, .incomplete] := by
  obtain ⟨statuses, asked, same⟩ := asks.statuses
  have always (t : Instant) : TimeRange.unbounded.Spans t := TimeRange.contains_iff.mp rfl
  constructor
  · intro h
    exact ⟨h.scope, (asks.configTypes _).mp h.configType, (same _).mp (h.status statuses asked)⟩
  · rintro ⟨scope, configType, status⟩
    refine ⟨scope, (asks.configTypes _).mpr configType, fun statuses' asked' => ?_, ?_, ?_⟩
    · cases asked.symm.trans asked'
      exact (same _).mpr status
    · exact asks.createdAt ▸ always _
    · exact asks.updatedAt ▸ always _

/-- The filter of the unfinished syncs of some connections. -/
def JobFilter.running (scope : ScopeSelector) : JobFilter :=
  (JobFilter.ofScope ConfigType.syncReplication scope).withStatuses JobStatus.nonTerminal

theorem JobFilter.running_asksRunning (scope : ScopeSelector) : (running scope).AsksRunning :=
  ⟨fun _ => Iff.rfl, ⟨_, rfl, fun _ => Iff.rfl⟩, rfl, rfl⟩

namespace JobTables

variable {t : JobTables}

/-- Filters that ask for the unfinished syncs of a connection select these, the newest first. -/
theorem select_running {f : JobFilter} (asks : f.AsksRunning) {c : Uuid}
    (owner : ∀ scope workspace, f.scope.Means scope workspace ↔ scope = c.text) :
    JobOrder.newestFirst.Lists (t.jobs.filter (·.RunsFor c)) (t.select f .newestFirst) := by
  have same : t.matching f = t.jobs.filter (·.RunsFor c) := by
    refine List.filter_congr fun job _ => decide_eq_decide.mpr ?_
    rw [asks.matches_iff, owner, Job.runsFor_iff]
  exact same ▸ t.select_lists f .newestFirst

/-- The unfinished syncs of several connections depend on nothing but which connections these are. -/
theorem select_running_congr {ids ids' : List Uuid} (same : ∀ c, c ∈ ids' ↔ c ∈ ids) :
    t.select (.running (.scopes (ids'.map Uuid.text))) .newestFirst =
      t.select (.running (.scopes (ids.map Uuid.text))) .newestFirst := by
  have matching : t.matching (.running (.scopes (ids'.map Uuid.text))) =
      t.matching (.running (.scopes (ids.map Uuid.text))) := by
    refine t.matching_congr ?_
    intro workspace job
    rw [(JobFilter.running_asksRunning _).matches_iff, (JobFilter.running_asksRunning _).matches_iff]
    simp [JobFilter.running, JobFilter.withStatuses, JobFilter.ofScope, ScopeSelector.Means, same]
  rw [select_eq_sort, select_eq_sort, matching]

/-- Those of one of the connections are the ones of its scope. -/
theorem filter_select_running {ids : List Uuid} {c : Uuid} (mem : c ∈ ids) :
    JobOrder.newestFirst.Lists (t.jobs.filter (·.RunsFor c))
      ((t.select (.running (.scopes (ids.map Uuid.text))) .newestFirst).filter (·.scope = c.text)) := by
  have part := (t.select_lists (.running (.scopes (ids.map Uuid.text))) .newestFirst).filter
    (fun job => decide (job.scope = c.text))
  have same : (t.matching (.running (.scopes (ids.map Uuid.text)))).filter
      (fun job => decide (job.scope = c.text)) = t.jobs.filter (·.RunsFor c) := by
    rw [matching, List.filter_filter]
    refine List.filter_congr fun job _ => ?_
    rw [← Bool.decide_and, decide_eq_decide, (JobFilter.running_asksRunning _).matches_iff,
      Job.runsFor_iff]
    constructor
    · rintro ⟨scope, -, rest⟩
      exact ⟨scope, rest⟩
    · rintro ⟨scope, rest⟩
      exact ⟨scope, scope ▸ List.mem_map_of_mem mem, rest⟩
  exact same ▸ part

end JobTables

/-! ## Requests for running syncs -/

/-- The request asks for the unfinished syncs of a connection, the newest first, from the start on. -/
structure JobListRequest.AsksRunning (r : JobListRequest) (c : Uuid) : Prop where
  configTypes : ∀ t, t ∈ r.configTypes ↔ t ∈ [.sync, .refresh]
  configId : r.configId = some c.text
  statuses : ∃ tokens statuses, r.statuses = some tokens ∧ JobStatus.ofTokens tokens = .ok statuses ∧
    ∀ status, status ∈ statuses ↔ status ∈ [.pending, .running, .incomplete]
  createdAt : r.createdAt = .unbounded
  updatedAt : r.updatedAt = .unbounded
  order : r.planOrder = .ok .newestFirst
  rowOffset : r.rowOffset = 0
  includingJobId : r.includingJobId = none

theorem JobListRequest.AsksRunning.planned {r : JobListRequest} {c : Uuid} (asks : r.AsksRunning c)
    {defaultSize : UInt32} (nonzero : r.pageSize defaultSize ≠ 0) :
    ∃ f : JobFilter, f.AsksRunning ∧ f.scope = .scope c.text ∧
      r.plan defaultSize = .ok ⟨f, .newestFirst, .offset (r.pageSize defaultSize) 0⟩ := by
  obtain ⟨tokens, statuses, asked, known, same⟩ := asks.statuses
  have wanted : r.planStatuses = .ok (some statuses) := by
    -- an empty list would ask for any status
    cases tokens with
    | nil =>
      cases known
      exact absurd ((same .pending).mpr (by decide)) (by simp)
    | cons token tokens => simp only [ListingRequest.planStatuses, asked, known, Except.map]
  have kinds : r.configTypes ≠ [] :=
    List.ne_nil_of_mem ((asks.configTypes .sync).mpr (by decide))
  have owner : r.selector = .scope c.text := by rw [selector, asks.configId]
  refine ⟨⟨ConfigType.normalize r.configTypes, .scope c.text, some statuses, r.createdAt, r.updatedAt⟩,
    ⟨fun t => ConfigType.mem_normalize.trans (asks.configTypes t), ⟨statuses, rfl, same⟩, asks.createdAt,
      asks.updatedAt⟩, rfl, ?_⟩
  show r.toListingRequest.plan r.selector r.includingJobId defaultSize = _
  refine ListingRequest.plan_of_parts ?_ asks.order ?_
  · exact ListingRequest.planFilter_eq_ok.mpr ⟨kinds, _, wanted, by rw [owner]⟩
  · rw [ListingRequest.planPage_eq_ok, asks.includingJobId, asks.rowOffset]
    exact ⟨nonzero, rfl⟩

/-! ## Four views -/

namespace Session

theorem head_notLater {jobs running : List Job} (lists : JobOrder.newestFirst.Lists jobs running) :
    ∀ first ∈ running.head?, ∀ job ∈ running, JobOrder.newestFirst.NotLater job first := by
  cases running with
  | nil => simp
  | cons first running =>
    rintro _ ⟨⟩ job mem
    exact lists.isFirst.precedes job (lists.perm.mem_iff.mp mem)

theorem view_withoutStats (t : JobTables) (wanted : Bool) (job : Job) :
    (t.view wanted job).job.withoutStats = .ofJob job := by
  cases wanted <;> rfl

variable [SchemaChecker] {s : Session}

/-- What a session shows of the unfinished syncs of a connection, whichever way it is asked. -/
structure RunningViews (s : Session) (c : Uuid) (running : List Job) : Prop where
  lists : JobOrder.newestFirst.Lists (s.store.tables.jobs.filter (·.RunsFor c)) running
  syncs : s.outcome (.runningSyncs [c]) = .ok running
  syncsDocument : s.outcome ((Operation.runningSyncs [c]).answer s.settings s.workflow.isSome) =
    .ok (.ofList JobView.toJson (running.map .ofJob))
  latest : s.outcome (.latestRunningSync c) = .ok running.head?
  latestDocument : s.outcome ((Operation.latestRunning c).answer s.settings s.workflow.isSome) =
    .ok (.ofOption JobView.toJson (running.head?.map .ofJob))
  newest : ∀ first ∈ running.head?, ∀ job ∈ running, JobOrder.newestFirst.NotLater job first
  listing : ∀ request : JobListRequest, request.AsksRunning c →
    request.pageSize s.settings.defaultPageSize ≠ 0 →
    ∃ listing, s.outcome (.listing s.settings request) = .ok listing ∧
      listing.jobs.head?.map (·.job.withoutStats) = running.head?.map .ofJob
  progress : ∃ items, s.outcome (.progress c) = .ok items ∧ (running = [] → items = []) ∧
    ∀ first ∈ running.head?, ∀ item ∈ items, item.jobId = first.id ∧ item.syncStartedAt = first.startedAt

theorem outcome_runningSyncs (available : s.store.available = true) (ids : List Uuid) :
    s.outcome (.runningSyncs ids) =
      .ok (s.store.tables.select (.running (.scopes (ids.map Uuid.text))) .newestFirst) := by
  cases ids with
  | cons id ids => exact outcome_jobs available _
  | nil =>
    -- about no connection nothing is asked, and the filter would select nothing either
    have nobody : s.store.tables.select (.running (.scopes [])) .newestFirst = [] := by
      rw [← List.length_eq_zero_iff, JobTables.length_select, List.length_eq_zero_iff,
        JobTables.matching, List.filter_eq_nil_iff]
      intro job _ h
      have owner := (of_decide_eq_true h).scope
      cases owner
    exact (congrArg Except.ok nobody).symm

theorem outcome_latestRunningSync (available : s.store.available = true) (c : Uuid) :
    s.outcome (.latestRunningSync c) =
      .ok (s.store.tables.select (.running (.scope c.text)) .newestFirst).head? := by
  have page := outcome_jobs available (.list (.running (.scope c.text)) .newestFirst (some ⟨1, 0⟩))
  refine (outcome_bind_ok page _).trans (congrArg Except.ok ?_)
  show (List.take 1 (List.drop 0 _)).head? = _
  rw [List.drop_zero, List.head?_take, if_neg one_ne_zero]

/-- The first row of a listing of running syncs is the newest of them. -/
theorem head_of_listing (available : s.store.available = true) {c : Uuid} {running : List Job}
    (lists : JobOrder.newestFirst.Lists (s.store.tables.jobs.filter (·.RunsFor c)) running)
    {request : JobListRequest} (asks : request.AsksRunning c)
    (nonzero : request.pageSize s.settings.defaultPageSize ≠ 0) :
    ∃ listing, s.outcome (.listing s.settings request) = .ok listing ∧
      listing.jobs.head?.map (·.job.withoutStats) = running.head?.map .ofJob := by
  obtain ⟨f, asksRunning, owner, planned⟩ := asks.planned nonzero
  have selected : s.store.tables.select f .newestFirst = running := by
    refine (JobTables.select_running asksRunning fun scope workspace => ?_).unique lists
    rw [owner]
    rfl
  refine ⟨_, outcome_listing available planned (outcome_offset available rfl), ?_⟩
  show ((List.take _ (List.drop 0 (s.store.tables.select f .newestFirst))).map _).head?.map _ = _
  have some : (request.pageSize s.settings.defaultPageSize).toNat ≠ 0 :=
    fun zero => nonzero (UInt32.toNat_inj.mp zero)
  rw [selected, List.drop_zero, List.head?_map, List.head?_take, if_neg some, Option.map_map]
  exact congrArg (Option.map · running.head?) (funext (view_withoutStats s.store.tables _))

/-- The progress of a connection is that of the views of its running syncs. -/
theorem outcome_progress (available : s.store.available = true) {c : Uuid} {running : List Job}
    (syncs : s.outcome (.runningSyncs [c]) = .ok running) :
    s.outcome (.progress c) = .ok (ProgressItem.ofViews (running.map (s.store.tables.view true))) :=
  (outcome_bind_ok syncs _).trans (outcome_bind_ok (outcome_hydratedViews available running true) _)

/-- All progress is that of the newest running sync. -/
theorem progress_of_running (available : s.store.available = true) {c : Uuid} {running : List Job}
    (syncs : s.outcome (.runningSyncs [c]) = .ok running) :
    ∃ items, s.outcome (.progress c) = .ok items ∧ (running = [] → items = []) ∧
      ∀ first ∈ running.head?, ∀ item ∈ items,
        item.jobId = first.id ∧ item.syncStartedAt = first.startedAt := by
  refine ⟨_, outcome_progress available syncs, fun none => by rw [none]; rfl, ?_⟩
  cases running with
  | nil => simp
  | cons first running =>
    rintro _ ⟨⟩ item mem
    obtain ⟨stream, -, rfl⟩ := List.mem_map.mp mem
    exact ⟨rfl, rfl⟩

end Session

/-- **The views of running syncs agree.** In a session whose job store can be reached, all unfinished
syncs of a connection, the newest of them, a listing of such jobs and the progress that they make show the
same jobs, the newest first. The unfinished syncs of several connections depend on nothing but which
connections these are; they have every stored job once at most, and the jobs of one of the connections are
its unfinished syncs. -/
theorem running_syncs_agree [SchemaChecker] (s : Session) (available : s.store.available = true) :
    (∀ c, ∃ running, s.RunningViews c running) ∧
    ∀ ids, ∃ rows, s.outcome (.runningSyncs ids) = .ok rows ∧
      s.outcome ((Operation.runningSyncs ids).answer s.settings s.workflow.isSome) =
        .ok (.ofList JobView.toJson (rows.map .ofJob)) ∧
      rows.Subperm s.store.tables.jobs ∧
      (∀ ids', (∀ c, c ∈ ids' ↔ c ∈ ids) → s.outcome (.runningSyncs ids') = .ok rows) ∧
      ∀ c ∈ ids, s.outcome (.runningSyncs [c]) = .ok (rows.filter (·.scope = c.text)) := by
  have answered (ids : List Uuid) :
      s.outcome ((Operation.runningSyncs ids).answer s.settings s.workflow.isSome) = _ :=
    Session.outcome_bind_ok (Session.outcome_runningSyncs available ids) _
  have own (c : Uuid) : JobOrder.newestFirst.Lists (s.store.tables.jobs.filter (·.RunsFor c))
      (s.store.tables.select (.running (.scopes [c.text])) .newestFirst) :=
    JobTables.select_running (JobFilter.running_asksRunning _) fun scope _ => List.mem_singleton
  have newest (c : Uuid) : s.outcome (.latestRunningSync c) =
      .ok (s.store.tables.select (.running (.scopes [c.text])) .newestFirst).head? := by
    rw [Session.outcome_latestRunningSync available]
    -- the filters differ, but what they select is listed in one way only
    rw [(JobTables.select_running (JobFilter.running_asksRunning (.scope c.text)) fun scope _ =>
      Iff.rfl).unique (own c)]
  refine ⟨fun c => ⟨_, own c, Session.outcome_runningSyncs available [c], answered [c], newest c,
    Session.outcome_bind_ok (newest c) _, Session.head_notLater (own c),
    fun request asks nonzero => Session.head_of_listing available (own c) asks nonzero,
    Session.progress_of_running available (Session.outcome_runningSyncs available [c])⟩,
    fun ids => ⟨_, Session.outcome_runningSyncs available ids, answered ids, ?_, fun ids' same => ?_,
      fun c mem => ?_⟩⟩
  · have selected := s.store.tables.select_lists (.running (.scopes (ids.map Uuid.text))) .newestFirst
    exact selected.perm.subperm.trans List.filter_sublist.subperm
  · rw [Session.outcome_runningSyncs available, JobTables.select_running_congr same]
  · rw [Session.outcome_runningSyncs available]
    exact congrArg Except.ok ((own c).unique (JobTables.filter_select_running mem))

/-- Two running syncs of one connection, a finished one that is newer than the first, and a running sync
of another connection. -/
theorem running_syncs_agree_two :
    let uuid (digit : Fin 16) : Uuid := ⟨.replicate 32 digit⟩
    let job (id : JobId) (owner : Uuid) (status : JobStatus) : Job :=
      ⟨id, .sync, owner.text, none, status, ⟨id, 0⟩, ⟨id, 0⟩, some ⟨id, 1⟩, []⟩
    let s := Session.setUp [.insertJob (job 1 (uuid 1) .running), .insertJob (job 2 (uuid 2) .pending),
      .insertJob (job 3 (uuid 1) .succeeded), .insertJob (job 4 (uuid 1) .incomplete)]
    let request : JobListRequest := ⟨⟨[.refresh, .sync], some ["Running", "pending", "INCOMPLETE"],
      .unbounded, .unbounded, some ⟨some 1, none⟩, none, none⟩, some (uuid 1).text, none⟩
    s.store.available = true ∧
    s.RunningViews (uuid 1) [job 4 (uuid 1) .incomplete, job 1 (uuid 1) .running] ∧
    (∃ listing, s.outcome (.listing s.settings request) = .ok listing ∧
      listing.jobs.head?.map (·.job.withoutStats) = some (.ofJob (job 4 (uuid 1) .incomplete))) ∧
    ∃ rows, s.outcome (.runningSyncs [uuid 2, uuid 1, uuid 2]) = .ok rows ∧
      rows.Subperm s.store.tables.jobs ∧
      s.outcome (.runningSyncs [uuid 1, uuid 2]) = .ok rows ∧
      s.outcome (.runningSyncs [uuid 1]) = .ok (rows.filter (·.scope = (uuid 1).text)) := by
  intro uuid job s request
  have available : s.store.available = true := rfl
  obtain ⟨agree, several⟩ := running_syncs_agree s available
  obtain ⟨running, views⟩ := agree (uuid 1)
  have same : running = [job 4 (uuid 1) .incomplete, job 1 (uuid 1) .running] :=
    (JobOrder.eq_sort_of_perm (by decide) views.lists.perm views.lists.sorted).trans
      (JobOrder.eq_sort_of_perm (by decide) (by decide) (by decide)).symm
  rw [same] at views
  obtain ⟨rows, answered, -, once, congr, parts⟩ := several [uuid 2, uuid 1, uuid 2]
  have asks : request.AsksRunning (uuid 1) := by
    refine ⟨fun t => ?_, rfl, ⟨_, [.running, .pending, .incomplete], rfl, by decide, fun status => ?_⟩,
      rfl, rfl, rfl, rfl, rfl⟩
    · cases t <;> decide
    · cases status <;> decide
  refine ⟨available, views, views.listing request asks (by decide), rows, answered, once, ?_, ?_⟩
  · exact congr [uuid 1, uuid 2] fun c => by simp [or_comm, or_left_comm]
  · exact parts (uuid 1) (by simp)

end SyncHistory
