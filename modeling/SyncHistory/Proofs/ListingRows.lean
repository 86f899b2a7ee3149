import SyncHistory.Proofs.Hydration
import SyncHistory.Proofs.Listing

/-!
# Rows of listings and single jobs

The views of a page are made together: their statistics are fetched one after the other and put into the
views by position. `Session.IsLookup` says of one row that it is nevertheless what looking up its job on
its own comes to, and `listing_rows_are_lookups` that this holds of every row of an answered request.

Three facts carry it: a page has stored jobs and no others (`Session.mem_of_listJobs`), a stored job is
the one that its number leads to as long as no other job has that number (`Session.outcome_job_of_mem`),
and the view of a job does not depend on the page that it is on (`JobTables.view`).
-/

namespace SyncHistory

theorem JobTables.mem_of_list {t : JobTables} {filter : JobFilter} {order : JobOrder}
    {window : Option Window} {job : Job} (mem : job ∈ t.list filter order window) : job ∈ t.jobs := by
  have selected : job ∈ t.select filter order := by
    cases window with
    | none => exact mem
    | some window => exact List.mem_of_mem_drop (List.mem_of_mem_take mem)
  exact List.mem_of_mem_filter ((order.sort_perm _).mem_iff.mp selected)

namespace Session

theorem view_job_id (t : JobTables) (hydrated : Bool) (job : Job) :
    (t.view hydrated job).job.id = job.id := by
  cases hydrated <;> rfl

variable [SchemaChecker] {s : Session}

/-- The row is what looking up its job on its own comes to: the job and its attempts with statistics, or
the job alone and its stored attempts without any. -/
structure IsLookup (s : Session) (hydrated : Bool) (row : JobWithAttempts) : Prop where
  withStats : hydrated = true → s.outcome (.infoWithoutLogs row.job.id) =
    .ok ⟨row.job, row.attempts.map fun attempt => ⟨attempt, none⟩⟩
  withoutStats : hydrated = false → s.outcome (.infoLight row.job.id) = .ok row.job ∧
    ∃ job ∈ s.store.tables.jobs, job.id = row.job.id ∧ row.attempts = job.attempts.map .ofAttempt

/-- A planned request is answered with one row for each job of its page, in the same order, and every
row is a lookup. -/
def ListsLookups (s : Session) (hydrated : Bool) (plan : ListingPlan) (request : Inquiry JobListing) :
    Prop :=
  ∃ page listing, s.outcome (.listJobs plan) = .ok page ∧ s.outcome request = .ok listing ∧
    listing.jobs.map (·.job.id) = page.map Job.id ∧ ∀ row ∈ listing.jobs, s.IsLookup hydrated row

/-- Whatever the page, it has stored jobs and no others. -/
theorem mem_of_listJobs (available : s.store.available = true) {plan : ListingPlan} {page : List Job}
    (listed : s.outcome (.listJobs plan) = .ok page) {job : Job} (mem : job ∈ page) :
    job ∈ s.store.tables.jobs := by
  cases h : plan.page with
  | offset size offset =>
    rw [outcome_offset available h] at listed
    cases listed
    exact JobTables.mem_of_list mem
  | includingJob id size =>
    rw [outcome_cursor available h] at listed
    cases listed
    split at mem
    · exact JobTables.mem_of_list mem
    · cases mem

/-! ## Single jobs -/

/-- The job that a number leads to, if any has it. -/
theorem outcome_job (available : s.store.available = true) (id : JobId) :
    s.outcome (.job id) = match s.store.tables.jobs.find? fun job => job.id == id with
      | some job => .ok job
      | none => .error (.notFound .job (Digits.intText id)) := by
  have reply := outcome_jobs available (.get id)
  unfold Inquiry.job
  cases found : s.store.tables.jobs.find? fun job => job.id == id with
  | none => exact outcome_bind_ok (reply.trans (congrArg Except.ok found)) _
  | some job => exact outcome_bind_ok (reply.trans (congrArg Except.ok found)) _

/-- The number of a stored job leads to a job. -/
theorem exists_outcome_job (available : s.store.available = true) {job : Job}
    (mem : job ∈ s.store.tables.jobs) : ∃ found, s.outcome (.job job.id) = .ok found := by
  rw [outcome_job available]
  cases found : s.store.tables.jobs.find? fun j => j.id == job.id with
  | none => exact absurd (beq_iff_eq.mpr rfl) (List.find?_eq_none.mp found job mem)
  | some other => exact ⟨other, rfl⟩

theorem outcome_job_of_mem (available : s.store.available = true)
    (distinct : (s.store.tables.jobs.map Job.id).Nodup) {job : Job} (mem : job ∈ s.store.tables.jobs) :
    s.outcome (.job job.id) = .ok job := by
  rw [outcome_job available, find?_key_eq_some distinct mem]

theorem outcome_infoWithoutLogs (available : s.store.available = true) {id : JobId} {job : Job}
    (found : s.outcome (.job id) = .ok job) :
    s.outcome (.infoWithoutLogs id) = .ok ⟨(s.store.tables.view true job).job,
      (s.store.tables.view true job).attempts.map fun attempt => ⟨attempt, none⟩⟩ := by
  unfold Inquiry.infoWithoutLogs
  rw [outcome_bind_ok found, outcome_bind_ok (outcome_hydratedViews available [job] true)]
  rfl

theorem outcome_infoLight {id : JobId} {job : Job} (found : s.outcome (.job id) = .ok job) :
    s.outcome (.infoLight id) = .ok (.ofJob job) := by
  unfold Inquiry.infoLight
  rw [outcome_bind_ok found, outcome_pure]

/-! ## Rows -/

theorem view_isLookup (available : s.store.available = true)
    (distinct : (s.store.tables.jobs.map Job.id).Nodup) (hydrated : Bool) {job : Job}
    (mem : job ∈ s.store.tables.jobs) : s.IsLookup hydrated (s.store.tables.view hydrated job) := by
  have found := outcome_job_of_mem available distinct mem
  refine ⟨fun on => ?_, fun off => ?_⟩
  · rw [view_job_id, outcome_infoWithoutLogs available found, on]
  · rw [view_job_id, outcome_infoLight found, off]
    exact ⟨rfl, job, mem, rfl, rfl⟩

theorem listsLookups_of_page (available : s.store.available = true)
    (distinct : (s.store.tables.jobs.map Job.id).Nodup) {hydrated : Bool} {plan : ListingPlan}
    {request : Inquiry JobListing} {page : List Job} {total : Nat}
    (listed : s.outcome (.listJobs plan) = .ok page)
    (answered : s.outcome request = .ok ⟨page.map (s.store.tables.view hydrated), total⟩) :
    s.ListsLookups hydrated plan request := by
  refine ⟨page, _, listed, answered, ?_, fun row mem => ?_⟩
  · rw [List.map_map]
    exact List.map_congr_left fun job _ => view_job_id s.store.tables hydrated job
  · obtain ⟨job, onPage, rfl⟩ := List.mem_map.mp mem
    exact view_isLookup available distinct hydrated (mem_of_listJobs available listed onPage)

/-- An accepted request for the jobs of workspaces is answered by the views of its page. -/
theorem outcome_workspaceListing (available : s.store.available = true) {settings : Settings}
    {request : WorkspaceListRequest} {plan : ListingPlan} {page : List Job}
    (planned : request.plan settings.defaultPageSize = .ok plan)
    (listed : s.outcome (.listJobs plan) = .ok page) :
    s.outcome (.workspaceListing settings request) =
      .ok ⟨page.map (s.store.tables.view settings.hydrateAggregatedStats), page.length⟩ := by
  unfold Inquiry.workspaceListing
  rw [planned, outcome_bind_ok (outcome_ofExcept s _), outcome_bind_ok listed,
    outcome_bind_ok (outcome_hydratedViews available page _), outcome_pure, List.length_map]

end Session

/-- **Rows of listings are lookups.** In a session whose job store can be reached and has no two jobs
with the same number, a request for a listing is answered if planning accepts it and fails with what
planning says if not. Each row of the answer is what looking up its job on its own comes to: with
statistics, the job and its attempts as they are without logs, and else the job alone and its stored
attempts in order. -/
theorem listing_rows_are_lookups [SchemaChecker] (s : Session) (available : s.store.available = true)
    (distinct : (s.store.tables.jobs.map Job.id).Nodup) (settings : Settings) :
    (∀ request : JobListRequest,
      (∀ plan, request.plan settings.defaultPageSize = .ok plan →
        s.ListsLookups settings.hydrateAggregatedStats plan (.listing settings request)) ∧
      ∀ e, request.plan settings.defaultPageSize = .error e →
        s.outcome (.listing settings request) = .error e) ∧
    ∀ request : WorkspaceListRequest,
      (∀ plan, request.plan settings.defaultPageSize = .ok plan →
        s.ListsLookups settings.hydrateAggregatedStats plan (.workspaceListing settings request)) ∧
      ∀ e, request.plan settings.defaultPageSize = .error e →
        s.outcome (.workspaceListing settings request) = .error e := by
  refine ⟨fun request => ⟨fun plan planned => ?_, fun e refused => ?_⟩,
    fun request => ⟨fun plan planned => ?_, fun e refused => ?_⟩⟩
  · obtain ⟨page, listed⟩ := Session.outcome_listJobs_ok available plan
    exact Session.listsLookups_of_page available distinct listed
      (Session.outcome_listing available planned listed)
  · rw [Inquiry.listing, refused, Session.outcome_bind]
    rfl
  · obtain ⟨page, listed⟩ := Session.outcome_listJobs_ok available plan
    exact Session.listsLookups_of_page available distinct listed
      (Session.outcome_workspaceListing available planned listed)
  · rw [Inquiry.workspaceListing, refused, Session.outcome_bind]
    rfl

/-- Two jobs of two attempts each, of which one has statistics. -/
theorem listing_rows_are_lookups_two :
    let attempt (number : Int) : Attempt :=
      ⟨number, .failed, none, none, none, ⟨number, 0⟩, ⟨number, 0⟩, none⟩
    let job (id : JobId) : Job :=
      ⟨id, .sync, "c", none, .failed, ⟨id, 0⟩, ⟨id, 0⟩, none, [attempt 0, attempt 1]⟩
    let s := Session.setUp [.insertJob (job 1), .insertJob (job 2),
      .insertStats 1 ⟨1, ⟨5, 5, 5, 5⟩, []⟩]
    let settings : Settings := { Settings.standard with hydrateAggregatedStats := true }
    let request : JobListRequest :=
      ⟨⟨[.sync], none, .unbounded, .unbounded, none, none, none⟩, some "c", none⟩
    s.store.available = true ∧ (s.store.tables.jobs.map Job.id).Nodup ∧
    ∃ plan listing, request.plan settings.defaultPageSize = .ok plan ∧
      s.outcome (.listing settings request) = .ok listing ∧
      listing.jobs.map (·.job.id) = [2, 1] ∧
      ∀ row ∈ listing.jobs, s.outcome (.infoWithoutLogs row.job.id) =
        .ok ⟨row.job, row.attempts.map fun attempt => ⟨attempt, none⟩⟩ := by
  intro attempt job s settings request
  have available : s.store.available = true := rfl
  have distinct : (s.store.tables.jobs.map Job.id).Nodup := by decide
  have planned : request.plan settings.defaultPageSize = .ok ⟨⟨[.sync], .scope "c", none, .unbounded,
      .unbounded⟩, .newestFirst, .offset 200 0⟩ := by decide
  have selected : [job 2, job 1] = s.store.tables.select ⟨[.sync], .scope "c", none, .unbounded,
      .unbounded⟩ .newestFirst :=
    JobOrder.eq_sort_of_perm (by decide) (by decide) (by decide)
  obtain ⟨page, listing, listed, answered, ids, rows⟩ :=
    ((listing_rows_are_lookups s available distinct settings).1 request).1 _ planned
  rw [Session.outcome_offset available rfl] at listed
  refine ⟨available, distinct, _, listing, planned, answered, ?_, fun row mem => (rows row mem).withStats rfl⟩
  rw [ids, ← Except.ok.inj listed, JobTables.list, ← selected]
  rfl

end SyncHistory
