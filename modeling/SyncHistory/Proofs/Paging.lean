import SyncHistory.Proofs.Listing

/-!
# Pages by offset

The pages of a listing at the offsets 0, `size`, 2 · `size` and so on are the listing cut into pieces
(`flatMap_windows`): put together again they give it back, with no row lost, repeated or moved. The
count of a filter is the length of its listing, and at the level of requests the number of all jobs
depends on nothing but the filter.

`offset_pages_tile` says all of this of a session whose job store can be reached. That a listing is the
stored jobs that match, in order, is `JobTables.select_lists`.
-/

namespace SyncHistory

/-- Windows of one size, each where the last one ended, are the start of the list. -/
theorem flatMap_windows (rows : List α) (size count : Nat) :
    ((List.range count).flatMap fun i => (rows.drop (i * size)).take size) =
      rows.take (count * size) := by
  induction count with
  | zero => simp only [List.range_zero, List.flatMap_nil, Nat.zero_mul, List.take_zero]
  | succ count ih =>
    rw [List.range_succ, List.flatMap_append, ih, List.flatMap_singleton, Nat.succ_mul, List.take_add]

/-- A window is the rows from its offset on, up to its limit or the last row. -/
theorem Window.of_eq_extract (w : Window) (rows : List α) :
    w.of rows = rows.extract w.offset.toNat (min (w.offset.toNat + w.limit.toNat) rows.length) := by
  rw [Window.of, List.extract_eq_take_drop, List.take_eq_take_iff, List.length_drop]
  omega

/-- The pages of a listing from its start on, asked for one after the other. -/
def Inquiry.pages (filter : JobFilter) (order : JobOrder) (size : UInt32) (count : Nat) :
    Inquiry (List (List Job)) :=
  (List.range count).mapM fun i =>
    Inquiry.jobs (.list filter order (some ⟨size, .ofNat (i * size.toNat)⟩))

namespace Session

variable [SchemaChecker] {s : Session}

/-- As long as their offsets can be asked for, pages are windows of the listing. -/
theorem outcome_pages (available : s.store.available = true) (filter : JobFilter) (order : JobOrder)
    {size : UInt32} {count : Nat} (fits : ∀ i < count, i * size.toNat < UInt32.size) :
    s.outcome (.pages filter order size count) = .ok ((List.range count).map fun i =>
      ((s.store.tables.select filter order).drop (i * size.toNat)).take size.toNat) := by
  refine outcome_mapM fun i hi => ?_
  rw [outcome_jobs available]
  show Except.ok (Window.of _ _) = _
  rw [Window.of, UInt32.toNat_ofNat_of_lt' (fits i (List.mem_range.mp hi))]

/-- The answer to an accepted request in offset mode has the rows of its page and the number of all
jobs that match. -/
theorem outcome_offset_listing (available : s.store.available = true) {settings : Settings}
    {request : JobListRequest} {plan : ListingPlan}
    (planned : request.plan settings.defaultPageSize = .ok plan)
    (byOffset : request.includingJobId = none) :
    ∃ listing, s.outcome (.listing settings request) = .ok listing ∧
      listing.totalJobCount = (s.store.tables.matching plan.filter).length ∧
      listing.jobs.length = min (request.pageSize settings.defaultPageSize).toNat
        (listing.totalJobCount - min request.rowOffset.toNat listing.totalJobCount) := by
  have page := JobListRequest.plan_offset planned byOffset
  refine ⟨_, outcome_listing available planned (outcome_offset available page),
    JobTables.count_eq _ _, ?_⟩
  rw [JobTables.count_eq, List.length_map, JobTables.list, Window.of, List.length_take,
    List.length_drop, JobTables.length_select]
  dsimp only
  omega

end Session

/-- Requests that ask for the same kinds, owner, statuses and times have the same filter, if both are
accepted. -/
theorem JobListRequest.plan_filter_congr {request other : JobListRequest} {size size' : UInt32}
    {plan plan' : ListingPlan} (planned : request.plan size = .ok plan)
    (planned' : other.plan size' = .ok plan') (configTypes : other.configTypes = request.configTypes)
    (configId : other.configId = request.configId) (statuses : other.statuses = request.statuses)
    (createdAt : other.createdAt = request.createdAt)
    (updatedAt : other.updatedAt = request.updatedAt) : plan'.filter = plan.filter := by
  obtain ⟨found, hfound, eq⟩ := plan_filter planned
  obtain ⟨found', hfound', eq'⟩ := plan_filter planned'
  rw [ListingRequest.planStatuses, statuses] at hfound'
  obtain rfl : found = found' := Except.ok.inj (hfound.symm.trans hfound')
  rw [eq, eq', selector, selector, configTypes, configId, createdAt, updatedAt]

/-- **Pages by offset tile the listing.** The listing of a filter is the stored jobs that match, in
order, and their number is the count. A page is the rows from its offset on, as many as its size or as
there are left, so the pages one after the other are the listing. A request in offset mode is answered
by the rows of its page, and the number of all jobs that it is told is the same whatever page, job to
include or order it asks for. -/
theorem offset_pages_tile [SchemaChecker] (s : Session) (available : s.store.available = true) :
    (∀ (filter : JobFilter) (order : JobOrder), ∃ rows,
      s.outcome (.jobs (.list filter order none)) = .ok rows ∧
      order.Lists (s.store.tables.matching filter) rows ∧
      s.outcome (.jobs (.count filter)) = .ok rows.length ∧
      ∀ size : UInt32,
        (∀ offset : UInt32, s.outcome (.jobs (.list filter order (some ⟨size, offset⟩))) =
          .ok (rows.extract offset.toNat (min (offset.toNat + size.toNat) rows.length))) ∧
        ∀ count : Nat, (∀ i < count, i * size.toNat < UInt32.size) →
          ∃ pages, s.outcome (.pages filter order size count) = .ok pages ∧
            pages.flatten = rows.take (count * size.toNat) ∧
            (rows.length ≤ count * size.toNat → pages.flatten = rows)) ∧
    (∀ (settings : Settings) (request : JobListRequest) (plan : ListingPlan),
      request.plan settings.defaultPageSize = .ok plan →
      (request.includingJobId = none →
        ∃ listing, s.outcome (.listing settings request) = .ok listing ∧
          listing.totalJobCount = (s.store.tables.matching plan.filter).length ∧
          listing.jobs.length = min (request.pageSize settings.defaultPageSize).toNat
            (listing.totalJobCount - min request.rowOffset.toNat listing.totalJobCount)) ∧
      ∀ pagination includingJobId orderByField orderByMethod plan',
        let other := { request with pagination, includingJobId, orderByField, orderByMethod }
        other.plan settings.defaultPageSize = .ok plan' →
          ∃ listing listing', s.outcome (.listing settings request) = .ok listing ∧
            s.outcome (.listing settings other) = .ok listing' ∧
            listing'.totalJobCount = listing.totalJobCount) := by
  refine ⟨fun filter order => ?_, fun settings request plan planned => ⟨?_, ?_⟩⟩
  · refine ⟨s.store.tables.select filter order, Session.outcome_jobs available _,
      s.store.tables.select_lists filter order, ?_, fun size => ⟨fun offset => ?_, fun count fits => ?_⟩⟩
    · rw [Session.outcome_jobs available, JobTables.length_select, ← JobTables.count_eq]
      rfl
    · rw [Session.outcome_jobs available, ← Window.of_eq_extract ⟨size, offset⟩]
      rfl
    · have whole : (((List.range count).map fun i =>
          ((s.store.tables.select filter order).drop (i * size.toNat)).take size.toNat).flatten) =
          (s.store.tables.select filter order).take (count * size.toNat) := by
        rw [← List.flatMap_def, flatMap_windows]
      refine ⟨_, Session.outcome_pages available filter order fits, whole, fun enough => ?_⟩
      rw [whole, List.take_of_length_le enough]
  · exact fun byOffset => Session.outcome_offset_listing available planned byOffset
  · intro pagination includingJobId orderByField orderByMethod plan' other planned'
    obtain ⟨rows, listed⟩ := Session.outcome_listJobs_ok available plan
    obtain ⟨rows', listed'⟩ := Session.outcome_listJobs_ok available plan'
    refine ⟨_, _, Session.outcome_listing available planned listed,
      Session.outcome_listing available planned' listed', ?_⟩
    rw [JobListRequest.plan_filter_congr planned planned' rfl rfl rfl rfl rfl]

/-- Three jobs, of which the first two are tied in time, in pages of two. -/
theorem offset_pages_tile_three :
    let job (id : JobId) (second : Int) : Job :=
      ⟨id, .sync, "c", none, .running, ⟨second, 0⟩, ⟨second, 0⟩, none, []⟩
    let s := Session.setUp [.insertJob (job 1 5), .insertJob (job 2 5), .insertJob (job 3 4)]
    s.store.available = true ∧
    (∃ pages, s.outcome (.pages (.ofScope [.sync] .unscoped) .newestFirst 2 2) = .ok pages ∧
      pages.flatten = [job 2 5, job 1 5, job 3 4]) ∧
    ∃ listing, s.outcome (.listing .standard
        ⟨⟨[.sync], none, .unbounded, .unbounded, some ⟨some 2, some 1⟩, none, none⟩, none, none⟩) =
          .ok listing ∧
      listing.totalJobCount = 3 ∧ listing.jobs.length = 2 := by
  intro job s
  have available : s.store.available = true := rfl
  refine ⟨available, ?_, ?_⟩
  · obtain ⟨rows, -, lists, -, windows⟩ :=
      (offset_pages_tile s available).1 (.ofScope [.sync] .unscoped) .newestFirst
    obtain ⟨pages, answer, -, whole⟩ := (windows 2).2 2 (by decide)
    have same : rows = [job 2 5, job 1 5, job 3 4] :=
      (JobOrder.eq_sort_of_perm (by decide) lists.perm lists.sorted).trans
        (JobOrder.eq_sort_of_perm (by decide) (by decide) (by decide)).symm
    refine ⟨pages, answer, (whole ?_).trans same⟩
    rw [same]
    decide
  · obtain ⟨listing, answer, total, length⟩ := ((offset_pages_tile s available).2 .standard
      ⟨⟨[.sync], none, .unbounded, .unbounded, some ⟨some 2, some 1⟩, none, none⟩, none, none⟩
      _ rfl).1 rfl
    have three : listing.totalJobCount = 3 := total.trans (by decide)
    refine ⟨listing, answer, three, ?_⟩
    rw [length, three]
    decide

end SyncHistory
