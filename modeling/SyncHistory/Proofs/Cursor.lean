import Mathlib.Algebra.Order.Floor.Div
import SyncHistory.Proofs.Listing

/-!
# Pages up to a job

A page that has to include a job is the start of the listing of its kinds and owners, the newest job
first: `IsCursorPage` says that it ends with the page of the usual size that has the job. A store is
asked twice for it, for the place of the job and then for that many rows; both answers come from the same
listing, and rounding the place up to whole pages is what the limit does (`cursorLimit_toNat`).

`cursor_page_smallest` says which jobs an accepted request gets. Its statuses, times, order and offset
have no part in that.
-/

namespace SyncHistory

/-! ## The rows of a cursor page -/

/-- How many whole pages reach up to the first job with a number. -/
def pagesUpTo (rows : List Job) (id : JobId) (size : Nat) : Nat :=
  (rows.findIdx (·.id == id) + 1) ⌈/⌉ size

/-- The page has the smallest whole number of pages of a listing that reaches a job, or all of the
listing where its last page is not full. -/
structure IsCursorPage (rows : List Job) (id : JobId) (size : Nat) (page : List Job) : Prop where
  start : page <+: rows
  mem : ∃ job ∈ page, job.id = id
  length : page.length = min rows.length (pagesUpTo rows id size * size)
  smallest : ∀ job ∈ rows.take ((pagesUpTo rows id size - 1) * size), job.id ≠ id

theorem findIdx_lt_length {rows : List Job} {id : JobId} (found : ∃ job ∈ rows, job.id = id) :
    rows.findIdx (·.id == id) < rows.length :=
  List.findIdx_lt_length_of_exists (found.imp fun _ h => ⟨h.1, beq_iff_eq.mpr h.2⟩)

/-- The whole pages up to a place reach it, and one page less does not. -/
theorem ceilDiv_mul_bounds (n : Nat) {size : Nat} (pos : 0 < size) :
    n < (n + 1) ⌈/⌉ size * size ∧ ((n + 1) ⌈/⌉ size - 1) * size ≤ n := by
  have reaches := (ceilDiv_le_iff_le_mul pos).mp (le_refl ((n + 1) ⌈/⌉ size))
  have shorter : ¬ (n + 1) ⌈/⌉ size ≤ (n + 1) ⌈/⌉ size - 1 → ((n + 1) ⌈/⌉ size - 1) * size ≤ n := by
    rw [ceilDiv_le_iff_le_mul pos, Nat.mul_comm]
    omega
  rw [Nat.mul_comm] at reaches
  refine ⟨reaches, shorter fun h => ?_⟩
  rw [show (n + 1) ⌈/⌉ size = 0 by omega, Nat.zero_mul] at reaches
  omega

/-- Taking the rows of the whole pages up to a job makes a cursor page. -/
theorem take_isCursorPage {rows : List Job} {id : JobId} {size : Nat} (pos : 0 < size)
    (found : ∃ job ∈ rows, job.id = id) :
    IsCursorPage rows id size (rows.take (pagesUpTo rows id size * size)) := by
  have bounds := ceilDiv_mul_bounds (rows.findIdx (·.id == id)) pos
  have inside := findIdx_lt_length found
  refine ⟨List.take_prefix _ _, ?_, ?_, fun job mem eq => ?_⟩
  · refine ⟨rows[rows.findIdx (·.id == id)], List.mem_take_iff_getElem.mpr ⟨_, ?_, rfl⟩, ?_⟩
    · exact Nat.lt_min.mpr ⟨bounds.1, inside⟩
    · exact beq_iff_eq.mp (List.findIdx_getElem (p := fun job : Job => job.id == id) (w := inside))
  · rw [List.length_take, Nat.min_comm]
  · obtain ⟨i, hi, rfl⟩ := List.mem_take_iff_getElem.mp mem
    have before : i < rows.findIdx (·.id == id) :=
      Nat.lt_of_lt_of_le (Nat.lt_of_lt_of_le hi (Nat.min_le_left _ _)) bounds.2
    exact absurd (beq_iff_eq.mpr eq) (Bool.not_eq_true _ ▸ List.not_of_lt_findIdx before)

/-! ## What a store answers -/

/-- The limit of a cursor page is a whole number of pages, as far as that many rows can be asked for. -/
theorem cursorLimit_toNat (position : Nat) (size : UInt32) :
    (cursorLimit position size).toNat =
      min (position ⌈/⌉ size.toNat * size.toNat) (maxRows) := by
  rw [cursorLimit, UInt32.toNat_ofNat_of_lt', Nat.ceilDiv_eq_add_pred_div]
  exact Nat.lt_of_le_of_lt (Nat.min_le_right _ _) (by decide)

namespace JobTables

theorem position_eq_none {t : JobTables} {filter : JobFilter} {order : JobOrder} {id : JobId} :
    t.position filter order id = none ↔ ∀ job ∈ t.select filter order, job.id ≠ id := by
  rw [position, Option.map_eq_none_iff, List.findIdx?_eq_none_iff]
  exact forall₂_congr fun job _ => beq_eq_false_iff_ne

/-- The place of a job is that of the first one with its number. -/
theorem position_eq_some {t : JobTables} {filter : JobFilter} {order : JobOrder} {id : JobId}
    (found : ∃ job ∈ t.select filter order, job.id = id) :
    t.position filter order id = some ((t.select filter order).findIdx (·.id == id) + 1) := by
  rw [position, List.findIdx?_eq_some_iff_findIdx_eq.mpr ⟨findIdx_lt_length found, rfl⟩]
  rfl

end JobTables

/-- The request is about the jobs of such a kind and scope. -/
def JobListRequest.Concerns (r : JobListRequest) (job : Job) : Prop :=
  job.configType ∈ r.configTypes ∧ ∀ configId ∈ r.configId, job.scope = configId

instance (r : JobListRequest) (job : Job) : Decidable (r.Concerns job) :=
  inferInstanceAs (Decidable (_ ∧ _))

/-- A cursor page goes by what a request is about. -/
theorem JobListRequest.matching_cursorPart {request : JobListRequest} {defaultSize : UInt32}
    {plan : ListingPlan} (planned : request.plan defaultSize = .ok plan) (t : JobTables) :
    t.matching plan.filter.cursorPart = t.jobs.filter request.Concerns := by
  refine List.filter_congr fun job _ => decide_eq_decide.mpr ?_
  rw [plan_cursorPart planned, JobFilter.ofScope_matches, ConfigType.mem_normalize, and_comm, Concerns,
    selector]
  refine and_congr_right fun _ => ?_
  cases request.configId with
  | none => exact iff_of_true trivial fun _ h => nomatch h
  | some configId => exact ⟨fun h _ mem => Option.mem_some.mp mem ▸ h, fun h => h configId rfl⟩

namespace Session

variable [SchemaChecker] {s : Session}

theorem outcome_cursor_missing (available : s.store.available = true) {plan : ListingPlan}
    {id : JobId} {size : UInt32} (page : plan.page = .includingJob id size)
    (missing : ∀ job ∈ s.store.tables.select plan.filter.cursorPart .newestFirst, job.id ≠ id) :
    s.outcome (.listJobs plan) = .ok [] := by
  rw [outcome_cursor available page, JobTables.position_eq_none.mpr missing]

/-- As long as all rows of a listing can be asked for, so can those of the pages up to a job. -/
theorem outcome_cursor_found (available : s.store.available = true) {plan : ListingPlan}
    {id : JobId} {size : UInt32} (page : plan.page = .includingJob id size)
    (fits : (s.store.tables.select plan.filter.cursorPart .newestFirst).length < UInt32.size)
    (found : ∃ job ∈ s.store.tables.select plan.filter.cursorPart .newestFirst, job.id = id) :
    s.outcome (.listJobs plan) = .ok
      ((s.store.tables.select plan.filter.cursorPart .newestFirst).take
        (pagesUpTo (s.store.tables.select plan.filter.cursorPart .newestFirst) id size.toNat *
          size.toNat)) := by
  rw [outcome_cursor available page, JobTables.position_eq_some found]
  show Except.ok (Window.of _ _) = _
  rw [Window.of, UInt32.toNat_zero, List.drop_zero, cursorLimit_toNat]
  refine congrArg Except.ok (List.take_eq_take_iff.mpr ?_)
  have top : UInt32.size = maxRows + 1 := rfl
  rw [pagesUpTo]
  omega

end Session

/-- **Pages up to a job.** An accepted request that has to include a job gets the start of the listing of
everything it is about, the newest job first: the smallest whole number of pages that has the job, or
nothing if the job is not there. What else it asks for makes no difference. The bound on the listing is
that of the number of rows that can be asked for. -/
theorem cursor_page_smallest [SchemaChecker] (s : Session) (available : s.store.available = true)
    (request : JobListRequest) (defaultSize : UInt32) (plan : ListingPlan) (id : JobId)
    (planned : request.plan defaultSize = .ok plan) (including : request.includingJobId = some id) :
    (∃ rows, JobOrder.newestFirst.Lists (s.store.tables.jobs.filter request.Concerns) rows ∧
      ((∀ job ∈ rows, job.id ≠ id) → s.outcome (.listJobs plan) = .ok []) ∧
      (rows.length < UInt32.size → (∃ job ∈ rows, job.id = id) →
        ∃ page, s.outcome (.listJobs plan) = .ok page ∧
          IsCursorPage rows id (request.pageSize defaultSize).toNat page)) ∧
    ∀ (other : JobListRequest) (plan' : ListingPlan), other.plan defaultSize = .ok plan' →
      other.configTypes = request.configTypes → other.configId = request.configId →
      other.includingJobId = request.includingJobId →
      other.pageSize defaultSize = request.pageSize defaultSize →
      s.outcome (.listJobs plan') = s.outcome (.listJobs plan) := by
  obtain ⟨nonzero, page⟩ := JobListRequest.plan_includingJob planned including
  have lists := s.store.tables.select_lists plan.filter.cursorPart .newestFirst
  refine ⟨⟨_, JobListRequest.matching_cursorPart planned _ ▸ lists, fun missing => ?_,
    fun fits found => ?_⟩, fun other plan' planned' configTypes configId including' pageSize => ?_⟩
  · exact Session.outcome_cursor_missing available page missing
  · have pos : 0 < (request.pageSize defaultSize).toNat :=
      Nat.pos_of_ne_zero fun h => nonzero (UInt32.toNat_inj.mp h)
    exact ⟨_, Session.outcome_cursor_found available page fits found, take_isCursorPage pos found⟩
  · obtain ⟨-, page'⟩ := JobListRequest.plan_includingJob planned' (including'.trans including)
    rw [pageSize] at page'
    have same : plan'.filter.cursorPart = plan.filter.cursorPart := by
      rw [JobListRequest.plan_cursorPart planned, JobListRequest.plan_cursorPart planned',
        JobListRequest.selector, JobListRequest.selector, configTypes, configId]
    rw [Session.outcome_cursor available page, Session.outcome_cursor available page', same]

/-- Of five syncs and a job of another kind, the two pages of two syncs up to the third newest one. -/
theorem cursor_page_of_five :
    let job (id : JobId) (configType : ConfigType) : Job :=
      ⟨id, configType, "c", none, .running, ⟨id, 0⟩, ⟨0, 0⟩, none, []⟩
    let s := Session.setUp [.insertJob (job 1 .sync), .insertJob (job 2 .sync),
      .insertJob (job 3 .sync), .insertJob (job 4 .clear), .insertJob (job 5 .sync),
      .insertJob (job 6 .sync)]
    let request : JobListRequest := ⟨⟨[.sync], some ["failed"], .unbounded, .unbounded,
      some ⟨some 2, some 1⟩, none, some "asc"⟩, some "c", some 3⟩
    s.store.available = true ∧ request.includingJobId = some 3 ∧
    ∃ plan, request.plan defaultPageSize = .ok plan ∧
      s.outcome (.listJobs plan) = .ok [job 6 .sync, job 5 .sync, job 3 .sync, job 2 .sync] := by
  intro job s request
  have available : s.store.available = true := rfl
  have planned : request.plan defaultPageSize = .ok ⟨⟨[.sync], .scope "c", some [.failed], .unbounded,
      .unbounded⟩, ⟨.createdAt, .ascending⟩, .includingJob 3 2⟩ := by decide
  obtain ⟨⟨rows, lists, -, hpage⟩, -⟩ :=
    cursor_page_smallest s available request defaultPageSize _ 3 planned rfl
  have same : rows = [job 6 .sync, job 5 .sync, job 3 .sync, job 2 .sync, job 1 .sync] :=
    (JobOrder.eq_sort_of_perm (by decide) lists.perm lists.sorted).trans
      (JobOrder.eq_sort_of_perm (by decide) (by decide) (by decide)).symm
  have two : pagesUpTo rows 3 (request.pageSize defaultPageSize).toNat = 2 := by
    rw [same, pagesUpTo, Nat.ceilDiv_eq_add_pred_div]
    decide
  obtain ⟨page, answer, isPage⟩ := hpage (by rw [same]; decide) (by rw [same]; decide)
  refine ⟨available, rfl, _, planned, answer.trans (congrArg Except.ok ?_)⟩
  rw [List.prefix_iff_eq_take.mp isPage.start, isPage.length, two, same]
  decide

end SyncHistory
