import SyncHistory.History
import SyncHistory.Proofs.Failure

/-!
# Accepted and refused requests

What the plan of an accepted request is made of. Each part of a plan comes from its own part of the
request (`ListingRequest.plan_parts`): the filter from the kinds of jobs, the statuses and the times, the
order from the two words for it, and the page from the size and the offset or the job to include, where
the size is never zero (`ListingRequest.planPage_eq_ok`). So two requests that agree on what a part is
made of have that part in common. Nothing is asked for a refused request
(`Operation.answer_of_refused`).
-/

namespace SyncHistory

namespace ConfigType

/-- Putting the requested kinds in order neither adds nor loses any. -/
theorem mem_normalize {requested : List ConfigType} {t : ConfigType} :
    t ∈ normalize requested ↔ t ∈ requested := by
  rw [normalize, List.mem_filter, List.contains_iff_mem]
  exact and_iff_right (by cases t <;> decide)

end ConfigType

namespace ListingRequest

/-- The page size of a request, the one that goes without saying if it asks for none. -/
def pageSize (r : ListingRequest) (defaultSize : UInt32) : UInt32 :=
  (r.pagination.bind (·.pageSize)).getD defaultSize

/-- The number of rows that a request skips. -/
def rowOffset (r : ListingRequest) : UInt32 :=
  (r.pagination.bind (·.rowOffset)).getD 0

theorem getD_pageSize (r : ListingRequest) (defaultSize : UInt32) :
    (r.pagination.getD ⟨none, none⟩).pageSize.getD defaultSize = r.pageSize defaultSize := by
  unfold pageSize
  cases r.pagination <;> rfl

theorem getD_rowOffset (r : ListingRequest) :
    (r.pagination.getD ⟨none, none⟩).rowOffset.getD 0 = r.rowOffset := by
  unfold rowOffset
  cases r.pagination <;> rfl

theorem plan_parts {r : ListingRequest} {scope : ScopeSelector} {including : Option JobId}
    {defaultSize : UInt32} {plan : ListingPlan}
    (planned : r.plan scope including defaultSize = .ok plan) :
    r.planFilter scope = .ok plan.filter ∧ r.planOrder = .ok plan.order ∧
      r.planPage including defaultSize = .ok plan.page := by
  obtain ⟨filter, hfilter, planned⟩ := bind_eq_ok.mp planned
  obtain ⟨order, horder, planned⟩ := bind_eq_ok.mp planned
  obtain ⟨page, hpage, planned⟩ := bind_eq_ok.mp planned
  cases planned
  exact ⟨hfilter, horder, hpage⟩

theorem plan_of_parts {r : ListingRequest} {scope : ScopeSelector} {including : Option JobId}
    {defaultSize : UInt32} {plan : ListingPlan} (filter : r.planFilter scope = .ok plan.filter)
    (order : r.planOrder = .ok plan.order) (page : r.planPage including defaultSize = .ok plan.page) :
    r.plan scope including defaultSize = .ok plan :=
  bind_eq_ok.mpr ⟨_, filter, bind_eq_ok.mpr ⟨_, order, bind_eq_ok.mpr ⟨_, page, rfl⟩⟩⟩

/-- The filter of an accepted request asks for the requested kinds, of which there is one at least. -/
theorem planFilter_eq_ok {r : ListingRequest} {scope : ScopeSelector} {filter : JobFilter} :
    r.planFilter scope = .ok filter ↔
      r.configTypes ≠ [] ∧ ∃ statuses, r.planStatuses = .ok statuses ∧
        filter = ⟨ConfigType.normalize r.configTypes, scope, statuses, r.createdAt, r.updatedAt⟩ := by
  unfold planFilter
  rw [check_eq_ok, bind_eq_ok, List.isEmpty_iff]
  refine and_congr_right fun _ => exists_congr fun statuses => and_congr_right fun _ => ?_
  exact ⟨fun h => by cases h; rfl, fun h => by rw [h]; rfl⟩

/-- The page of an accepted request, which has room for one row at least. -/
theorem planPage_eq_ok {r : ListingRequest} {including : Option JobId} {defaultSize : UInt32}
    {page : PageRequest} :
    r.planPage including defaultSize = .ok page ↔
      r.pageSize defaultSize ≠ 0 ∧ page = match including with
        | some id => .includingJob id (r.pageSize defaultSize)
        | none => .offset (r.pageSize defaultSize) r.rowOffset := by
  unfold planPage
  simp only [getD_pageSize, getD_rowOffset]
  rw [check_eq_ok]
  refine and_congr_right fun _ => ?_
  cases including with
  | none => exact ⟨fun h => by cases h; rfl, fun h => by rw [h]; rfl⟩
  | some id => exact ⟨fun h => by cases h; rfl, fun h => by rw [h]; rfl⟩

end ListingRequest

namespace JobListRequest

/-- The owners that a request is about. -/
def selector (r : JobListRequest) : ScopeSelector :=
  match r.configId with
  | some id => .scope id
  | none => .unscoped

variable {r : JobListRequest} {defaultSize : UInt32} {plan : ListingPlan}

theorem plan_filter (planned : r.plan defaultSize = .ok plan) :
    ∃ statuses, r.planStatuses = .ok statuses ∧
      plan.filter = ⟨ConfigType.normalize r.configTypes, r.selector, statuses, r.createdAt,
        r.updatedAt⟩ :=
  (ListingRequest.planFilter_eq_ok.mp (ListingRequest.plan_parts planned).1).2

/-- Cursor pages go by the kinds and owners of a request. -/
theorem plan_cursorPart (planned : r.plan defaultSize = .ok plan) :
    plan.filter.cursorPart = .ofScope (ConfigType.normalize r.configTypes) r.selector := by
  obtain ⟨statuses, -, filter⟩ := plan_filter planned
  rw [filter, JobFilter.cursorPart]

theorem plan_includingJob (planned : r.plan defaultSize = .ok plan) {id : JobId}
    (including : r.includingJobId = some id) :
    r.pageSize defaultSize ≠ 0 ∧ plan.page = .includingJob id (r.pageSize defaultSize) := by
  have page := ListingRequest.planPage_eq_ok.mp (ListingRequest.plan_parts planned).2.2
  rwa [including] at page

theorem plan_offset (planned : r.plan defaultSize = .ok plan) (byOffset : r.includingJobId = none) :
    plan.page = .offset (r.pageSize defaultSize) r.rowOffset := by
  have page := ListingRequest.planPage_eq_ok.mp (ListingRequest.plan_parts planned).2.2
  rw [byOffset] at page
  exact page.2

end JobListRequest

namespace Operation

/-- Planning refuses the request of the operation. -/
def Refused (settings : Settings) : Operation → HistoryError → Prop
  | listJobs request, e => request.plan settings.defaultPageSize = .error e
  | listWorkspaces request, e => request.plan settings.defaultPageSize = .error e
  | _, _ => False

variable {settings : Settings} {asksWorkflow : Bool} {operation : Operation}

/-- Nothing is asked for a refused request. -/
theorem answer_of_refused {e : HistoryError} (refused : operation.Refused settings e) :
    (operation.answer settings asksWorkflow).run = .done (.error e) := by
  cases operation with
  | listJobs request =>
    have plan : request.plan settings.defaultPageSize = .error e := refused
    show (Inquiry.listing settings request >>= fun l => pure l.toJson).run = _
    rw [Inquiry.listing, plan]
    rfl
  | listWorkspaces request =>
    have plan : request.plan settings.defaultPageSize = .error e := refused
    show (Inquiry.workspaceListing settings request >>= fun l => pure l.toJson).run = _
    rw [Inquiry.workspaceListing, plan]
    rfl
  | _ => cases refused

end Operation

end SyncHistory
