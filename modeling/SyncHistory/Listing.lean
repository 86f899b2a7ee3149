import SyncHistory.Filter
import SyncHistory.Order

/-!
# Requests for listings

What a caller asks for when it lists jobs, and the plan that a request turns into. Planning checks a
request in a fixed order, kinds of jobs, statuses, order and page size, and reports the first fault;
it asks the store nothing.
-/

namespace SyncHistory

/-- The page size of a listing that asks for none. -/
def defaultPageSize : UInt32 := 200

/-- The page that a caller asks for. -/
structure Pagination where
  pageSize : Option UInt32
  rowOffset : Option UInt32
deriving DecidableEq

/-- A request for a listing, common to all jobs, those of one scope and those of workspaces. -/
structure ListingRequest where
  configTypes : List ConfigType
  statuses : Option (List String)
  createdAt : TimeRange
  updatedAt : TimeRange
  pagination : Option Pagination
  orderByField : Option String
  orderByMethod : Option String
deriving DecidableEq

/-- A request for the jobs of one scope, or of all scopes; it may ask for the pages up to one job. -/
structure JobListRequest extends ListingRequest where
  configId : Option String
  includingJobId : Option JobId
deriving DecidableEq

/-- A request for the jobs of the connections of several workspaces. -/
structure WorkspaceListRequest extends ListingRequest where
  workspaceIds : List Uuid
deriving DecidableEq

/-- The part of a listing that is wanted. -/
inductive PageRequest where
  /-- The rows of one page, after those skipped. -/
  | offset (pageSize rowOffset : UInt32)
  /-- The smallest whole number of pages that has the job. -/
  | includingJob (id : JobId) (pageSize : UInt32)
deriving DecidableEq

/-- A checked request. -/
structure ListingPlan where
  filter : JobFilter
  order : JobOrder
  page : PageRequest
deriving DecidableEq

/-- The statuses that a request asks for; an empty list asks for any. -/
def ListingRequest.planStatuses (r : ListingRequest) : Except HistoryError (Option (List JobStatus)) :=
  match r.statuses with
  | none | some [] => .ok none
  | some tokens => (JobStatus.ofTokens tokens).map some

/-- The filter that the request asks for. -/
def ListingRequest.planFilter (r : ListingRequest) (scope : ScopeSelector) :
    Except HistoryError JobFilter := do
  if r.configTypes.isEmpty then throw (.invalidArgument .noConfigType)
  let statuses ← r.planStatuses
  return ⟨ConfigType.normalize r.configTypes, scope, statuses, r.createdAt, r.updatedAt⟩

/-- The order of a request, the newest job first unless it asks otherwise. -/
def ListingRequest.planOrder (r : ListingRequest) : Except HistoryError JobOrder := do
  let field ← match r.orderByField with
    | some text => OrderField.parse text
    | none => .ok JobOrder.newestFirst.field
  let direction ← match r.orderByMethod with
    | some text => Direction.parse text
    | none => .ok JobOrder.newestFirst.direction
  return ⟨field, direction⟩

/-- The page that the request asks for. -/
def ListingRequest.planPage (r : ListingRequest) (including : Option JobId) (defaultSize : UInt32) :
    Except HistoryError PageRequest := do
  let pagination := r.pagination.getD ⟨none, none⟩
  let pageSize := pagination.pageSize.getD defaultSize
  if pageSize = 0 then throw (.invalidArgument .zeroPageSize)
  match including with
  | some id => return .includingJob id pageSize
  | none => return .offset pageSize (pagination.rowOffset.getD 0)

/-- Checks a request and turns it into a plan. -/
def ListingRequest.plan (r : ListingRequest) (scope : ScopeSelector) (including : Option JobId)
    (defaultSize : UInt32) : Except HistoryError ListingPlan := do
  let filter ← r.planFilter scope
  let order ← r.planOrder
  let page ← r.planPage including defaultSize
  return ⟨filter, order, page⟩

/-- Checks a request for the jobs of one scope, or of all scopes. -/
def JobListRequest.plan (r : JobListRequest) (defaultSize : UInt32) : Except HistoryError ListingPlan :=
  let scope := match r.configId with
    | some id => ScopeSelector.scope id
    | none => .unscoped
  r.toListingRequest.plan scope r.includingJobId defaultSize

/-- Checks a request for the jobs of workspaces. -/
def WorkspaceListRequest.plan (r : WorkspaceListRequest) (defaultSize : UInt32) :
    Except HistoryError ListingPlan :=
  r.toListingRequest.plan (.workspaces r.workspaceIds) none defaultSize

end SyncHistory
