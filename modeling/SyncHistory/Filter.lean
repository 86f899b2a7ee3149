import SyncHistory.Job

/-!
# Filters

Which jobs a query is about. `JobFilter.accepts` is the meaning of a filter: every part of it must
hold of the job. The workspace of a job is not part of it; it is given by whoever knows which workspace
the owner of a scope belongs to.
-/

namespace SyncHistory

/-- Which jobs are meant, by owner. -/
inductive ScopeSelector where
  | unscoped
  /-- The jobs of one scope. -/
  | scope (scope : String)
  /-- The jobs of any of several scopes. -/
  | scopes (scopes : List String)
  /-- The jobs of connections that belong to any of the workspaces. -/
  | workspaces (ids : List Uuid)
deriving DecidableEq

namespace ScopeSelector

/-- Does the selector mean a scope, which may belong to a workspace? -/
def selects (selector : ScopeSelector) (scope : String) (workspace : Option Uuid) : Bool :=
  match selector with
  | unscoped => true
  | .scope s => scope == s
  | .scopes ss => ss.contains scope
  | workspaces ids =>
    match workspace with
    | some id => ids.contains id
    | none => false

end ScopeSelector

/-- A span of time, its ends included; a missing end is no bound. -/
structure TimeRange where
  start : Option Instant
  stop : Option Instant
deriving DecidableEq

namespace TimeRange

/-- All of time. -/
def unbounded : TimeRange := ⟨none, none⟩

/-- Is the instant within the span? -/
def contains (r : TimeRange) (t : Instant) : Bool :=
  (match r.start with
    | some start => decide (start ≤ t)
    | none => true) &&
  (match r.stop with
    | some stop => decide (t ≤ stop)
    | none => true)

end TimeRange

/-- Which jobs a query is about; without statuses any status will do. -/
structure JobFilter where
  configTypes : List ConfigType
  scope : ScopeSelector
  statuses : Option (List JobStatus)
  createdAt : TimeRange
  updatedAt : TimeRange
deriving DecidableEq

namespace JobFilter

/-- The jobs of the given kinds and owners, in any status and at any time. -/
def ofScope (configTypes : List ConfigType) (scope : ScopeSelector) : JobFilter :=
  ⟨configTypes, scope, none, .unbounded, .unbounded⟩

/-- The filter with its statuses replaced. -/
def withStatuses (f : JobFilter) (statuses : List JobStatus) : JobFilter :=
  { f with statuses := some statuses }

/-- The part of a filter that cursor pages honour: kinds and owners. -/
def cursorPart (f : JobFilter) : JobFilter :=
  ofScope f.configTypes f.scope

/-- Does the job pass the filter, if its scope belongs to the given workspace? -/
def accepts (f : JobFilter) (workspace : Option Uuid) (job : Job) : Bool :=
  f.scope.selects job.scope workspace &&
    f.configTypes.contains job.configType &&
    (match f.statuses with
      | some statuses => statuses.contains job.status
      | none => true) &&
    f.createdAt.contains job.createdAt &&
    f.updatedAt.contains job.updatedAt

end JobFilter

end SyncHistory
