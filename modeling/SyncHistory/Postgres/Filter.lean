import SyncHistory.Filter
import SyncHistory.Order
import SyncHistory.Sql.Statement

/-!
# Filters and orders in SQL

The conditions of a filter on the table of jobs. A condition is data: `Condition.fragments` writes it,
and `Condition.holds` says of which jobs it holds. A filter is the conjunction of its conditions
(`JobFilter.conditions`), and there is always at least one. An order is a list of columns with a
direction.
-/

namespace SyncHistory

/-- A condition on a job, with the value that the job is compared with. -/
inductive Condition where
  | configTypeIn (names : List String)
  | scopeIs (scope : String)
  | scopeIn (scopes : List String)
  | workspaceIn (ids : List Uuid)
  | statusIn (names : List String)
  | notBefore (field : OrderField) (t : Instant)
  | notAfter (field : OrderField) (t : Instant)
deriving DecidableEq

/-- The column of a time. -/
def OrderField.column : OrderField → String
  | createdAt => "jobs.created_at"
  | updatedAt => "jobs.updated_at"

/-- The direction as it is written in a statement. -/
def Direction.keyword : Direction → String
  | ascending => "ASC"
  | descending => "DESC"

namespace Condition

/-- The condition as it is written in a statement. -/
def fragments : Condition → List Fragment
  | configTypeIn names =>
    [.literal "CAST(jobs.config_type AS VARCHAR) = ANY(", .param (.texts names), .literal ")"]
  | scopeIs scope => [.literal "jobs.scope = ", .param (.text scope)]
  | scopeIn scopes => [.literal "jobs.scope = ANY(", .param (.texts scopes), .literal ")"]
  | workspaceIn ids =>
    [.literal ("jobs.scope IN (SELECT CAST(connection.id AS VARCHAR) FROM connection " ++
        "JOIN actor ON actor.id = connection.source_id WHERE actor.workspace_id = ANY("),
      .param (.uuids ids), .literal "))"]
  | statusIn names =>
    [.literal "CAST(jobs.status AS VARCHAR) = ANY(", .param (.texts names), .literal ")"]
  | notBefore field t => [.literal (field.column ++ " >= "), .param (.time t)]
  | notAfter field t => [.literal (field.column ++ " <= "), .param (.time t)]

/-- Does the condition hold of a job whose scope belongs to the given workspace? -/
def holds (workspace : Option Uuid) (job : Job) : Condition → Bool
  | configTypeIn names => names.contains job.configType.name
  | scopeIs scope => job.scope == scope
  | scopeIn scopes => scopes.contains job.scope
  | workspaceIn ids => workspace.any ids.contains
  | statusIn names => names.contains job.status.name
  | notBefore field t => decide (t ≤ JobOrder.time ⟨field, .ascending⟩ job)
  | notAfter field t => decide (JobOrder.time ⟨field, .ascending⟩ job ≤ t)

end Condition

namespace ScopeSelector

/-- The condition on the owner of a job, if there is one. -/
def conditions : ScopeSelector → List Condition
  | unscoped => []
  | .scope s => [.scopeIs s]
  | .scopes ss => [.scopeIn ss]
  | workspaces ids => [.workspaceIn ids]

end ScopeSelector

/-- The conditions on a time of a job. -/
def TimeRange.conditions (r : TimeRange) (field : OrderField) : List Condition :=
  (r.start.map (Condition.notBefore field)).toList ++ (r.stop.map (Condition.notAfter field)).toList

namespace JobFilter

/-- All conditions of the filter. -/
def conditions (f : JobFilter) : List Condition :=
  .configTypeIn (f.configTypes.map ConfigType.name) :: f.scope.conditions ++
    (f.statuses.map fun ss => Condition.statusIn (ss.map JobStatus.name)).toList ++
    f.createdAt.conditions .createdAt ++ f.updatedAt.conditions .updatedAt

/-- The conjunction of the conditions. -/
def clause (f : JobFilter) : List Fragment :=
  Fragment.join " AND " (f.conditions.map Condition.fragments)

/-- The conjunction as it is written, with the values for its places. -/
def predicate (f : JobFilter) : Statement := .ofFragments f.clause

end JobFilter

/-- The columns that jobs are ordered by, with their direction. -/
def JobOrder.clause (o : JobOrder) : String :=
  o.field.column ++ " " ++ o.direction.keyword ++ ", jobs.id " ++ o.direction.keyword

end SyncHistory
