import SyncHistory.Filter
import SyncHistory.Order

/-!
# Questions to a job store

Everything that can be asked of the stored jobs, as data. A store is whatever answers these questions:
`SyncHistory.Memory` and `SyncHistory.Postgres` do. An answer lists attempts by number and jobs exactly
in the order asked for.
-/

namespace SyncHistory

/-- A section of a listing: at most `limit` rows after the first `offset`. -/
structure Window where
  limit : UInt32
  offset : UInt32
deriving DecidableEq

/-- The rows of a listing that lie in a window. -/
def Window.of (w : Window) (rows : List α) : List α :=
  (rows.drop w.offset.toNat).take w.limit.toNat

/-- A question to a job store. -/
inductive JobQuery where
  /-- The jobs that pass a filter, in order, and of these only a window if one is given. -/
  | list (filter : JobFilter) (order : JobOrder) (window : Option Window)
  /-- The number of jobs that pass a filter. -/
  | count (filter : JobFilter)
  /-- The place of a job in the listing of a filter, counted from one. -/
  | position (filter : JobFilter) (order : JobOrder) (id : JobId)
  /-- One job. -/
  | get (id : JobId)
  /-- The newest job of each scope, of the given kinds. -/
  | latest (scopes : List String) (configTypes : List ConfigType)
  /-- The statistics of every attempt at a job for which there are any. -/
  | jobStats (id : JobId)
  /-- The statistics of one attempt at a job. -/
  | attemptStats (id : JobId) (attemptNumber : Int)
  /-- How the data of each attempt at a job was normalised. -/
  | normalization (id : JobId)
deriving DecidableEq

/-- What a store that can answer answers. -/
abbrev JobQuery.Result : JobQuery → Type
  | .list .. => List Job
  | .count .. => Nat
  | .position .. => Option Nat
  | .get .. => Option Job
  | .latest .. => List JobSummary
  | .jobStats .. => List AttemptStats
  | .attemptStats .. => AttemptStats
  | .normalization .. => List NormalizationStatus

end SyncHistory
