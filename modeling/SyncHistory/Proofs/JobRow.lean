import Mathlib.Data.List.Forall2
import Mathlib.Logic.Function.Basic
import SyncHistory.Proofs.Plan
import SyncHistory.Proofs.Sql

/-!
# Rows that store jobs

A row of the table of jobs stores a job if its columns hold what the job has, kinds and statuses by their
names. What a store reads from such a row is that job (`Sql.JobRow.Stores.read`), since every name is read
as what it is the name of.
-/

namespace SyncHistory

open Sql

/-! ## Names -/

namespace ConfigType

theorem name_injective : Function.Injective name := by
  intro s t h
  cases s <;> cases t <;> first | rfl | exact absurd h (by decide)

theorem lower_name (t : ConfigType) : Text.lower t.name = t.name := by
  cases t <;> decide +kernel

theorem trim_name (t : ConfigType) : Text.trim t.name = t.name := by
  cases t <;> decide +kernel

theorem parse_name (t : ConfigType) : parse t.name = .ok t := by
  have same (u : ConfigType) : Text.sameLetters u.name (Text.trim t.name) = decide (u = t) := by
    rw [trim_name, Text.sameLetters, lower_name, lower_name, Bool.eq_iff_iff, beq_iff_eq,
      decide_eq_true_iff, name_injective.eq_iff]
  unfold parse
  rw [funext same]
  cases t <;> rfl

end ConfigType

namespace JobStatus

theorem name_injective : Function.Injective name := by
  intro s t h
  cases s <;> cases t <;> first | rfl | exact absurd h (by decide)

theorem parse_name (s : JobStatus) : parse s.name = .ok s := by
  cases s <;> rfl

end JobStatus

/-! ## Rows and jobs -/

/-- The row holds everything about a job save its attempts, which have a table of their own. -/
structure Sql.JobRow.Stores (r : JobRow) (job : Job) : Prop where
  id : r.id = job.id
  configType : r.configType = job.configType.name
  scope : r.scope = job.scope
  catalog : r.config.bind Catalog.ofJobConfig? = job.catalog
  status : r.status = job.status.name
  startedAt : r.startedAt = job.startedAt
  createdAt : r.createdAt = job.createdAt
  updatedAt : r.updatedAt = job.updatedAt

/-- The job without its attempts. -/
def Job.withoutAttempts (job : Job) : Job := { job with attempts := [] }

theorem Postgres.read_eq {c : Columns} {row : Row} {name : String} {decode : SqlValue → Option α}
    {a : α} (h : decode (row.get name) = some a) : Postgres.read c row name decode = .ok a := by
  rw [Postgres.read, Columns.read, h]
  rfl

/-- A store reads the job that a row stores. -/
theorem Sql.JobRow.Stores.read {r : JobRow} {job : Job} (h : r.Stores job) :
    Postgres.job r.selected = .ok job.withoutAttempts := by
  obtain ⟨id, configType, scope, catalog, status, startedAt, createdAt, updatedAt⟩ := h
  have config : SqlValue.nullable? SqlValue.json? (r.selected.get "config") = some r.config := by
    show SqlValue.nullable? SqlValue.json? ((r.config.map SqlValue.json).getD .null) = _
    cases r.config <;> rfl
  have started : SqlValue.nullable? SqlValue.time? (r.selected.get "started_at") = some r.startedAt := by
    show SqlValue.nullable? SqlValue.time? ((r.startedAt.map SqlValue.time).getD .null) = _
    cases r.startedAt <;> rfl
  refine bind_eq_ok.mpr ⟨_, Postgres.read_eq config, ?_⟩
  refine bind_eq_ok.mpr ⟨_, Postgres.read_eq rfl, ?_⟩
  refine bind_eq_ok.mpr ⟨_, Postgres.read_eq rfl, ?_⟩
  refine bind_eq_ok.mpr ⟨_, Postgres.read_eq rfl, ?_⟩
  refine bind_eq_ok.mpr ⟨_, configType ▸ ConfigType.parse_name _, ?_⟩
  refine bind_eq_ok.mpr ⟨_, Postgres.read_eq rfl, ?_⟩
  refine bind_eq_ok.mpr ⟨_, status ▸ JobStatus.parse_name _, ?_⟩
  refine bind_eq_ok.mpr ⟨_, Postgres.read_eq rfl, ?_⟩
  refine bind_eq_ok.mpr ⟨_, Postgres.read_eq rfl, ?_⟩
  refine bind_eq_ok.mpr ⟨_, Postgres.read_eq started, ?_⟩
  rw [id, scope, catalog, startedAt, createdAt, updatedAt]
  rfl

/-- Reading the rows of an answer gives the jobs that are stored in them. -/
theorem Sql.JobRow.mapM_job {rows : List JobRow} {jobs : List Job}
    (each : List.Forall₂ JobRow.Stores rows jobs) :
    (rows.map JobRow.selected).mapM Postgres.job = .ok (jobs.map Job.withoutAttempts) := by
  rw [mapM_eq_ok, List.forall₂_map_left_iff, List.forall₂_map_right_iff]
  exact each.imp fun _ _ stored => stored.read

end SyncHistory
