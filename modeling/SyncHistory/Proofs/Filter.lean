import Mathlib.Data.List.Basic
import SyncHistory.Memory.Jobs
import SyncHistory.Proofs.Order

/-!
# What a filter means

`JobFilter.Matches` says part by part what a filter asks of a job; `JobFilter.accepts` decides it
(`JobFilter.accepts_iff`). A store in memory selects the stored jobs that match, in order
(`JobTables.select_lists`), and counts them. Under a stricter filter it selects a part of these jobs, in the
same order (`JobTables.select_of_stricter`).
-/

namespace SyncHistory

/-- The selector means a scope, which may belong to a workspace. -/
def ScopeSelector.Means (selector : ScopeSelector) (scope : String) (workspace : Option Uuid) : Prop :=
  match selector with
  | .unscoped => True
  | .scope s => scope = s
  | .scopes ss => scope ∈ ss
  | .workspaces ids => ∃ id ∈ ids, workspace = some id

theorem ScopeSelector.selects_iff {selector : ScopeSelector} {scope : String}
    {workspace : Option Uuid} :
    selector.selects scope workspace = true ↔ selector.Means scope workspace := by
  cases selector with
  | unscoped => exact iff_of_true rfl trivial
  | scope s => exact beq_iff_eq
  | scopes ss => exact List.contains_iff_mem
  | workspaces ids =>
    cases workspace with
    | none => simp [selects, Means]
    | some id => simp [selects, Means]

/-- The instant lies within the span, its ends included. -/
def TimeRange.Spans (r : TimeRange) (t : Instant) : Prop :=
  (∀ start ∈ r.start, start ≤ t) ∧ ∀ stop ∈ r.stop, t ≤ stop

theorem TimeRange.contains_iff {r : TimeRange} {t : Instant} :
    r.contains t = true ↔ r.Spans t := by
  obtain ⟨start, stop⟩ := r
  cases start <;> cases stop <;> simp [contains, Spans]

/-- Everything that a filter asks of a job whose scope may belong to a workspace. -/
structure JobFilter.Matches (f : JobFilter) (workspace : Option Uuid) (job : Job) : Prop where
  scope : f.scope.Means job.scope workspace
  configType : job.configType ∈ f.configTypes
  status : ∀ statuses ∈ f.statuses, job.status ∈ statuses
  createdAt : f.createdAt.Spans job.createdAt
  updatedAt : f.updatedAt.Spans job.updatedAt

theorem JobFilter.accepts_iff {f : JobFilter} {workspace : Option Uuid} {job : Job} :
    f.accepts workspace job = true ↔ f.Matches workspace job := by
  obtain ⟨configTypes, scope, statuses, createdAt, updatedAt⟩ := f
  unfold accepts
  rw [Bool.and_eq_true, Bool.and_eq_true, Bool.and_eq_true, Bool.and_eq_true,
    ScopeSelector.selects_iff, List.contains_iff_mem, TimeRange.contains_iff, TimeRange.contains_iff]
  cases statuses with
  | none =>
    constructor
    · rintro ⟨⟨⟨⟨hs, hc⟩, -⟩, hcr⟩, hup⟩
      exact ⟨hs, hc, (fun _ h => nomatch h), hcr, hup⟩
    · exact fun h => ⟨⟨⟨⟨h.scope, h.configType⟩, rfl⟩, h.createdAt⟩, h.updatedAt⟩
  | some statuses =>
    constructor
    · rintro ⟨⟨⟨⟨hs, hc⟩, ht⟩, hcr⟩, hup⟩
      refine ⟨hs, hc, fun _ h => ?_, hcr, hup⟩
      exact Option.mem_some.mp h ▸ List.contains_iff_mem.mp ht
    · intro h
      have status := List.contains_iff_mem.mpr (h.status statuses rfl)
      exact ⟨⟨⟨⟨h.scope, h.configType⟩, status⟩, h.createdAt⟩, h.updatedAt⟩

/-- A filter by kinds and owners asks for nothing else. -/
theorem JobFilter.ofScope_matches {configTypes : List ConfigType} {scope : ScopeSelector}
    {workspace : Option Uuid} {job : Job} :
    (JobFilter.ofScope configTypes scope).Matches workspace job ↔
      scope.Means job.scope workspace ∧ job.configType ∈ configTypes := by
  have always (t : Instant) : TimeRange.unbounded.Spans t := TimeRange.contains_iff.mp rfl
  refine ⟨fun h => ⟨h.scope, h.configType⟩, fun ⟨hs, hc⟩ => ⟨hs, hc, ?_, always _, always _⟩⟩
  intro statuses h
  cases h

instance (f : JobFilter) (workspace : Option Uuid) (job : Job) : Decidable (f.Matches workspace job) :=
  decidable_of_iff _ JobFilter.accepts_iff

namespace JobTables

/-- The stored jobs that match a filter, in the order of insertion. -/
def matching (t : JobTables) (filter : JobFilter) : List Job :=
  t.jobs.filter fun job => filter.Matches (t.workspaceOf job.scope) job

theorem mem_matching {t : JobTables} {filter : JobFilter} {job : Job} :
    job ∈ t.matching filter ↔ job ∈ t.jobs ∧ filter.Matches (t.workspaceOf job.scope) job := by
  rw [matching, List.mem_filter, decide_eq_true_iff]

theorem matching_congr (t : JobTables) {f g : JobFilter}
    (same : ∀ workspace job, f.Matches workspace job ↔ g.Matches workspace job) :
    t.matching f = t.matching g :=
  List.filter_congr fun job _ => decide_eq_decide.mpr (same _ job)

theorem filter_accepts (t : JobTables) (filter : JobFilter) :
    t.jobs.filter (t.accepts filter) = t.matching filter :=
  List.filter_congr fun _ _ => Bool.eq_iff_iff.mpr (JobFilter.accepts_iff.trans decide_eq_true_iff.symm)

theorem select_eq_sort (t : JobTables) (filter : JobFilter) (order : JobOrder) :
    t.select filter order = order.sort (t.matching filter) := by
  rw [select, filter_accepts]

/-- A store selects the stored jobs that match, in order. -/
theorem select_lists (t : JobTables) (filter : JobFilter) (order : JobOrder) :
    order.Lists (t.matching filter) (t.select filter order) := by
  rw [select_eq_sort]
  exact order.sort_lists _

theorem count_eq (t : JobTables) (filter : JobFilter) : t.count filter = (t.matching filter).length := by
  rw [count, filter_accepts]

/-- A filter that asks for more leaves some of the jobs out. -/
theorem matching_of_stricter (t : JobTables) {f g : JobFilter}
    (stricter : ∀ workspace job, g.Matches workspace job → f.Matches workspace job) :
    t.matching g = (t.matching f).filter (· ∈ t.matching g) := by
  show _ = (t.jobs.filter fun job => f.Matches (t.workspaceOf job.scope) job).filter (· ∈ t.matching g)
  rw [List.filter_filter]
  refine List.filter_congr ?_
  intro job stored
  rw [← Bool.decide_and, decide_eq_decide, mem_matching]
  constructor
  · intro h
    exact ⟨⟨stored, h⟩, stricter _ job h⟩
  · rintro ⟨⟨-, h⟩, -⟩
    exact h

/-- What such a filter selects stands in the order of what the other one selects. -/
theorem select_of_stricter (t : JobTables) {f g : JobFilter}
    (stricter : ∀ workspace job, g.Matches workspace job → f.Matches workspace job) (order : JobOrder) :
    t.select g order = (t.select f order).filter (· ∈ t.matching g) := by
  have part := (t.select_lists f order).filter (· ∈ t.matching g)
  rw [← t.matching_of_stricter stricter] at part
  exact (t.select_lists g order).unique part

theorem length_select (t : JobTables) (filter : JobFilter) (order : JobOrder) :
    (t.select filter order).length = (t.matching filter).length :=
  (t.select_lists filter order).perm.length_eq

end JobTables

end SyncHistory
