import Mathlib.Algebra.BigOperators.Group.Finset.Basic
import SyncHistory.Proofs.Listing

/-!
# How filters divide the history

Kinds, statuses, scopes and workspaces are parts of a filter that list what a job may have. Each of them is
about one thing of a job, which a job has at most once (`FilterPart.trait`), so a filter with a list for that
part asks for a job of the filter without the part whose thing is listed (`FilterPart.matches_put`). Hence
only the members of a list count, and a list that is divided divides the jobs.

A filter that asks for more leaves some of the jobs out. What is left of a listing is a listing, so the
answers to such a filter are had from those to the other one (`JobTables.select_of_stricter`).
-/

namespace SyncHistory

/-! ## The parts of a filter that are lists -/

/-- A part of a filter that lists what a job may have. -/
inductive FilterPart where
  | configTypes
  | statuses
  | scopes
  | workspaces

namespace FilterPart

/-- What the part lists. -/
abbrev Member : FilterPart → Type
  | configTypes => ConfigType
  | statuses => JobStatus
  | scopes => String
  | workspaces => Uuid

/-- The filter with a list for that part. -/
def put (part : FilterPart) (f : JobFilter) (listed : List part.Member) : JobFilter :=
  match part with
  | configTypes => { f with configTypes := listed }
  | statuses => { f with statuses := some listed }
  | scopes => { f with scope := .scopes listed }
  | workspaces => { f with scope := .workspaces listed }

/-- The filter that is content with anything for that part. -/
def lift (part : FilterPart) (f : JobFilter) : JobFilter :=
  match part with
  | configTypes => { f with configTypes := ConfigType.all }
  | statuses => { f with statuses := none }
  | scopes => { f with scope := .unscoped }
  | workspaces => { f with scope := .unscoped }

/-- What the part is about in a job whose scope may belong to a workspace. -/
def trait (part : FilterPart) (workspace : Option Uuid) (job : Job) : Option part.Member :=
  match part with
  | configTypes => some job.configType
  | statuses => some job.status
  | scopes => some job.scope
  | workspaces => workspace

end FilterPart

theorem ConfigType.mem_all (t : ConfigType) : t ∈ all := by
  cases t <;> decide

variable {part : FilterPart} {f g : JobFilter} {workspace : Option Uuid} {job : Job}

/-- A filter with a list asks for what the filter without it asks for, and for a trait that is listed. -/
theorem FilterPart.matches_put {listed : List part.Member} :
    (part.put f listed).Matches workspace job ↔
      (part.lift f).Matches workspace job ∧ ∃ x ∈ listed, part.trait workspace job = some x := by
  cases part with
  | configTypes =>
    constructor
    · intro h
      exact ⟨⟨h.scope, ConfigType.mem_all _, h.status, h.createdAt, h.updatedAt⟩, _, h.configType, rfl⟩
    · rintro ⟨h, _, mem, ⟨⟩⟩
      exact ⟨h.scope, mem, h.status, h.createdAt, h.updatedAt⟩
  | statuses =>
    constructor
    · intro h
      exact ⟨⟨h.scope, h.configType, nofun, h.createdAt, h.updatedAt⟩, _, h.status listed rfl, rfl⟩
    · rintro ⟨h, _, mem, ⟨⟩⟩
      refine ⟨h.scope, h.configType, ?_, h.createdAt, h.updatedAt⟩
      rintro statuses ⟨⟩
      exact mem
  | scopes =>
    constructor
    · intro h
      exact ⟨⟨trivial, h.configType, h.status, h.createdAt, h.updatedAt⟩, _, h.scope, rfl⟩
    · rintro ⟨h, _, mem, ⟨⟩⟩
      exact ⟨mem, h.configType, h.status, h.createdAt, h.updatedAt⟩
  | workspaces =>
    constructor
    · intro h
      exact ⟨⟨trivial, h.configType, h.status, h.createdAt, h.updatedAt⟩, h.scope⟩
    · rintro ⟨h, owner⟩
      exact ⟨owner, h.configType, h.status, h.createdAt, h.updatedAt⟩

/-- Only the members of a list count, not how often they are listed and in which places. -/
theorem FilterPart.put_congr {xs ys : List part.Member} (same : ∀ x, x ∈ xs ↔ x ∈ ys) :
    (part.put f xs).Matches workspace job ↔ (part.put f ys).Matches workspace job := by
  rw [matches_put, matches_put]
  simp only [same]

/-- A divided list divides what is asked for. -/
theorem FilterPart.put_or {whole left right : List part.Member}
    (covers : ∀ x, x ∈ whole ↔ x ∈ left ∨ x ∈ right) :
    (part.put f whole).Matches workspace job ↔
      (part.put f left).Matches workspace job ∨ (part.put f right).Matches workspace job := by
  rw [matches_put, matches_put, matches_put, ← and_or_left]
  simp only [covers, or_and_right, exists_or]

/-- Lists that have no member in common ask for different jobs, for a job has one trait at most. -/
theorem FilterPart.put_apart {left right : List part.Member} (apart : left.Disjoint right)
    (h : (part.put f left).Matches workspace job) : ¬ (part.put f right).Matches workspace job := by
  intro h'
  obtain ⟨-, x, mem, own⟩ := matches_put.mp h
  obtain ⟨-, y, mem', own'⟩ := matches_put.mp h'
  have same : x = y := Option.some.inj (own.symm.trans own')
  exact apart mem (same ▸ mem')

/-- A job passes the filter of its scope if it passes that of all scopes. -/
theorem JobFilter.matches_scope {scope : String} :
    { f with scope := .scope scope }.Matches workspace job ↔
      { f with scope := .unscoped }.Matches workspace job ∧ job.scope = scope := by
  constructor
  · intro h
    exact ⟨⟨trivial, h.configType, h.status, h.createdAt, h.updatedAt⟩, h.scope⟩
  · rintro ⟨h, own⟩
    exact ⟨own, h.configType, h.status, h.createdAt, h.updatedAt⟩

/-! ## Stored jobs -/

namespace JobTables

variable {t : JobTables}

/-- Two stricter filters that share the jobs of a filter share its count. -/
theorem count_divided {whole left right : JobFilter}
    (covers : ∀ workspace job, whole.Matches workspace job ↔
      left.Matches workspace job ∨ right.Matches workspace job)
    (apart : ∀ workspace job, left.Matches workspace job → ¬ right.Matches workspace job) :
    t.count whole = t.count left + t.count right := by
  have these := congrArg List.length
    (t.matching_of_stricter fun workspace job h => (covers workspace job).mpr (.inl h))
  have others : t.matching right = (t.matching whole).filter fun job => !decide (job ∈ t.matching left) := by
    rw [t.matching_of_stricter fun workspace job h => (covers workspace job).mpr (.inr h)]
    refine List.filter_congr ?_
    intro job mem
    obtain ⟨stored, wanted⟩ := mem_matching.mp mem
    rw [← decide_not, decide_eq_decide, mem_matching, mem_matching]
    constructor
    · rintro ⟨-, h⟩ ⟨-, h'⟩
      exact apart _ job h' h
    · intro other
      rcases (covers _ job).mp wanted with h | h
      · exact absurd ⟨stored, h⟩ other
      · exact ⟨stored, h⟩
  rw [count_eq, count_eq, count_eq, others, these]
  exact List.length_eq_length_filter_add _

/-- Each job is counted with its scope. -/
theorem count_unscoped (t : JobTables) (f : JobFilter) :
    t.count { f with scope := .unscoped } =
      ∑ scope ∈ (t.jobs.map Job.scope).toFinset, t.count { f with scope := .scope scope } := by
  let wanted := t.matching { f with scope := .unscoped }
  have counted (scope : String) :
      t.count { f with scope := .scope scope } = (wanted.map Job.scope).count scope := by
    have own : t.matching { f with scope := .scope scope } = wanted.filter (·.scope == scope) := by
      rw [t.matching_of_stricter fun workspace job h => (JobFilter.matches_scope.mp h).1]
      refine List.filter_congr ?_
      intro job mem
      obtain ⟨stored, h⟩ := mem_matching.mp mem
      rw [beq_eq_decide, decide_eq_decide, mem_matching, JobFilter.matches_scope]
      exact ⟨fun both => both.2.2, fun same => ⟨stored, h, same⟩⟩
    rw [count_eq, own, List.count, List.countP_map, List.countP_eq_length_filter]
    rfl
  have stored : ∀ scope ∈ (wanted.map Job.scope : Multiset String),
      scope ∈ (t.jobs.map Job.scope).toFinset := by
    intro scope mem
    rw [Multiset.mem_coe] at mem
    exact List.mem_toFinset.mpr (List.map_subset _ (List.filter_subset_self _) mem)
  calc t.count { f with scope := .unscoped }
      = (wanted.map Job.scope).length := by rw [count_eq, List.length_map]
    _ = ∑ scope ∈ (t.jobs.map Job.scope).toFinset, (wanted.map Job.scope).count scope := by
      have total := Multiset.sum_count_eq_card stored
      simp only [Multiset.coe_count, Multiset.coe_card] at total
      exact total.symm
    _ = _ := Finset.sum_congr rfl fun scope _ => (counted scope).symm

/-- In narrower spans of time the same jobs are listed, without those of other times. -/
theorem select_narrowed (t : JobTables) {f : JobFilter} {createdAt updatedAt : TimeRange}
    (created : ∀ instant, createdAt.Spans instant → f.createdAt.Spans instant)
    (updated : ∀ instant, updatedAt.Spans instant → f.updatedAt.Spans instant) (order : JobOrder) :
    t.select { f with createdAt, updatedAt } order = (t.select f order).filter fun job =>
      createdAt.contains job.createdAt && updatedAt.contains job.updatedAt := by
  have stricter (workspace : Option Uuid) (job : Job)
      (h : { f with createdAt, updatedAt }.Matches workspace job) : f.Matches workspace job :=
    ⟨h.scope, h.configType, h.status, created _ h.createdAt, updated _ h.updatedAt⟩
  rw [t.select_of_stricter stricter]
  refine List.filter_congr ?_
  intro job mem
  obtain ⟨stored, h⟩ := mem_matching.mp ((t.select_lists f order).perm.mem_iff.mp mem)
  rw [Bool.eq_iff_iff, decide_eq_true_iff, mem_matching, Bool.and_eq_true, TimeRange.contains_iff,
    TimeRange.contains_iff]
  constructor
  · intro both
    exact ⟨both.2.createdAt, both.2.updatedAt⟩
  · rintro ⟨inCreated, inUpdated⟩
    exact ⟨stored, h.scope, h.configType, h.status, inCreated, inUpdated⟩

end JobTables

/-! ## Answers -/

namespace Session

variable [SchemaChecker] {s : Session}

/-- A session answers the same whichever of two filters it is asked with. -/
structure SameAnswers (s : Session) (f g : JobFilter) : Prop where
  count : s.outcome (.jobs (.count f)) = s.outcome (.jobs (.count g))
  list : ∀ order window,
    s.outcome (.jobs (.list f order window)) = s.outcome (.jobs (.list g order window))
  position : ∀ order id,
    s.outcome (.jobs (.position f order id)) = s.outcome (.jobs (.position g order id))

/-- The jobs of a filter are divided between two others, and so are the answers about them. -/
structure Divides (s : Session) (whole left right : JobFilter) : Prop where
  covers : ∀ job, job ∈ s.store.tables.matching whole ↔
    job ∈ s.store.tables.matching left ∨ job ∈ s.store.tables.matching right
  apart : (s.store.tables.matching left).Disjoint (s.store.tables.matching right)
  counts : ∃ m n, s.outcome (.jobs (.count left)) = .ok m ∧ s.outcome (.jobs (.count right)) = .ok n ∧
    s.outcome (.jobs (.count whole)) = .ok (m + n)
  listings : ∀ order, ∃ rows, s.outcome (.jobs (.list whole order none)) = .ok rows ∧
    s.outcome (.jobs (.list left order none)) = .ok (rows.filter (· ∈ s.store.tables.matching left)) ∧
    s.outcome (.jobs (.list right order none)) = .ok (rows.filter (· ∈ s.store.tables.matching right))

/-- Nothing but which jobs a filter asks for counts, whether or not the store can be reached. -/
theorem sameAnswers_of_matches
    (same : ∀ workspace job, f.Matches workspace job ↔ g.Matches workspace job) : s.SameAnswers f g := by
  have matching := s.store.tables.matching_congr same
  have select (order : JobOrder) : s.store.tables.select f order = s.store.tables.select g order := by
    rw [JobTables.select_eq_sort, JobTables.select_eq_sort, matching]
  refine ⟨?_, ?_, ?_⟩
  · show s.store.reply (.count f) = s.store.reply (.count g)
    simp only [JobStore.reply, JobTables.answer, JobTables.count_eq, matching]
  · intro order window
    show s.store.reply (.list f order window) = s.store.reply (.list g order window)
    cases window with
    | none => simp only [JobStore.reply, JobTables.answer, JobTables.list, select]
    | some window => simp only [JobStore.reply, JobTables.answer, JobTables.list, select]
  · intro order id
    show s.store.reply (.position f order id) = s.store.reply (.position g order id)
    simp only [JobStore.reply, JobTables.answer, JobTables.position, select]

theorem divides_of_matches (available : s.store.available = true) {whole left right : JobFilter}
    (covers : ∀ workspace job, whole.Matches workspace job ↔
      left.Matches workspace job ∨ right.Matches workspace job)
    (apart : ∀ workspace job, left.Matches workspace job → ¬ right.Matches workspace job) :
    s.Divides whole left right := by
  refine ⟨?_, ?_, ?_, ?_⟩
  · intro job
    simp only [JobTables.mem_matching, covers, and_or_left]
  · intro job mem mem'
    exact apart _ job (JobTables.mem_matching.mp mem).2 (JobTables.mem_matching.mp mem').2
  · refine ⟨_, _, outcome_jobs available _, outcome_jobs available _, ?_⟩
    rw [outcome_jobs available]
    exact congrArg Except.ok (JobTables.count_divided covers apart)
  · intro order
    refine ⟨_, outcome_jobs available _, ?_, ?_⟩
    · rw [outcome_jobs available]
      exact congrArg Except.ok (JobTables.select_of_stricter _
        (fun workspace job h => (covers workspace job).mpr (.inl h)) order)
    · rw [outcome_jobs available]
      exact congrArg Except.ok (JobTables.select_of_stricter _
        (fun workspace job h => (covers workspace job).mpr (.inr h)) order)

end Session

/-- **Filters divide the history.** A session answers the same to filters whose list of kinds, statuses,
scopes or workspaces has the same members, however often each of them stands in it, and to a filter without
statuses the same as to one with all of them. If its job store can be reached, a list that is divided into
two without a common member divides the jobs, so that the two counts add up, and in any order the listing of
each part is the part of the whole listing with its jobs; the count of all scopes is the sum of the counts of
each stored scope; and narrower spans of time leave the jobs of other times out of a listing, the others
standing as they stood. -/
theorem filters_divide_history [SchemaChecker] (s : Session) (f : JobFilter) :
    (∀ (part : FilterPart) (xs ys : List part.Member), (∀ x, x ∈ xs ↔ x ∈ ys) →
      s.SameAnswers (part.put f xs) (part.put f ys)) ∧
    (∀ statuses : List JobStatus, (∀ status, status ∈ statuses) →
      s.SameAnswers { f with statuses := none } { f with statuses := some statuses }) ∧
    (s.store.available = true →
      (∀ (part : FilterPart) (whole left right : List part.Member), (∀ x, x ∈ whole ↔ x ∈ left ∨ x ∈ right) →
        left.Disjoint right → s.Divides (part.put f whole) (part.put f left) (part.put f right)) ∧
      (∃ count : String → Nat,
        (∀ scope, s.outcome (.jobs (.count { f with scope := .scope scope })) = .ok (count scope)) ∧
        s.outcome (.jobs (.count { f with scope := .unscoped })) =
          .ok (∑ scope ∈ (s.store.tables.jobs.map Job.scope).toFinset, count scope)) ∧
      ∀ createdAt updatedAt : TimeRange, (∀ instant, createdAt.Spans instant → f.createdAt.Spans instant) →
        (∀ instant, updatedAt.Spans instant → f.updatedAt.Spans instant) →
        ∀ order, ∃ rows, s.outcome (.jobs (.list f order none)) = .ok rows ∧
          s.outcome (.jobs (.list { f with createdAt, updatedAt } order none)) =
            .ok (rows.filter fun job =>
              createdAt.contains job.createdAt && updatedAt.contains job.updatedAt)) := by
  refine ⟨?_, ?_, ?_⟩
  · intro part xs ys same
    exact Session.sameAnswers_of_matches fun _ _ => FilterPart.put_congr same
  · intro statuses all
    refine Session.sameAnswers_of_matches ?_
    intro workspace job
    have named : (FilterPart.put .statuses f statuses).Matches workspace job ↔ _ := FilterPart.matches_put
    exact (named.trans (and_iff_left ⟨job.status, all _, rfl⟩)).symm
  · intro available
    refine ⟨?_, ?_, ?_⟩
    · intro part whole left right covers apart
      exact Session.divides_of_matches available (fun _ _ => FilterPart.put_or covers)
        fun _ _ => FilterPart.put_apart apart
    · refine ⟨_, fun scope => Session.outcome_jobs available _, ?_⟩
      rw [Session.outcome_jobs available]
      exact congrArg Except.ok (s.store.tables.count_unscoped f)
    · intro createdAt updatedAt created updated order
      refine ⟨_, Session.outcome_jobs available _, ?_⟩
      rw [Session.outcome_jobs available]
      exact congrArg Except.ok (s.store.tables.select_narrowed created updated order)

/-- Three jobs of two scopes, one of which has two of them, a sync that failed and one that runs. -/
theorem filters_divide_history_two_scopes :
    let job (id : JobId) (configType : ConfigType) (scope : String) (status : JobStatus) : Job :=
      ⟨id, configType, scope, none, status, ⟨id, 0⟩, ⟨id, 0⟩, none, []⟩
    let s := Session.setUp [.insertJob (job 1 .sync "a" .failed), .insertJob (job 2 .refresh "b" .succeeded),
      .insertJob (job 3 .sync "a" .running)]
    let f := JobFilter.ofScope [.sync, .refresh] .unscoped
    s.SameAnswers (f.withStatuses [.failed, .running, .failed]) (f.withStatuses [.running, .failed]) ∧
    s.SameAnswers f (f.withStatuses JobStatus.all) ∧
    s.Divides f (.ofScope [.sync] .unscoped) (.ofScope [.refresh] .unscoped) ∧
    s.outcome (.jobs (.count f)) = .ok (2 + 1) ∧
    s.outcome (.jobs (.list { f with createdAt := ⟨some ⟨2, 0⟩, none⟩ } .newestFirst none)) =
      .ok [job 3 .sync "a" .running, job 2 .refresh "b" .succeeded] := by
  intro job s f
  obtain ⟨again, any, answered⟩ := filters_divide_history s f
  obtain ⟨divided, ⟨count, each, total⟩, narrowed⟩ := answered rfl
  refine ⟨?_, ?_, ?_, ?_, ?_⟩
  · refine again .statuses [.failed, .running, .failed] [.running, .failed] ?_
    intro x
    cases x <;> decide
  · refine any JobStatus.all ?_
    intro status
    cases status <;> decide
  · refine divided .configTypes [.sync, .refresh] [.sync] [.refresh] ?_ (by simp)
    intro x
    cases x <;> decide
  · have ofA : 2 = count "a" := Except.ok.inj (each "a")
    have ofB : 1 = count "b" := Except.ok.inj (each "b")
    have scopes : (s.store.tables.jobs.map Job.scope).toFinset = {"a", "b"} := by decide
    rw [scopes, Finset.sum_pair (by decide), ← ofA, ← ofB] at total
    exact total
  · obtain ⟨rows, listed, later⟩ := narrowed ⟨some ⟨2, 0⟩, none⟩ .unbounded
      (fun _ _ => TimeRange.contains_iff.mp rfl) (fun _ h => h) .newestFirst
    have all : [job 3 .sync "a" .running, job 2 .refresh "b" .succeeded, job 1 .sync "a" .failed] =
        s.store.tables.select f .newestFirst :=
      JobOrder.eq_sort_of_perm (by decide) (by decide) (by decide)
    rw [← all.trans (Except.ok.inj listed)] at later
    exact later

end SyncHistory
