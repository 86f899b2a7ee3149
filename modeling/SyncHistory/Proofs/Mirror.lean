import SyncHistory.Proofs.Cursor
import SyncHistory.Proofs.LatestSyncs

/-!
# Listings from both ends

Jobs with pairwise different numbers have one listing, whatever order they were stored in
(`JobOrder.sort_congr`), and read from its end it is the listing in the other direction
(`JobOrder.reverse_sort`): the direction turns around the numbers of jobs of the same time as well.

The place of a job is where it stands in that one listing (`findIdx?_eq_some_iff`), so a window of one row
finds it, and its places from both ends add up. `listings_mirror` says this of the answers of a job store,
and that two stores of the same jobs have the same answers.
-/

namespace SyncHistory

/-! ## One listing -/

namespace JobOrder

/-- The places that jobs had do not show in their listing. -/
theorem sort_congr (o : JobOrder) {jobs jobs' : List Job} (distinct : (jobs.map Job.id).Nodup)
    (perm : jobs'.Perm jobs) : o.sort jobs' = o.sort jobs :=
  eq_sort_of_perm distinct ((o.sort_perm jobs').trans perm) (o.sort_sorted jobs')

theorem reverse_sort (field : OrderField) {jobs : List Job} (distinct : (jobs.map Job.id).Nodup) :
    (sort ⟨field, .descending⟩ jobs).reverse = sort ⟨field, .ascending⟩ jobs := by
  refine eq_sort_of_perm distinct ((List.reverse_perm _).trans (sort_perm _ _)) ?_
  rw [List.pairwise_reverse]
  exact sort_sorted ⟨field, .descending⟩ jobs

end JobOrder

/-! ## Places in a list -/

/-- Where numbers are different, the first row with a number is the row that has it. -/
theorem findIdx?_eq_some_iff {rows : List Job} (distinct : (rows.map Job.id).Nodup) {id : JobId}
    {i : Nat} : rows.findIdx? (·.id == id) = some i ↔ ∃ job, rows[i]? = some job ∧ job.id = id := by
  rw [List.findIdx?_eq_some_iff_getElem]
  constructor
  · rintro ⟨inside, own, -⟩
    exact ⟨rows[i], List.getElem?_eq_getElem inside, beq_iff_eq.mp own⟩
  · rintro ⟨job, there, own⟩
    obtain ⟨inside, rfl⟩ := List.getElem?_eq_some_iff.mp there
    refine ⟨inside, beq_iff_eq.mpr own, fun j before other => ?_⟩
    have differ := List.pairwise_iff_getElem.mp distinct j i (by rw [List.length_map]; omega)
      (by rwa [List.length_map]) before
    rw [List.getElem_map, List.getElem_map, own] at differ
    exact differ (beq_iff_eq.mp other)

theorem findIdx?_reverse {rows : List Job} (distinct : (rows.map Job.id).Nodup) {id : JobId} {i : Nat}
    (found : rows.findIdx? (·.id == id) = some i) :
    rows.reverse.findIdx? (·.id == id) = some (rows.length - 1 - i) := by
  obtain ⟨job, there, own⟩ := (findIdx?_eq_some_iff distinct).mp found
  have inside : i < rows.length := (List.getElem?_eq_some_iff.mp there).1
  have distinct' : (rows.reverse.map Job.id).Nodup := by
    rw [List.map_reverse]
    exact List.nodup_reverse.mpr distinct
  refine (findIdx?_eq_some_iff distinct').mpr ⟨job, ?_, own⟩
  rw [List.getElem?_reverse (by omega), ← there]
  congr 1
  omega

/-- A window of one row has the row at its offset, if there is one. -/
theorem Window.of_one (offset : UInt32) (rows : List α) :
    Window.of ⟨1, offset⟩ rows = rows[offset.toNat]?.toList := by
  show (rows.drop offset.toNat).take 1 = _
  rw [List.take_one, List.head?_drop]

/-! ## Tables -/

/-- Tables that hold the same jobs, each with a number of its own, and know the same workspaces. The jobs
may have been stored in another order. -/
structure JobTables.SameJobs (t t' : JobTables) : Prop where
  perm : t'.jobs.Perm t.jobs
  distinct : (t.jobs.map Job.id).Nodup
  workspaces : t'.workspaceOf = t.workspaceOf

namespace JobTables

variable {t t' : JobTables}

theorem nodup_matching (distinct : (t.jobs.map Job.id).Nodup) (filter : JobFilter) :
    ((t.matching filter).map Job.id).Nodup :=
  distinct.sublist (List.filter_sublist.map _)

theorem nodup_select (distinct : (t.jobs.map Job.id).Nodup) (filter : JobFilter) (order : JobOrder) :
    ((t.select filter order).map Job.id).Nodup :=
  ((t.select_lists filter order).perm.map _).nodup_iff.mpr (nodup_matching distinct filter)

theorem SameJobs.matching (same : t.SameJobs t') (filter : JobFilter) :
    (t'.matching filter).Perm (t.matching filter) := by
  unfold JobTables.matching
  rw [same.workspaces]
  exact same.perm.filter _

theorem SameJobs.select (same : t.SameJobs t') (filter : JobFilter) (order : JobOrder) :
    t'.select filter order = t.select filter order := by
  rw [select_eq_sort, select_eq_sort]
  exact order.sort_congr (nodup_matching same.distinct filter) (same.matching filter)

theorem SameJobs.list (same : t.SameJobs t') (filter : JobFilter) (order : JobOrder)
    (window : Option Window) : t'.list filter order window = t.list filter order window := by
  cases window with
  | none => exact same.select filter order
  | some window => exact congrArg window.of (same.select filter order)

theorem SameJobs.position (same : t.SameJobs t') (filter : JobFilter) (order : JobOrder) (id : JobId) :
    t'.position filter order id = t.position filter order id := by
  rw [JobTables.position, JobTables.position, same.select]

theorem SameJobs.count (same : t.SameJobs t') (filter : JobFilter) : t'.count filter = t.count filter := by
  rw [count_eq, count_eq, (same.matching filter).length_eq]

theorem SameJobs.latest (same : t.SameJobs t') (scopes : List String) (configTypes : List ConfigType) :
    t'.latest scopes configTypes = t.latest scopes configTypes := by
  have each : t'.latestOf configTypes = t.latestOf configTypes := by
    funext scope
    rw [latestOf, latestOf, newestOf_eq, newestOf_eq, same.select]
  rw [latest_eq, latest_eq, each]

/-- From its end, a listing is the one in the other direction. -/
theorem reverse_select (distinct : (t.jobs.map Job.id).Nodup) (filter : JobFilter) (field : OrderField) :
    (t.select filter ⟨field, .descending⟩).reverse = t.select filter ⟨field, .ascending⟩ := by
  rw [select_eq_sort, select_eq_sort]
  exact JobOrder.reverse_sort field (nodup_matching distinct filter)

/-- A job has the place whose window of one row shows it. -/
theorem position_eq_some_iff (distinct : (t.jobs.map Job.id).Nodup) {filter : JobFilter}
    {order : JobOrder} {id : JobId} {offset : UInt32} :
    t.position filter order id = some (offset.toNat + 1) ↔
      ∃ job, t.list filter order (some ⟨1, offset⟩) = [job] ∧ job.id = id := by
  have index : t.position filter order id = some (offset.toNat + 1) ↔
      (t.select filter order).findIdx? (·.id == id) = some offset.toNat := by
    rw [position, Option.map_eq_some_iff]
    constructor
    · rintro ⟨i, found, place⟩
      rw [found, Nat.succ.inj place]
    · intro found
      exact ⟨_, found, rfl⟩
  rw [index, findIdx?_eq_some_iff (nodup_select distinct filter order), list, Window.of_one]
  refine exists_congr fun job => and_congr_left fun _ => ?_
  cases (t.select filter order)[offset.toNat]? <;> simp

/-- The places of a job from both ends add up to one more than there are jobs. -/
theorem position_add_position (distinct : (t.jobs.map Job.id).Nodup) {filter : JobFilter} {job : Job}
    (mem : job ∈ t.matching filter) (field : OrderField) :
    ∃ up down, t.position filter ⟨field, .ascending⟩ job.id = some up ∧
      t.position filter ⟨field, .descending⟩ job.id = some down ∧ up + down = t.count filter + 1 := by
  have rows := t.select_lists filter ⟨field, .descending⟩
  obtain ⟨i, inside, own⟩ := List.mem_iff_getElem.mp (rows.perm.mem_iff.mpr mem)
  have down : (t.select filter ⟨field, .descending⟩).findIdx? (·.id == job.id) = some i :=
    (findIdx?_eq_some_iff (nodup_select distinct filter _)).mpr
      ⟨job, List.getElem?_eq_some_iff.mpr ⟨inside, own⟩, rfl⟩
  have up := findIdx?_reverse (nodup_select distinct filter _) down
  rw [reverse_select distinct] at up
  refine ⟨_, _, by rw [position, up, Option.map_some], by rw [position, down, Option.map_some], ?_⟩
  rw [count_eq, ← rows.perm.length_eq]
  omega

end JobTables

/-! ## Answers of a job store -/

namespace Session

variable [SchemaChecker] {s : Session}

/-- What the jobs that match a filter look like in a session when they are listed by a time. -/
structure Mirrors (s : Session) (filter : JobFilter) (field : OrderField) : Prop where
  reversed : ∃ rows, s.outcome (.jobs (.list filter ⟨field, .descending⟩ none)) = .ok rows ∧
    s.outcome (.jobs (.list filter ⟨field, .ascending⟩ none)) = .ok rows.reverse
  window : ∀ (direction : Direction) (id : JobId) (offset : UInt32),
    s.outcome (.jobs (.position filter ⟨field, direction⟩ id)) = .ok (some (offset.toNat + 1)) ↔
      ∃ job, s.outcome (.jobs (.list filter ⟨field, direction⟩ (some ⟨1, offset⟩))) = .ok [job] ∧
        job.id = id
  missing : ∀ (direction : Direction) (id : JobId),
    s.outcome (.jobs (.position filter ⟨field, direction⟩ id)) = .ok none ↔
      ∀ job ∈ s.store.tables.matching filter, job.id ≠ id
  places : ∀ job ∈ s.store.tables.matching filter, ∃ up down count,
    s.outcome (.jobs (.position filter ⟨field, .ascending⟩ job.id)) = .ok (some up) ∧
    s.outcome (.jobs (.position filter ⟨field, .descending⟩ job.id)) = .ok (some down) ∧
    s.outcome (.jobs (.count filter)) = .ok count ∧ up + down = count + 1

theorem mirrors (available : s.store.available = true)
    (distinct : (s.store.tables.jobs.map Job.id).Nodup) (filter : JobFilter) (field : OrderField) :
    s.Mirrors filter field := by
  have asked {q : JobQuery} {a : q.Result} :
      s.outcome (.jobs q) = .ok a ↔ s.store.tables.answer q = a := by
    rw [outcome_jobs available, Except.ok.injEq]
  refine ⟨⟨_, outcome_jobs available _, ?_⟩, fun direction id offset => ?_, fun direction id => ?_,
    fun job mem => ?_⟩
  · rw [asked]
    exact (JobTables.reverse_select distinct filter field).symm
  · rw [asked]
    simp only [asked]
    exact JobTables.position_eq_some_iff distinct
  · have rows := s.store.tables.select_lists filter ⟨field, direction⟩
    rw [asked]
    refine JobTables.position_eq_none.trans ?_
    simp only [rows.perm.mem_iff]
  · obtain ⟨up, down, hup, hdown, sum⟩ := JobTables.position_add_position distinct mem field
    exact ⟨up, down, _, asked.mpr hup, asked.mpr hdown, outcome_jobs available _, sum⟩

end Session

/-- **Listings do not depend on the order of insertion, and the two directions mirror each other.** Two
sessions whose job stores hold the same jobs, each with a number of its own, answer every question about a
listing, a number of jobs, a place and latest jobs alike, if both stores can be reached or neither can. Where
they can, the ascending listing is the descending one from its end; a job has the place whose window of one
row shows it, and none if it does not match; and its places from both ends add up to one more than the
number of jobs. -/
theorem listings_mirror [SchemaChecker] (s s' : Session) (same : s.store.tables.SameJobs s'.store.tables)
    (reach : s'.store.available = s.store.available) :
    (∀ (filter : JobFilter) (order : JobOrder),
      (∀ window, s'.outcome (.jobs (.list filter order window)) =
        s.outcome (.jobs (.list filter order window))) ∧
      s'.outcome (.jobs (.count filter)) = s.outcome (.jobs (.count filter)) ∧
      ∀ id, s'.outcome (.jobs (.position filter order id)) =
        s.outcome (.jobs (.position filter order id))) ∧
    (∀ scopes configTypes, s'.outcome (.jobs (.latest scopes configTypes)) =
      s.outcome (.jobs (.latest scopes configTypes))) ∧
    (s.store.available = true → ∀ (filter : JobFilter) (field : OrderField),
      s.Mirrors filter field) := by
  have alike {q : JobQuery} (h : s'.store.tables.answer q = s.store.tables.answer q) :
      s'.outcome (.jobs q) = s.outcome (.jobs q) := by
    show s'.store.reply q = s.store.reply q
    rw [JobStore.reply, JobStore.reply, reach, h]
  refine ⟨fun filter order => ⟨fun window => ?_, ?_, fun id => ?_⟩, fun scopes configTypes => ?_,
    fun available => Session.mirrors available same.distinct⟩
  · exact alike (same.list filter order window)
  · exact alike (same.count filter)
  · exact alike (same.position filter order id)
  · exact alike (same.latest scopes configTypes)

/-- Two orders of insertion for three jobs of a workspace, two of which have the same time, and one of
another workspace. -/
theorem listings_mirror_three :
    let uuid (digit : Fin 16) : Uuid := ⟨.replicate 32 digit⟩
    let job (id : JobId) (scope : String) (seconds : Int) : Job :=
      ⟨id, .sync, scope, none, .succeeded, ⟨seconds, 0⟩, ⟨0, 0⟩, none, []⟩
    let filter : JobFilter :=
      ⟨[.sync], .workspaces [uuid 7], some [.succeeded], ⟨some ⟨4, 0⟩, none⟩, .unbounded⟩
    let setUp (jobs : List Job) : Session := .setUp
      (.assignWorkspace "a" (uuid 7) :: .assignWorkspace "b" (uuid 8) :: jobs.map .insertJob)
    let s := setUp [job 1 "a" 5, job 2 "a" 5, job 3 "b" 5, job 4 "a" 4]
    let s' := setUp [job 4 "a" 4, job 2 "a" 5, job 3 "b" 5, job 1 "a" 5]
    s.store.tables.SameJobs s'.store.tables ∧ s.store.available = true ∧
    s'.store.available = s.store.available ∧
    s.outcome (.jobs (.list filter ⟨.createdAt, .descending⟩ none)) =
      .ok [job 2 "a" 5, job 1 "a" 5, job 4 "a" 4] ∧
    s'.outcome (.jobs (.list filter ⟨.createdAt, .ascending⟩ none)) =
      .ok [job 4 "a" 4, job 1 "a" 5, job 2 "a" 5] ∧
    s'.outcome (.jobs (.position filter ⟨.createdAt, .descending⟩ 1)) = .ok (some 2) ∧
    s'.outcome (.jobs (.position filter ⟨.createdAt, .ascending⟩ 3)) = .ok none := by
  intro uuid job filter setUp s s'
  have available : s.store.available = true := rfl
  have same : s.store.tables.SameJobs s'.store.tables := ⟨by decide, by decide, rfl⟩
  obtain ⟨alike, -, mirrors⟩ := listings_mirror s s' same rfl
  have mirrors := mirrors available filter .createdAt
  have rows : s.store.tables.select filter ⟨.createdAt, .descending⟩ =
      [job 2 "a" 5, job 1 "a" 5, job 4 "a" 4] := by
    have matching : s.store.tables.matching filter = [job 1 "a" 5, job 2 "a" 5, job 4 "a" 4] := by decide
    rw [JobTables.select_eq_sort, matching]
    exact (JobOrder.eq_sort_of_perm (by decide) (by decide) (by decide)).symm
  have listed : s.outcome (.jobs (.list filter ⟨.createdAt, .descending⟩ none)) =
      .ok [job 2 "a" 5, job 1 "a" 5, job 4 "a" 4] :=
    (Session.outcome_jobs available _).trans (congrArg Except.ok rows)
  have window : s.outcome (.jobs (.list filter ⟨.createdAt, .descending⟩ (some ⟨1, 1⟩))) =
      .ok [job 1 "a" 5] :=
    (Session.outcome_jobs available _).trans
      (congrArg (fun rows => Except.ok (Window.of ⟨1, 1⟩ rows)) rows)
  refine ⟨same, available, rfl, listed, ?_, ?_, ?_⟩
  · obtain ⟨descending, down, up⟩ := mirrors.reversed
    rw [listed] at down
    rw [(alike filter ⟨.createdAt, .ascending⟩).1 none, up, ← Except.ok.inj down]
    rfl
  · rw [(alike filter ⟨.createdAt, .descending⟩).2.2 1]
    exact (mirrors.window .descending 1 1).mpr ⟨_, window, rfl⟩
  · rw [(alike filter ⟨.createdAt, .ascending⟩).2.2 3]
    exact (mirrors.missing .ascending 3).mpr (by decide)

end SyncHistory
