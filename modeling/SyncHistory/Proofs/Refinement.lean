import Mathlib.Data.List.Perm.Basic
import SyncHistory.Proofs.Filter
import SyncHistory.Proofs.JobRow
import SyncHistory.Proofs.Statement

/-!
# Statements and tables in memory

A database stores what tables in memory hold if each of its rows stores one of the jobs
(`Sql.Content.Stores`) and its connections lead to the workspaces that the tables know of
(`Sql.Content.Workspaces`). A condition then holds of a row when the filter accepts the job in it, and
an order puts a row before another when the comparison does so with their jobs, so the statements about
jobs come to what the tables answer.
-/

namespace SyncHistory

open Sql

/-! ## Conditions -/

theorem contains_map {α β : Type} [DecidableEq α] [DecidableEq β] {f : α → β}
    (injective : Function.Injective f) (as : List α) (a : α) :
    (as.map f).contains (f a) = as.contains a := by
  rw [Bool.eq_iff_iff, List.contains_iff_mem, List.contains_iff_mem,
    List.mem_map_of_injective injective]

/-- The tables know of each scope the workspace of the source that its connection leads from. -/
def Sql.Content.Workspaces (db : Content) (t : JobTables) : Prop :=
  ∀ scope workspace, t.workspaceOf scope = some workspace ↔
    ∃ connection ∈ db.connections, connection.id.text = scope ∧
      ∃ actor ∈ db.actors, actor.id = connection.sourceId ∧ actor.workspaceId = workspace

theorem Sql.contains_elements_texts (ss : List String) (s : String) :
    (elements (.texts ss)).contains (.text s) = ss.contains s :=
  contains_map (fun _ _ h => SqlValue.text.inj h) ss s

theorem Sql.equal_text (s s' : String) : (SqlValue.text s == .text s') = (s == s') :=
  Bool.eq_iff_iff.mpr (by simp)

section

variable {db : Content} {t : JobTables} {params : List SqlValue} {r : JobRow} {job : Job}

/-- The workspace of a scope is one of several if a connection and its source say so. -/
theorem Sql.Content.Workspaces.inWorkspace (workspaces : db.Workspaces t) {ids : List Uuid}
    {place : Nat} (value : paramAt params place = .uuids ids) :
    (Test.inWorkspace place).holds db params r = (t.workspaceOf r.scope).any ids.contains := by
  rw [Bool.eq_iff_iff, Option.any_eq_true]
  show db.connections.any _ = true ↔ _
  simp only [value, List.any_eq_true, Bool.and_eq_true, beq_iff_eq]
  constructor
  · rintro ⟨connection, hc, scope, actor, ha, source, mem⟩
    refine ⟨actor.workspaceId, (workspaces _ _).mpr ⟨connection, hc, scope.symm, actor, ha, source, rfl⟩, ?_⟩
    rwa [elements, contains_map fun _ _ h => SqlValue.uuid.inj h] at mem
  · rintro ⟨workspace, known, mem⟩
    obtain ⟨connection, hc, scope, actor, ha, source, rfl⟩ := (workspaces _ _).mp known
    refine ⟨connection, hc, scope.symm, actor, ha, source, ?_⟩
    rwa [elements, contains_map fun _ _ h => SqlValue.uuid.inj h]

/-- A condition that has its value in its place holds of a row as it holds of the job in the row. -/
theorem Condition.holds_test (workspaces : db.Workspaces t) (stores : r.Stores job) (c : Condition)
    {place : Nat} (value : paramAt params place = c.value) :
    (c.test place).holds db params r = c.holds (t.workspaceOf job.scope) job := by
  cases c with
  | configTypeIn names =>
    show (elements (paramAt params place)).contains (.text r.configType) = _
    rw [value, stores.configType]
    exact contains_elements_texts _ _
  | scopeIs scope =>
    show (SqlValue.text r.scope == paramAt params place) = _
    rw [value, stores.scope]
    exact equal_text _ _
  | scopeIn scopes =>
    show (elements (paramAt params place)).contains (.text r.scope) = _
    rw [value, stores.scope]
    exact contains_elements_texts _ _
  | workspaceIn ids =>
    rw [← stores.scope]
    exact workspaces.inWorkspace value
  | statusIn names =>
    show (elements (paramAt params place)).contains (.text r.status) = _
    rw [value, stores.status]
    exact contains_elements_texts _ _
  | notBefore field time =>
    show atMost (paramAt params place) (field.sqlColumn.value r) = _
    rw [value]
    cases field with
    | createdAt => exact congrArg (fun u => decide (time ≤ u)) stores.createdAt
    | updatedAt => exact congrArg (fun u => decide (time ≤ u)) stores.updatedAt
  | notAfter field time =>
    show atMost (field.sqlColumn.value r) (paramAt params place) = _
    rw [value]
    cases field with
    | createdAt => exact congrArg (fun u => decide (u ≤ time)) stores.createdAt
    | updatedAt => exact congrArg (fun u => decide (u ≤ time)) stores.updatedAt

/-- Every condition finds its value behind those of the conditions before it. -/
theorem Condition.allHold_testsFrom (workspaces : db.Workspaces t) (stores : r.Stores job)
    (front back : List SqlValue) (cs : List Condition) {place : Nat} (here : place = front.length + 1) :
    allHold db (front ++ (cs.map value ++ back)) (testsFrom place cs) r =
      cs.all (·.holds (t.workspaceOf job.scope) job) := by
  induction cs generalizing front place with
  | nil => rfl
  | cons c cs ih =>
    have own : paramAt (front ++ c.value :: (cs.map value ++ back)) place = c.value :=
      paramAt_of_length here
    have next : place + 1 = (front ++ [c.value]).length + 1 := by
      rw [List.length_append, here]
      rfl
    have rest := ih (front ++ [c.value]) next
    rw [List.append_assoc] at rest
    exact congrArg₂ and (c.holds_test workspaces stores own) rest

/-! ## Filters -/

theorem TimeRange.all_conditions (range : TimeRange) (field : OrderField) (workspace : Option Uuid)
    (job : Job) : (range.conditions field).all (·.holds workspace job) =
      range.contains (JobOrder.time ⟨field, .ascending⟩ job) := by
  obtain ⟨start, stop⟩ := range
  cases start with
  | none =>
    cases stop with
    | none => rfl
    | some stop => exact Bool.and_true _
  | some start =>
    cases stop with
    | none => rfl
    | some stop => exact congrArg₂ and rfl (Bool.and_true _)

theorem ScopeSelector.all_conditions (selector : ScopeSelector) (workspace : Option Uuid) (job : Job) :
    selector.conditions.all (·.holds workspace job) = selector.selects job.scope workspace := by
  cases selector with
  | unscoped => rfl
  | scope s => exact Bool.and_true _
  | scopes ss => exact Bool.and_true _
  | workspaces ids => cases workspace <;> exact Bool.and_true _

/-- The conditions of a filter hold together of the jobs that it accepts. -/
theorem JobFilter.all_conditions (f : JobFilter) (workspace : Option Uuid) (job : Job) :
    f.conditions.all (·.holds workspace job) = f.accepts workspace job := by
  have kinds : (Condition.configTypeIn (f.configTypes.map ConfigType.name)).holds workspace job =
      f.configTypes.contains job.configType := contains_map ConfigType.name_injective _ _
  rw [conditions, List.all_append, List.all_append, List.all_append, List.all_cons, kinds,
    ScopeSelector.all_conditions, TimeRange.all_conditions, TimeRange.all_conditions, accepts,
    Bool.and_comm (f.configTypes.contains job.configType)]
  cases f.statuses with
  | none => rfl
  | some statuses =>
    have names : (Condition.statusIn (statuses.map JobStatus.name)).holds workspace job =
        statuses.contains job.status := contains_map JobStatus.name_injective _ _
    rw [Option.map_some, Option.toList_some, List.all_cons, names, List.all_nil, Bool.and_true]
    rfl

/-- With the values of a filter in front, its conditions hold of the rows of the jobs that it accepts. -/
theorem JobFilter.allHold_tests (workspaces : db.Workspaces t) (stores : r.Stores job) (f : JobFilter)
    (back : List SqlValue) : allHold db (f.values ++ back) f.tests r = t.accepts f job := by
  rw [JobTables.accepts, ← all_conditions]
  exact Condition.allHold_testsFrom workspaces stores [] back f.conditions rfl

/-! ## Orders -/

theorem JobOrder.compare_eq_lt {o : JobOrder} {a b : Job} :
    o.compare a b = .lt ↔ o.Precedes a b ∧ ¬ o.Ties a b := by
  rw [← compare_isLE, ← compare_eq_eq]
  cases o.compare a b <;> decide

/-- A job precedes all those that do not stand before it. -/
theorem JobOrder.precedes_iff {o : JobOrder} {a b : Job} :
    o.Precedes a b ↔ ¬ o.compare b a = .lt := by
  rw [← compare_isLE, (Std.OrientedCmp.eq_swap : o.compare b a = (o.compare a b).swap)]
  cases o.compare a b <;> decide

theorem OrderField.value_sqlColumn (stores : r.Stores job) (field : OrderField) :
    field.sqlColumn.value r = .time (JobOrder.time ⟨field, .ascending⟩ job) := by
  cases field with
  | createdAt => exact congrArg SqlValue.time stores.createdAt
  | updatedAt => exact congrArg SqlValue.time stores.updatedAt

/-- What an order by a time and a number comes to. -/
theorem Sql.puts_or_iff {u v : Instant} {m n : Int} {direction : Direction} :
    (puts direction (.time u) (.time v) ||
      (SqlValue.time u == .time v && (puts direction (.int m) (.int n) ||
        (SqlValue.int m == .int n && false)))) = true ↔
      (match direction with
        | .ascending => u ≤ v ∧ (u = v → m ≤ n)
        | .descending => v ≤ u ∧ (v = u → n ≤ m)) ∧ ¬ (u = v ∧ m = n) := by
  by_cases times : u = v
  · subst times
    cases direction <;> simp [puts, atMost]
  · have times' : ¬ v = u := fun h => times h.symm
    cases direction <;> simp [puts, atMost, times, times']

/-- The columns of an order put a row before another if the comparison does so with their jobs. -/
theorem JobOrder.sortsBefore_keys {r' : JobRow} {job' : Job} (stores : r.Stores job)
    (stores' : r'.Stores job') (o : JobOrder) :
    sortsBefore o.keys r r' = true ↔ o.compare job job' = .lt := by
  obtain ⟨field, direction⟩ := o
  have time := field.value_sqlColumn stores
  have time' := field.value_sqlColumn stores'
  have id : Column.id.value r = .int job.id := congrArg SqlValue.int stores.id
  have id' : Column.id.value r' = .int job'.id := congrArg SqlValue.int stores'.id
  rw [compare_eq_lt, keys, sortsBefore, sortsBefore, sortsBefore, time, time', id, id', puts_or_iff]
  cases direction with
  | ascending => rfl
  | descending => rfl

end

/-! ## Listings -/

theorem forall_mem_iff {α β : Type} {R : α → β → Prop} {p : α → Prop} {q : β → Prop}
    (same : ∀ {a b}, R a b → (p a ↔ q b)) {xs : List α} {ys : List β} (h : List.Forall₂ R xs ys) :
    (∀ x ∈ xs, p x) ↔ ∀ y ∈ ys, q y := by
  induction h with
  | nil => exact iff_of_true (fun _ h => nomatch h) fun _ h => nomatch h
  | cons first _ ih => rw [List.forall_mem_cons, List.forall_mem_cons, same first, ih]

theorem pairwise_iff {α β : Type} {R : α → β → Prop} {S : α → α → Prop} {T : β → β → Prop}
    (same : ∀ {a a' b b'}, R a b → R a' b' → (S a a' ↔ T b b')) {xs : List α} {ys : List β}
    (h : List.Forall₂ R xs ys) : xs.Pairwise S ↔ ys.Pairwise T := by
  induction h with
  | nil => exact iff_of_true .nil .nil
  | cons first rest ih =>
    rw [List.pairwise_cons, List.pairwise_cons, ih, forall_mem_iff (fun other => same first other) rest]

/-- A database stores the jobs that tables in memory hold, in whatever order, and no two of them have the
same number. -/
structure Sql.Content.Stores (db : Content) (t : JobTables) : Prop where
  jobs : ∃ jobs, List.Forall₂ JobRow.Stores db.jobs jobs ∧ jobs.Perm t.jobs
  distinct : (t.jobs.map Job.id).Nodup

namespace Sql

variable {db : Content} {t : JobTables}

/-- The conditions of a filter hold of the rows of the jobs that it accepts and of no others. -/
theorem Content.Stores.filtered (stores : db.Stores t) (workspaces : db.Workspaces t)
    (filter : JobFilter) (back : List SqlValue) :
    ∃ jobs, List.Forall₂ JobRow.Stores
      (db.jobs.filter (allHold db (filter.values ++ back) filter.tests)) jobs ∧
      jobs.Perm (t.jobs.filter (t.accepts filter)) := by
  obtain ⟨jobs, each, perm⟩ := stores.jobs
  refine ⟨jobs.filter (t.accepts filter), List.rel_filter (fun r job h => ?_) each, perm.filter _⟩
  exact Bool.eq_iff_iff.mp (filter.allHold_tests workspaces h back)

/-- Rows are in an order that is allowed when their jobs are in order. -/
theorem sorted_iff {order : JobOrder} {rows : List JobRow} {jobs : List Job}
    (each : List.Forall₂ JobRow.Stores rows jobs) :
    (rows.Pairwise fun a b => sortsBefore order.keys b a = false) ↔ jobs.Pairwise order.Precedes :=
  pairwise_iff (fun h h' => by
    rw [JobOrder.precedes_iff, ← JobOrder.sortsBefore_keys h' h, Bool.not_eq_true]) each

/-- Rows in an order that is allowed store the jobs that the tables list, in the same order. -/
theorem Listed.forall₂ (stores : db.Stores t) (workspaces : db.Workspaces t) {filter : JobFilter}
    {order : JobOrder} {back : List SqlValue} {rows : List JobRow}
    (listed : Listed db (filter.values ++ back) filter.tests order.keys rows) :
    List.Forall₂ JobRow.Stores rows (t.select filter order) := by
  obtain ⟨jobs, each, perm⟩ := stores.filtered workspaces filter back
  obtain ⟨found, each, perm'⟩ := List.perm_comp_forall₂ listed.perm each
  have distinct : ((t.jobs.filter (t.accepts filter)).map Job.id).Nodup :=
    stores.distinct.sublist (List.filter_sublist.map _)
  have sorted := (sorted_iff each).mp listed.sorted
  rw [JobTables.select, ← JobOrder.eq_sort_of_perm distinct (perm'.trans perm) sorted]
  exact each

theorem exists_listed (stores : db.Stores t) (workspaces : db.Workspaces t) (filter : JobFilter)
    (order : JobOrder) (back : List SqlValue) :
    ∃ rows, Listed db (filter.values ++ back) filter.tests order.keys rows := by
  obtain ⟨jobs, each, perm⟩ := stores.filtered workspaces filter back
  have both : Relation.Comp List.Perm (List.Forall₂ JobRow.Stores)
      (db.jobs.filter (allHold db (filter.values ++ back) filter.tests)) (t.select filter order) := by
    rw [← List.forall₂_comp_perm_eq_perm_comp_forall₂]
    exact ⟨jobs, each, perm.trans (order.sort_perm _).symm⟩
  obtain ⟨rows, perm, each⟩ := both
  exact ⟨rows, perm.symm, (sorted_iff each).mpr (order.sort_sorted _)⟩

/-- The section of a statement takes its limit and offset from the places behind the conditions. -/
theorem section_iff {filter : JobFilter} {window : Option Window} {rows found : List JobRow} :
    Query.Section (filter.values ++ Postgres.windowValues window) rows
      (window.map fun _ => (filter.values.length + 1, filter.values.length + 2)) found ↔
      found = match window with
        | some window => window.of rows
        | none => rows := by
  cases window with
  | none => rfl
  | some window =>
    have limit : paramAt (filter.values ++ Postgres.windowValues window) (filter.values.length + 1) =
        .int window.limit.toNat := paramAt_of_length rfl
    have offset : paramAt (filter.values ++ Postgres.windowValues window) (filter.values.length + 2) =
        .int window.offset.toNat := by
      rw [Postgres.windowValues, List.append_cons]
      refine paramAt_of_length ?_
      rw [List.length_append]
      rfl
    constructor
    · rintro ⟨_, _, hl, ho, rfl⟩
      cases limit.symm.trans hl
      cases offset.symm.trans ho
      rfl
    · exact fun h => ⟨_, _, limit, offset, h⟩

/-- The rank of the row with an identifier, which no other row has. -/
theorem ranks_eq {rows : List JobRow} (distinct : (rows.map JobRow.id).Nodup) (id : Int) (start : Nat) :
    ((rows.zipIdx start).filter fun ranked => SqlValue.int ranked.1.id == .int id).map (·.2) =
      ((rows.findIdx? (·.id == id)).map (· + start)).toList := by
  induction rows generalizing start with
  | nil => rfl
  | cons r rows ih =>
    obtain ⟨absent, distinct⟩ := List.nodup_cons.mp distinct
    rw [List.zipIdx_cons, List.findIdx?_cons]
    by_cases h : r.id = id
    · -- identifiers are distinct, so no later row has this one
      have none : (rows.zipIdx (start + 1)).filter
          (fun ranked => SqlValue.int ranked.1.id == .int id) = [] := by
        refine List.filter_eq_nil_iff.mpr fun ranked mem eq => absent ?_
        rw [h, ← SqlValue.int.inj (beq_iff_eq.mp eq)]
        exact List.mem_map_of_mem (List.fst_mem_of_mem_zipIdx mem)
      rw [List.filter_cons_of_pos (by simpa using h), none, if_pos (by simpa using h)]
      exact congrArg (fun n => [n]) (Nat.zero_add start).symm
    · rw [List.filter_cons_of_neg (by simpa using h), ih distinct, if_neg (by simpa using h),
        Option.map_map]
      refine congrArg (fun f => ((rows.findIdx? (·.id == id)).map f).toList) (funext fun n => ?_)
      show n + (start + 1) = n + 1 + start
      omega

/-! ## Statements -/

/-- The statement is the text of a query; there are rows that answer the query, and they all are as
said. -/
structure Denotes (db : Content) (statement : Statement) (query : Query) (answer : List Row → Prop) :
    Prop where
  text : statement.text = query.text
  exists_answer : ∃ rows, query.Answers db statement.params rows
  answer : ∀ rows, query.Answers db statement.params rows → answer rows

/-- The statement for a listing gives the jobs that the tables list. -/
theorem list_denotes (stores : db.Stores t) (workspaces : db.Workspaces t) (filter : JobFilter)
    (order : JobOrder) (window : Option Window) :
    Denotes db (Postgres.listStatement filter order window) (Postgres.listQuery filter order window)
      fun rows => rows.mapM Postgres.job = .ok ((t.list filter order window).map Job.withoutAttempts) := by
  rw [Postgres.listStatement_eq]
  refine ⟨rfl, ?_, ?_⟩
  · obtain ⟨rows, listed⟩ := exists_listed stores workspaces filter order (Postgres.windowValues window)
    exact ⟨_, rows, _, listed, section_iff.mpr rfl, rfl⟩
  · rintro _ ⟨rows, found, listed, found_eq, rfl⟩
    have each := listed.forall₂ stores workspaces
    rw [section_iff.mp found_eq]
    cases window with
    | none => exact JobRow.mapM_job each
    | some window => exact JobRow.mapM_job (List.forall₂_take _ (List.forall₂_drop _ each))

/-- The statement for a number gives the number of jobs that the tables count. -/
theorem count_denotes (stores : db.Stores t) (workspaces : db.Workspaces t) (filter : JobFilter) :
    Denotes db (Postgres.countStatement filter) (Postgres.countQuery filter)
      fun rows => rows = [⟨[("count", .int (t.count filter))]⟩] := by
  obtain ⟨jobs, each, perm⟩ := stores.filtered workspaces filter []
  rw [List.append_nil] at each
  have length := each.length_eq.trans perm.length_eq
  rw [Postgres.countStatement_eq]
  refine ⟨rfl, ⟨_, rfl⟩, ?_⟩
  rintro _ rfl
  rw [length]
  rfl

/-- The statement for a place gives the place that the tables find, or no row if there is none. -/
theorem position_denotes (stores : db.Stores t) (workspaces : db.Workspaces t) (filter : JobFilter)
    (order : JobOrder) (id : JobId) :
    Denotes db (Postgres.positionStatement filter order id) (Postgres.positionQuery filter order)
      fun rows => rows =
        ((t.position filter order id).map fun n => ⟨[("position", .int n)]⟩).toList := by
  have place : paramAt (filter.values ++ [.int id]) (filter.values.length + 1) = .int id :=
    paramAt_of_length rfl
  rw [Postgres.positionStatement_eq]
  refine ⟨rfl, ?_, ?_⟩
  · obtain ⟨rows, listed⟩ := exists_listed stores workspaces filter order [.int id]
    exact ⟨_, rows, listed, rfl⟩
  · rintro _ ⟨rows, listed, rfl⟩
    have each := listed.forall₂ stores workspaces
    -- the database ranks rows and the tables look for jobs, which have the same identifiers in order
    have ids : rows.map JobRow.id = (t.select filter order).map Job.id := by
      rw [← List.forall₂_eq_eq_eq, List.forall₂_map_left_iff, List.forall₂_map_right_iff]
      exact each.imp fun _ _ h => h.id
    have distinct : (rows.map JobRow.id).Nodup := by
      rw [ids]
      refine ((order.sort_perm _).map _).nodup_iff.mpr ?_
      exact stores.distinct.sublist (List.filter_sublist.map _)
    have index := congrArg (List.findIdx? (· == id)) ids
    rw [List.findIdx?_map, List.findIdx?_map] at index
    have ranks : ((rows.zipIdx 1).filter fun ranked => SqlValue.int ranked.1.id == .int id).map (·.2) =
        (t.position filter order id).toList :=
      (ranks_eq distinct id 1).trans (congrArg (fun found => (found.map (· + 1)).toList) index)
    rw [place, Option.toList_map, ← ranks, List.map_map]
    rfl

end Sql

/-- **Statements refine the tables in memory.** Where the workspaces of scopes are those that connections
lead to, the conditions of a filter, read with the values that are sent along, hold of a row exactly if
the filter accepts the job in it, and the columns of an order put a row before another exactly if the
comparison does. So for the same jobs, the statements for a listing, a number and a place come to what
the tables answer. -/
theorem statements_refine_tables (db : Content) (t : JobTables) (workspaces : db.Workspaces t) :
    (∀ filter : JobFilter,
      Statement.ofFragments filter.clause = ⟨whereText filter.tests, filter.values⟩ ∧
      ∀ (r : JobRow) (job : Job), r.Stores job →
        (allHold db filter.values filter.tests r = true ↔ t.accepts filter job = true)) ∧
    (∀ order : JobOrder, order.clause = orderText order.keys ∧
      ∀ (r r' : JobRow) (job job' : Job), r.Stores job → r'.Stores job' →
        (sortsBefore order.keys r r' = true ↔ order.compare job job' = .lt)) ∧
    (db.Stores t → ∀ (filter : JobFilter) (order : JobOrder),
      (∀ window, Denotes db (Postgres.listStatement filter order window)
        (Postgres.listQuery filter order window) fun rows =>
          rows.mapM Postgres.job = .ok ((t.list filter order window).map Job.withoutAttempts)) ∧
      (Denotes db (Postgres.countStatement filter) (Postgres.countQuery filter) fun rows =>
        rows = [⟨[("count", .int (t.count filter))]⟩]) ∧
      ∀ id, Denotes db (Postgres.positionStatement filter order id)
        (Postgres.positionQuery filter order) fun rows =>
          rows = ((t.position filter order id).map fun n => ⟨[("position", .int n)]⟩).toList) := by
  refine ⟨fun filter => ⟨filter.clause_eq, fun r job h => ?_⟩, fun order => ⟨?_, ?_⟩,
    fun stores filter order => ⟨?_, ?_, ?_⟩⟩
  · have holds := filter.allHold_tests workspaces h []
    rw [List.append_nil] at holds
    rw [holds]
  · exact order.orderText_keys.symm
  · exact fun r r' job job' h h' => order.sortsBefore_keys h h'
  · exact list_denotes stores workspaces filter order
  · exact count_denotes stores workspaces filter
  · exact position_denotes stores workspaces filter order

/-- Two jobs, one of them of a connection whose source is in a workspace. -/
theorem statements_refine_tables_two :
    let uuid (digit : Fin 16) : Uuid := ⟨.replicate 32 digit⟩
    let connection : Connection := ⟨uuid 1, "", uuid 2, uuid 3, ""⟩
    let source : Actor := ⟨uuid 2, "", uuid 4, uuid 5, .null⟩
    let job (id : JobId) (scope : String) : Job :=
      ⟨id, .sync, scope, none, .running, ⟨id, 0⟩, ⟨id, 0⟩, none, []⟩
    let row (id : Int) (scope : String) : JobRow :=
      ⟨id, "sync", scope, none, "running", none, ⟨id, 0⟩, ⟨id, 0⟩⟩
    let db : Content := ⟨[row 2 connection.id.text, row 1 "other"], [connection], [source]⟩
    let t : JobTables := ⟨[job 1 "other", job 2 connection.id.text], [], [],
      [(connection.id.text, uuid 5)]⟩
    let filter := JobFilter.ofScope [.sync] (.workspaces [uuid 5])
    db.Workspaces t ∧ db.Stores t ∧ (row 1 "other").Stores (job 1 "other") ∧
    allHold db filter.values filter.tests (row 1 "other") = false ∧
    Denotes db (Postgres.countStatement filter) (Postgres.countQuery filter) fun rows =>
      rows = [⟨[("count", .int 1)]⟩] := by
  intro uuid connection source job row db t filter
  have stores (id : Int) (scope : String) : (row id scope).Stores (job id scope) :=
    ⟨rfl, rfl, rfl, rfl, rfl, rfl, rfl, rfl⟩
  have workspaces : db.Workspaces t := by
    intro scope w
    show [(connection.id.text, uuid 5)].lookup scope = some w ↔ ∃ c ∈ [connection], c.id.text = scope ∧
      ∃ actor ∈ [source], actor.id = c.sourceId ∧ actor.workspaceId = w
    simp only [List.mem_singleton, exists_eq_left]
    by_cases known : scope = connection.id.text
    · rw [known, List.lookup_cons_self]
      exact ⟨fun h => ⟨rfl, rfl, Option.some.inj h⟩, fun h => congrArg some h.2.2⟩
    · rw [List.lookup_cons, beq_false_of_ne known]
      exact iff_of_false (fun h => nomatch h) fun h => known h.1.symm
  have same : db.Stores t := ⟨⟨[job 2 connection.id.text, job 1 "other"],
    .cons (stores _ _) (.cons (stores _ _) .nil), List.Perm.swap _ _ _⟩, by decide⟩
  obtain ⟨filters, -, denotes⟩ := statements_refine_tables db t workspaces
  refine ⟨workspaces, same, stores _ _, ?_, ?_⟩
  · refine Bool.eq_false_iff.mpr fun h => ?_
    have accepted : t.accepts filter (job 1 "other") = true :=
      ((filters filter).2 _ _ (stores 1 "other")).mp h
    revert accepted
    decide
  · have one : t.count filter = 1 := by decide
    have counted := (denotes same filter .newestFirst).2.1
    rw [one] at counted
    exact counted

end SyncHistory
