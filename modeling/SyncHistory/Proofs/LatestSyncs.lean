import Mathlib.Data.List.Induction
import Mathlib.Data.List.Nodup
import SyncHistory.Proofs.Listing
import SyncHistory.Proofs.UuidText

/-!
# Latest syncs

The latest sync of a connection can be asked for on its own, or those of many connections at once. On its
own it is the head of a listing. At once it takes no listing: the newest job of each scope is found in one
pass, and a scope that has a summary already is passed over.

What keeps the summaries in step is `JobTables.addLatest_eraseDups`: after some scopes the summaries are
those of the distinct scopes, in the order in which these came first. A scope that came before and has no
summary has no job either, so looking it up again changes nothing. `latest_syncs_agree` says that both ways
show the same job of every connection.
-/

namespace SyncHistory

/-! ## Lists without repetitions -/

section

variable {α β : Type} [DecidableEq α] [DecidableEq β]

/-- One more element is kept unless it has been there before. -/
theorem eraseDups_concat (as : List α) (a : α) :
    (as ++ [a]).eraseDups = if a ∈ as then as.eraseDups else as.eraseDups ++ [a] := by
  have alone : [a].eraseDups = [a] := by simp [List.eraseDups_cons]
  rw [List.eraseDups_append, List.removeAll]
  by_cases mem : a ∈ as <;> simp [mem, alone]

theorem nodup_eraseDups (as : List α) : as.eraseDups.Nodup := by
  induction as using List.reverseRecOn with
  | nil => exact List.nodup_nil
  | append_singleton as a ih =>
    rw [eraseDups_concat]
    by_cases mem : a ∈ as
    · rwa [if_pos mem]
    · rw [if_neg mem]
      have new : a ∉ as.eraseDups := fun h => mem (List.mem_eraseDups.mp h)
      refine List.nodup_append.mpr ⟨ih, List.nodup_singleton a, fun b hb c hc eq => new ?_⟩
      rwa [← List.mem_singleton.mp hc, ← eq]

theorem eraseDups_map {f : α → β} (injective : Function.Injective f) (as : List α) :
    (as.map f).eraseDups = as.eraseDups.map f := by
  induction as using List.reverseRecOn with
  | nil => rfl
  | append_singleton as a ih =>
    rw [List.map_append, List.map_singleton, eraseDups_concat, eraseDups_concat, ih]
    by_cases mem : a ∈ as
    · rw [if_pos mem, if_pos (List.mem_map_of_mem mem)]
    · have new : f a ∉ as.map f := fun h => mem ((List.mem_map_of_injective injective).mp h)
      rw [if_neg mem, if_neg new, List.map_append, List.map_singleton]

end

/-! ## The latest job of each scope -/

namespace JobTables

variable {t : JobTables} {configTypes : List ConfigType}

/-- The newest job of a scope, which is found in one pass, is the head of a listing. -/
theorem newestOf_eq (t : JobTables) (configTypes : List ConfigType) (scope : String) :
    t.newestOf configTypes scope =
      (t.select (.ofScope configTypes (.scope scope)) .newestFirst).head? := by
  have same : (t.jobs.filter fun job => job.scope == scope && configTypes.contains job.configType) =
      t.matching (.ofScope configTypes (.scope scope)) := by
    refine List.filter_congr fun job _ => ?_
    rw [Bool.eq_iff_iff, Bool.and_eq_true, beq_iff_eq, List.contains_iff_mem, decide_eq_true_iff,
      JobFilter.ofScope_matches]
    rfl
  rw [newestOf, same]
  exact (t.select_lists _ _).head?_eq

theorem scope_of_newestOf {scope : String} {job : Job} (h : t.newestOf configTypes scope = some job) :
    job.scope = scope := by
  have mem := (JobOrder.isFirst_of_first? h).mem
  have accepted := List.of_mem_filter mem
  rw [Bool.and_eq_true, beq_iff_eq] at accepted
  exact accepted.1

/-- The summary of the newest job of a scope, if it has one. -/
def latestOf (t : JobTables) (configTypes : List ConfigType) (scope : String) : Option JobSummary :=
  (t.newestOf configTypes scope).map .ofJob

theorem connectionId_of_latestOf {scope : String} {summary : JobSummary}
    (h : t.latestOf configTypes scope = some summary) : summary.connectionId = scope := by
  obtain ⟨job, newest, rfl⟩ := Option.map_eq_some_iff.mp h
  exact scope_of_newestOf newest

/-- Summaries of some scopes have one of a scope exactly if it is among these and has a job. -/
theorem exists_mem_latestOf {scopes : List String} {scope : String} :
    (∃ summary ∈ scopes.filterMap (t.latestOf configTypes), summary.connectionId = scope) ↔
      scope ∈ scopes ∧ ∃ summary, t.latestOf configTypes scope = some summary := by
  simp only [List.mem_filterMap]
  constructor
  · rintro ⟨summary, ⟨other, mem, found⟩, own⟩
    rw [connectionId_of_latestOf found] at own
    subst own
    exact ⟨mem, summary, found⟩
  · rintro ⟨mem, summary, found⟩
    exact ⟨summary, ⟨scope, mem, found⟩, connectionId_of_latestOf found⟩

/-- If the summaries are those of the distinct scopes so far, they are so after one more scope. -/
theorem addLatest_eraseDups (t : JobTables) (configTypes : List ConfigType) (seen : List String)
    (scope : String) :
    t.addLatest configTypes (seen.eraseDups.filterMap (t.latestOf configTypes)) scope =
      (seen ++ [scope]).eraseDups.filterMap (t.latestOf configTypes) := by
  have there : (seen.eraseDups.filterMap (t.latestOf configTypes)).any (·.connectionId == scope) ↔
      scope ∈ seen ∧ ∃ summary, t.latestOf configTypes scope = some summary := by
    simp only [List.any_eq_true, beq_iff_eq]
    rw [exists_mem_latestOf, List.mem_eraseDups]
  rw [eraseDups_concat, addLatest]
  cases newest : t.newestOf configTypes scope with
  | none =>
    -- the scope may have come before, but it has no summary either way
    have absent : t.latestOf configTypes scope = none := by rw [latestOf, newest, Option.map_none]
    have new : ¬ (seen.eraseDups.filterMap (t.latestOf configTypes)).any (·.connectionId == scope) := by
      rw [there, absent]
      simp
    rw [if_neg new]
    by_cases mem : scope ∈ seen
    · rw [if_pos mem]
    · simp [mem, absent]
  | some job =>
    have found : t.latestOf configTypes scope = some (.ofJob job) := by
      rw [latestOf, newest, Option.map_some]
    by_cases mem : scope ∈ seen
    · rw [if_pos (there.mpr ⟨mem, _, found⟩), if_pos mem]
    · have new : ¬ (seen.eraseDups.filterMap (t.latestOf configTypes)).any
          (·.connectionId == scope) := fun h => mem (there.mp h).1
      simp [new, mem, found]

/-- The latest jobs are those of the distinct scopes, in the order in which these come first. -/
theorem latest_eq (t : JobTables) (scopes : List String) (configTypes : List ConfigType) :
    t.latest scopes configTypes = scopes.eraseDups.filterMap (t.latestOf configTypes) := by
  unfold latest
  induction scopes using List.reverseRecOn with
  | nil => rfl
  | append_singleton scopes scope ih =>
    rw [List.foldl_append, ih, List.foldl_cons, List.foldl_nil, addLatest_eraseDups]

end JobTables

/-! ## Two ways to ask -/

/-- The job is a sync of the connection, whatever its status. -/
structure Job.SyncsFor (job : Job) (c : Uuid) : Prop where
  scope : job.scope = c.text
  configType : job.configType ∈ [.sync, .refresh]

theorem Job.syncsFor_iff {job : Job} {c : Uuid} :
    job.SyncsFor c ↔ job.scope = c.text ∧ job.configType ∈ [.sync, .refresh] :=
  ⟨fun h => ⟨h.scope, h.configType⟩, fun h => ⟨h.1, h.2⟩⟩

instance (job : Job) (c : Uuid) : Decidable (job.SyncsFor c) :=
  decidable_of_iff _ Job.syncsFor_iff.symm

namespace JobTables

/-- The newest job that is looked up for a connection is the first of its syncs. -/
theorem newestOf_sync (t : JobTables) (c : Uuid) :
    t.newestOf ConfigType.syncReplication c.text =
      JobOrder.newestFirst.first? (t.jobs.filter (·.SyncsFor c)) := by
  refine congrArg JobOrder.newestFirst.first? (List.filter_congr fun job _ => ?_)
  rw [Bool.eq_iff_iff, Bool.and_eq_true, beq_iff_eq, List.contains_iff_mem, decide_eq_true_iff,
    Job.syncsFor_iff]
  rfl

/-- A connection has a summary exactly if it has a sync. -/
theorem exists_latestOf_iff {t : JobTables} {c : Uuid} :
    (∃ summary, t.latestOf ConfigType.syncReplication c.text = some summary) ↔
      ∃ job ∈ t.jobs, job.SyncsFor c := by
  rw [latestOf, newestOf_sync]
  constructor
  · rintro ⟨summary, found⟩
    obtain ⟨job, newest, -⟩ := Option.map_eq_some_iff.mp found
    have mem := List.mem_filter.mp (JobOrder.isFirst_of_first? newest).mem
    exact ⟨job, mem.1, of_decide_eq_true mem.2⟩
  · rintro ⟨job, stored, syncs⟩
    have mem : job ∈ t.jobs.filter (·.SyncsFor c) :=
      List.mem_filter.mpr ⟨stored, decide_eq_true syncs⟩
    obtain ⟨newest, found⟩ := JobOrder.newestFirst.exists_first? mem
    exact ⟨.ofJob newest, Option.map_eq_some_iff.mpr ⟨newest, found, rfl⟩⟩

end JobTables

namespace Session

variable [SchemaChecker] {s : Session}

/-- What a session shows of the latest sync of each connection when it is asked about one at a time: the
first of a listing of its syncs, the newest first. -/
structure ShowsLatest (s : Session) (latest : Uuid → Option Job) : Prop where
  first : ∀ c, ∃ rows, JobOrder.newestFirst.Lists (s.store.tables.jobs.filter (·.SyncsFor c)) rows ∧
    latest c = rows.head?
  found : ∀ c, s.outcome (.latestSync c) = .ok (latest c)
  shown : ∀ c, s.outcome ((Operation.latestSync c).answer s.settings s.workflow.isSome) =
    .ok (.ofOption JobView.toJson ((latest c).map .ofJob))

/-- The newest sync of a connection is the newest job of its scope that is one. -/
theorem outcome_latestSync (available : s.store.available = true) (c : Uuid) :
    s.outcome (.latestSync c) =
      .ok (s.store.tables.newestOf ConfigType.syncReplication c.text) := by
  have page := outcome_jobs available
    (.list (.ofScope ConfigType.syncReplication (.scope c.text)) .newestFirst (some ⟨1, 0⟩))
  refine (outcome_bind_ok page _).trans (congrArg Except.ok ?_)
  rw [JobTables.newestOf_eq]
  show (List.take 1 (List.drop 0 _)).head? = _
  rw [List.drop_zero, List.head?_take, if_neg Nat.one_ne_zero]

theorem showsLatest (available : s.store.available = true) :
    s.ShowsLatest fun c => s.store.tables.newestOf ConfigType.syncReplication c.text := by
  refine ⟨fun c => ?_, outcome_latestSync available, fun c => ?_⟩
  · have lists := JobOrder.newestFirst.sort_lists (s.store.tables.jobs.filter (·.SyncsFor c))
    exact ⟨_, lists, (s.store.tables.newestOf_sync c).trans lists.head?_eq⟩
  · exact outcome_bind_ok (outcome_latestSync available c) _

/-- About no connection nothing is asked, and there would be no summary either. -/
theorem outcome_latestSyncs (available : s.store.available = true) (ids : List Uuid) :
    s.outcome (.latestSyncs ids) =
      .ok (s.store.tables.latest (ids.map Uuid.text) ConfigType.syncReplication) := by
  cases ids with
  | nil => rfl
  | cons id ids => exact outcome_jobs available _

end Session

/-- **The latest syncs of many connections are those of each one.** In a session whose job store can be
reached, asking about many connections at once gives, for the distinct ones in the order in which they come
first, the summary of the job that asking about one gives, and nothing for a connection that has none. So no
connection is there twice, and those that have a sync are there. -/
theorem latest_syncs_agree [SchemaChecker] (s : Session) (available : s.store.available = true) :
    ∃ latest, s.ShowsLatest latest ∧ ∀ ids : List Uuid, ∃ summaries,
      s.outcome (.latestSyncs ids) = .ok summaries ∧
      s.outcome ((Operation.latestSyncs ids).answer s.settings s.workflow.isSome) =
        .ok (.ofList JobSummary.toJson summaries) ∧
      summaries = (ids.eraseDups.filterMap fun c => (latest c).map fun job =>
        ⟨job.id, job.scope, job.createdAt, job.status⟩) ∧
      (summaries.map (·.connectionId)).Nodup ∧
      ∀ c ∈ ids, (∃ summary ∈ summaries, summary.connectionId = c.text) ↔
        ∃ job ∈ s.store.tables.jobs, job.SyncsFor c := by
  have shows := Session.showsLatest available
  refine ⟨_, shows, fun ids => ?_⟩
  have answered := Session.outcome_latestSyncs available ids
  rw [JobTables.latest_eq] at answered
  refine ⟨_, answered, Session.outcome_bind_ok answered _, ?_, ?_, fun c mem => ?_⟩
  · rw [eraseDups_map Uuid.text_injective, List.filterMap_map]
    rfl
  · rw [List.map_filterMap]
    -- a summary tells which scope it is of
    refine (nodup_eraseDups _).filterMap fun scope scope' id own own' => ?_
    obtain ⟨summary, found, rfl⟩ := Option.map_eq_some_iff.mp own
    obtain ⟨summary', found', same⟩ := Option.map_eq_some_iff.mp own'
    rw [← JobTables.connectionId_of_latestOf found, ← JobTables.connectionId_of_latestOf found', same]
  · rw [JobTables.exists_mem_latestOf, List.mem_eraseDups, JobTables.exists_latestOf_iff]
    exact and_iff_right (List.mem_map_of_mem mem)

/-- A connection with two jobs that are tied down to their numbers, one that was only cleared, and one with
a single sync. -/
theorem latest_syncs_agree_three :
    let uuid (digit : Fin 16) : Uuid := ⟨.replicate 32 digit⟩
    let job (id : JobId) (owner : Uuid) (configType : ConfigType) (status : JobStatus) : Job :=
      ⟨id, configType, owner.text, none, status, ⟨5, 0⟩, ⟨5, 0⟩, none, []⟩
    let s := Session.setUp [.insertJob (job 1 (uuid 1) .sync .failed),
      .insertJob (job 2 (uuid 1) .refresh .running), .insertJob (job 2 (uuid 1) .sync .pending),
      .insertJob (job 3 (uuid 2) .clear .succeeded), .insertJob (job 4 (uuid 3) .sync .succeeded)]
    s.store.available = true ∧
    s.outcome (.latestSync (uuid 1)) = .ok (some (job 2 (uuid 1) .refresh .running)) ∧
    s.outcome (.latestSyncs [uuid 3, uuid 2, uuid 1, uuid 3]) =
      .ok [⟨4, (uuid 3).text, ⟨5, 0⟩, .succeeded⟩, ⟨2, (uuid 1).text, ⟨5, 0⟩, .running⟩] := by
  intro uuid job s
  have available : s.store.available = true := rfl
  obtain ⟨latest, shows, several⟩ := latest_syncs_agree s available
  have first (c : Uuid) : latest c =
      JobOrder.newestFirst.first? (s.store.tables.jobs.filter (·.SyncsFor c)) := by
    obtain ⟨rows, lists, head⟩ := shows.first c
    rw [head, lists.head?_eq]
  have one : latest (uuid 1) = some (job 2 (uuid 1) .refresh .running) := (first _).trans (by decide)
  have two : latest (uuid 2) = none := (first _).trans (by decide)
  have three : latest (uuid 3) = some (job 4 (uuid 3) .sync .succeeded) := (first _).trans (by decide)
  obtain ⟨summaries, answered, -, each, -⟩ := several [uuid 3, uuid 2, uuid 1, uuid 3]
  have distinct : [uuid 3, uuid 2, uuid 1, uuid 3].eraseDups = [uuid 3, uuid 2, uuid 1] := by decide
  refine ⟨available, (shows.found _).trans (congrArg Except.ok one), answered.trans ?_⟩
  rw [each, distinct]
  simp [one, two, three, job]

end SyncHistory
