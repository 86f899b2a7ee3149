import Mathlib.Data.List.Forall2
import SyncHistory.Proofs.RunningSyncs

/-!
# Progress of running syncs

The progress of a connection has one block of items for each of its unfinished syncs
(`ProgressItem.ofViews_eq`). A block is a projection of the merged statistics of the streams of one job, so
it covers what is stored for the job (`ProgressItem.covers_merge`): every stream has one item, whose counters
are the sums over all attempts. Since merging loses nothing (`StreamStats.sum_merge`), the items of all
blocks add up to everything that is stored for the jobs.
-/

namespace SyncHistory

namespace JobTables

variable {t t' : JobTables}

/-- The statistics of streams that are stored for a job, whichever attempt they belong to. -/
def streamsOf (t : JobTables) (id : JobId) : List StreamStats :=
  (t.statsOf id).flatMap (·.streams)

theorem streamsOf_perm (stats : t'.stats.Perm t.stats) (id : JobId) :
    (t'.streamsOf id).Perm (t.streamsOf id) :=
  ((stats.filter _).map _).flatMap_right _

/-- The statistics of streams that are stored for all unfinished syncs of a connection. -/
def runningStreams (t : JobTables) (c : Uuid) : List StreamStats :=
  (t.jobs.filter (·.RunsFor c)).flatMap fun job => t.streamsOf job.id

theorem runningStreams_perm (jobs : t'.jobs.Perm t.jobs) (stats : t'.stats.Perm t.stats) (c : Uuid) :
    (t'.runningStreams c).Perm (t.runningStreams c) :=
  (List.Perm.flatMap_left _ fun job _ => streamsOf_perm stats job.id).trans
    ((jobs.filter _).flatMap_right _)

/-- The unfinished syncs of a connection, as they are looked up for its progress. -/
def runningOf (t : JobTables) (c : Uuid) : List Job :=
  t.select (.running (.scopes [c.text])) .newestFirst

theorem runningOf_lists (t : JobTables) (c : Uuid) :
    JobOrder.newestFirst.Lists (t.jobs.filter (·.RunsFor c)) (t.runningOf c) :=
  select_running (JobFilter.running_asksRunning _) fun _ _ => List.mem_singleton

end JobTables

namespace ProgressItem

/-- What an item says was moved: what is extracted was emitted, and what is loaded was committed. -/
def moved (i : ProgressItem) : SyncStats where
  recordsEmitted := i.recordsExtracted
  bytesEmitted := i.bytesExtracted
  recordsCommitted := i.recordsLoaded
  bytesCommitted := i.bytesLoaded

/-- The items cover statistics of streams: they stand in strictly increasing order, by name and then by
namespace, of which none is the least; they are about the streams that there are statistics of, and about
no others; and an item says that as much was moved as all statistics of its stream add up to. -/
structure Covers (block : List ProgressItem) (entries : List StreamStats) : Prop where
  ordered : (block.map (·.stream.place)).Pairwise (· < ·)
  streams : ∀ k, k ∈ block.map (·.stream) ↔ k ∈ StreamStats.keys entries
  totals : ∀ item ∈ block,
    SyncStats.Totals ((entries.filter (·.key = item.stream)).map (·.stats)) item.moved

/-- Merged statistics cover what was merged. -/
theorem covers_merge (job : JobView) (entries : List StreamStats) :
    Covers ((StreamStats.merge entries).map (ofStream job)) entries := by
  have inOrder := StreamStats.merge_inOrder entries
  refine ⟨?_, fun k => ?_, fun item mem => ?_⟩
  · rw [List.pairwise_map, List.pairwise_map]
    exact (List.pairwise_map.mp inOrder).imp fun before => StreamKey.lt_iff.mp before
  · rw [List.map_map, ← StreamStats.mem_keys_merge]
    rfl
  · obtain ⟨s, there, rfl⟩ := List.mem_map.mp mem
    have sum : (ofStream job s).moved = StreamStats.total s.key entries :=
      (inOrder.stats_of_mem there).trans (StreamStats.total_merge s.key entries)
    rw [sum]
    exact SyncStats.sum_totals _

/-- The items of the running syncs of a connection, in one block for each of these. All of them carry the
number and the start of the newest. -/
def blocks (t : JobTables) (running : List Job) : List (List ProgressItem) :=
  match running with
  | [] => []
  | newest :: _ =>
    running.map fun job => (StreamStats.merge (t.streamsOf job.id)).map (ofStream (.ofJob newest))

theorem ofViews_eq (t : JobTables) (running : List Job) :
    ofViews (running.map (t.view true)) = (blocks t running).flatten := by
  cases running with
  | nil => rfl
  | cons newest running =>
    show (((newest :: running).map (t.view true)).flatMap _).map (ofStream (.ofJob newest)) = _
    rw [List.flatMap_map, List.map_flatMap, List.flatMap_def]
    rfl

theorem covers_blocks (t : JobTables) (running : List Job) :
    List.Forall₂ (fun job block => Covers block (t.streamsOf job.id)) running (blocks t running) := by
  cases running with
  | nil => exact .nil
  | cons newest running =>
    exact List.forall₂_map_right_iff.mpr (List.forall₂_same.mpr fun job _ => covers_merge _ _)

theorem sum_moved_blocks (t : JobTables) (running : List Job) :
    ((blocks t running).flatten.map moved).sum =
      ((running.flatMap fun job => t.streamsOf job.id).map (·.stats)).sum := by
  have each (newest : JobView) (jobs : List Job) :
      ((jobs.map fun job => (StreamStats.merge (t.streamsOf job.id)).map (ofStream newest)).flatten.map
        moved).sum = ((jobs.flatMap fun job => t.streamsOf job.id).map (·.stats)).sum := by
    induction jobs with
    | nil => rfl
    | cons job jobs ih =>
      have own : ((StreamStats.merge (t.streamsOf job.id)).map (ofStream newest)).map moved =
          (StreamStats.merge (t.streamsOf job.id)).map (·.stats) := List.map_map
      rw [List.map_cons, List.flatten_cons, List.map_append, List.sum_append, ih, own,
        StreamStats.sum_merge, List.flatMap_cons, List.map_append, List.sum_append]
  cases running with
  | nil => rfl
  | cons newest running => exact each (.ofJob newest) (newest :: running)

/-- The order in which statistics were stored does not show. -/
theorem blocks_congr {t t' : JobTables} (perm : t'.stats.Perm t.stats) (running : List Job) :
    blocks t' running = blocks t running := by
  have merged (id : JobId) : StreamStats.merge (t'.streamsOf id) = StreamStats.merge (t.streamsOf id) :=
    StreamStats.merge_perm (t.streamsOf_perm perm id)
  cases running with
  | nil => rfl
  | cons newest running => simp only [blocks, merged]

/-- The items say that as much was moved as everything stored for the running syncs adds up to. -/
theorem totals_blocks (t : JobTables) (c : Uuid) :
    SyncStats.Totals ((blocks t (t.runningOf c)).flatten.map moved)
      ((t.runningStreams c).map (·.stats)).sum := by
  have stored : ((t.runningOf c).flatMap fun job => t.streamsOf job.id).Perm (t.runningStreams c) :=
    (t.runningOf_lists c).perm.flatMap_right _
  rw [← (stored.map _).sum_eq, ← sum_moved_blocks]
  exact SyncStats.sum_totals _

end ProgressItem

namespace Session

variable [SchemaChecker] {s : Session}

theorem outcome_progress_blocks (available : s.store.available = true) (c : Uuid) :
    s.outcome (.progress c) =
      .ok (ProgressItem.blocks s.store.tables (s.store.tables.runningOf c)).flatten := by
  rw [outcome_progress available (outcome_runningSyncs available [c]), ProgressItem.ofViews_eq]
  rfl

end Session

/-- **Progress loses nothing and counts nothing twice.** In a session whose job store can be reached, the
progress of a connection is one block of items for each of its unfinished syncs, the newest first, and the
block of a job covers all statistics of streams that are stored for the job, whichever attempt they belong
to. So all items together say that as much was moved as everything that is stored for these jobs adds up
to, in whatever order jobs and statistics were stored; and the order of the statistics does not show in the
items either. -/
theorem sync_progress_covers [SchemaChecker] (s : Session) (available : s.store.available = true) (c : Uuid) :
    ∃ (running : List Job) (blocks : List (List ProgressItem)),
      JobOrder.newestFirst.Lists (s.store.tables.jobs.filter (·.RunsFor c)) running ∧
      s.outcome (.progress c) = .ok blocks.flatten ∧
      s.outcome ((Operation.progress c).answer s.settings s.workflow.isSome) =
        .ok (.ofList ProgressItem.toJson blocks.flatten) ∧
      List.Forall₂ (fun job block => ProgressItem.Covers block (s.store.tables.streamsOf job.id)) running
        blocks ∧
      ∃ total, SyncStats.Totals ((s.store.tables.runningStreams c).map (·.stats)) total ∧
        SyncStats.Totals (blocks.flatten.map ProgressItem.moved) total ∧
        ∀ s' : Session, s'.store.available = true → s'.store.tables.jobs.Perm s.store.tables.jobs →
          s'.store.tables.stats.Perm s.store.tables.stats →
          ∃ items, s'.outcome (.progress c) = .ok items ∧
            SyncStats.Totals (items.map ProgressItem.moved) total ∧
            (s'.store.tables.jobs = s.store.tables.jobs → items = blocks.flatten) := by
  have answered := Session.outcome_progress_blocks available c
  refine ⟨_, _, s.store.tables.runningOf_lists c, answered, Session.outcome_bind_ok answered _,
    ProgressItem.covers_blocks _ _, _, SyncStats.sum_totals _, ProgressItem.totals_blocks _ c,
    fun s' available' jobs stats => ⟨_, Session.outcome_progress_blocks available' c, ?_, fun same => ?_⟩⟩
  · rw [← ((JobTables.runningStreams_perm jobs stats c).map _).sum_eq]
    exact ProgressItem.totals_blocks _ c
  · have lists := s.store.tables.runningOf_lists c
    rw [← same] at lists
    rw [(s'.store.tables.runningOf_lists c).unique lists, ProgressItem.blocks_congr stats]

/-- Two running syncs with statistics of attempts that no job lists, next to a job that is done and one of
which there are only statistics. -/
theorem sync_progress_covers_two :
    let connection : Uuid := ⟨.replicate 32 1⟩
    let job (id : JobId) (status : JobStatus) (seconds : Int) : Job :=
      ⟨id, .sync, connection.text, none, status, ⟨seconds, 0⟩, ⟨seconds, 0⟩, none, []⟩
    let entry (name : String) (nameSpace : Option String) (n : Int) : StreamStats :=
      ⟨⟨name, nameSpace⟩, ⟨n, 10 * n, n - 1, 10 * n - 1⟩⟩
    let stats : List (JobId × AttemptStats) :=
      [(1, ⟨0, 0, [entry "users" none 2, entry "users" "b" 3]⟩), (3, ⟨0, 0, [entry "users" none 8]⟩),
        (2, ⟨7, 0, [entry "users" none 4, entry "orders" none 1, entry "users" none 6]⟩),
        (9, ⟨0, 0, [entry "users" none 9]⟩), (1, ⟨1, 0, [entry "users" none 5]⟩)]
    let setUp (stats : List (JobId × AttemptStats)) : Session := .setUp
      (.insertJob (job 1 .running 5) :: .insertJob (job 2 .pending 6) :: .insertJob (job 3 .succeeded 7) ::
        stats.map fun s => .insertStats s.1 s.2)
    (setUp stats).store.available = true ∧ (setUp stats.reverse).store.available = true ∧
    ∃ newer older : List ProgressItem,
      (setUp stats).outcome (.progress connection) = .ok (newer ++ older) ∧
      (setUp stats.reverse).outcome (.progress connection) = .ok (newer ++ older) ∧
      (∃ item ∈ newer, item.stream = ⟨"users", none⟩ ∧ item.moved = ⟨10, 100, 8, 98⟩) ∧
      (∃ item ∈ older, item.stream = ⟨"users", none⟩ ∧ item.moved = ⟨7, 70, 5, 68⟩) ∧
      ((newer ++ older).map ProgressItem.moved).sum = ⟨21, 210, 15, 204⟩ := by
  intro connection job entry stats setUp
  have available (stats : List (JobId × AttemptStats)) : (setUp stats).store.available = true :=
    Session.setUp_available fun value mem => by simp at mem
  obtain ⟨running, blocks, lists, answered, -, covers, total, stored, moved, others⟩ :=
    sync_progress_covers (setUp stats) (available stats) connection
  have newestFirst : running = [job 2 .pending 6, job 1 .running 5] :=
    (JobOrder.eq_sort_of_perm (by decide) lists.perm lists.sorted).trans
      (JobOrder.eq_sort_of_perm (by decide) (by decide) (by decide)).symm
  subst newestFirst
  obtain ⟨newer, _, ofNewer, rest, rfl⟩ := List.forall₂_cons_left_iff.mp covers
  obtain ⟨older, _, ofOlder, nothing, rfl⟩ := List.forall₂_cons_left_iff.mp rest
  obtain rfl := List.forall₂_nil_left_iff.mp nothing
  have flat : [newer, older].flatten = newer ++ older := by
    rw [List.flatten_cons, List.flatten_cons, List.flatten_nil, List.append_nil]
  rw [flat] at answered moved others
  have users {block : List ProgressItem} {entries : List StreamStats} {sum : SyncStats}
      (covers : ProgressItem.Covers block entries) (there : ⟨"users", none⟩ ∈ StreamStats.keys entries)
      (adds : ((entries.filter (·.key = ⟨"users", none⟩)).map (·.stats)).sum = sum) :
      ∃ item ∈ block, item.stream = ⟨"users", none⟩ ∧ item.moved = sum := by
    obtain ⟨item, mem, stream⟩ := List.mem_map.mp ((covers.streams _).mpr there)
    refine ⟨item, mem, stream, ?_⟩
    rw [(covers.totals item mem).eq_sum, stream, adds]
  refine ⟨available _, available _, newer, older, answered, ?_, ?_, ?_, ?_⟩
  · obtain ⟨items, answered', -, same⟩ := others (setUp stats.reverse) (available _) (by decide) (by decide)
    rw [answered', same rfl]
  · exact users ofNewer (by decide) (by decide)
  · exact users ofOlder (by decide) (by decide)
  · rw [← moved.eq_sum, stored.eq_sum]
    decide

end SyncHistory
