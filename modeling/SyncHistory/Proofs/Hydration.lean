import Mathlib.Data.List.Nodup
import SyncHistory.Hydration
import SyncHistory.Proofs.Stream

/-!
# What hydration adds

Hydration fills in four fields and leaves the rest of a view as it was
(`JobWithAttempts.hydrate_withoutStats`). The statistics of a job are sums over everything that is stored
for it, those of an attempt come from its own entry. If every entry belongs to one attempt of the view,
the statistics of the attempts are the stored ones in another order, and nothing besides
(`AttemptStats.forAttempt_perm`), so both ways of adding up come to the same.
-/

namespace SyncHistory

/-! ## Views without statistics -/

/-- The view of a job without statistics. -/
def JobView.withoutStats (v : JobView) : JobView :=
  { v with aggregatedStats := none, streamAggregatedStats := none }

/-- The view of an attempt without statistics. -/
def AttemptView.withoutStats (v : AttemptView) : AttemptView :=
  { v with totalStats := none, streamStats := none }

/-- The view of a job and its attempts without statistics. -/
def JobWithAttempts.withoutStats (v : JobWithAttempts) : JobWithAttempts :=
  ⟨v.job.withoutStats, v.attempts.map .withoutStats⟩

/-- Nothing but statistics is put into a view. -/
theorem JobWithAttempts.hydrate_withoutStats (v : JobWithAttempts) (stats : List AttemptStats) :
    (v.hydrate stats).withoutStats = v.withoutStats := by
  rw [withoutStats, withoutStats, hydrate, List.map_map]
  rfl

/-! ## Statistics by attempt -/

/-- Where no two elements have the same key, an element is the one that its key leads to. -/
theorem find?_key_eq_some {α κ : Type} [DecidableEq κ] {key : α → κ} {as : List α}
    (distinct : (as.map key).Nodup) {a : α} (mem : a ∈ as) :
    as.find? (fun b => key b == key a) = some a := by
  cases found : as.find? fun b => key b == key a with
  | none => exact absurd (beq_iff_eq.mpr rfl) (List.find?_eq_none.mp found a mem)
  | some other =>
    have same : key other = key a := by
      simpa only [beq_iff_eq] using List.find?_some found
    rw [List.inj_on_of_nodup_map distinct (List.mem_of_find?_eq_some found) mem same]

/-- Distinct numbers, each of which stands once in a list, are what the list has of them. -/
theorem filter_mem_perm {ids numbers : List Int} (distinct : numbers.Nodup)
    (once : ∀ n ∈ numbers, ids.count n = 1) : (ids.filter (· ∈ numbers)).Perm numbers := by
  refine (List.perm_ext_iff_of_nodup ?_ distinct).mpr fun n => ?_
  · refine List.nodup_iff_count_eq_one.mpr fun n mem => ?_
    have recorded := (List.mem_filter.mp mem).2
    rw [List.count_filter (p := fun m => decide (m ∈ numbers)) recorded]
    exact once n (of_decide_eq_true recorded)
  · rw [List.mem_filter, decide_eq_true_iff]
    exact and_iff_right_of_imp fun mem => List.count_pos_iff.mp ((once n mem).symm ▸ Nat.one_pos)

namespace AttemptStats

/-- The numbers of the attempts that have an entry. -/
def numbers (stats : List AttemptStats) : List Int := stats.map (·.attemptNumber)

variable {stats : List AttemptStats}

/-- Where every attempt has one entry, it is the entry that is found. -/
theorem forAttempt_of_mem (distinct : (numbers stats).Nodup) {s : AttemptStats} (mem : s ∈ stats) :
    forAttempt stats s.attemptNumber = s := by
  rw [forAttempt, find?_key_eq_some distinct mem]
  rfl

theorem forAttempt_of_not_mem {n : Int} (absent : n ∉ numbers stats) :
    forAttempt stats n = .empty n := by
  rw [forAttempt, List.find?_eq_none.mpr fun s mem eq =>
    absent (List.mem_map.mpr ⟨s, mem, beq_iff_eq.mp eq⟩)]
  rfl

/-- It makes no difference in which order the entries are stored. -/
theorem forAttempt_congr {stats' : List AttemptStats} (perm : stats'.Perm stats)
    (distinct : (numbers stats).Nodup) : forAttempt stats' = forAttempt stats := by
  have distinct' : (numbers stats').Nodup := (perm.map _).nodup_iff.mpr distinct
  funext n
  by_cases recorded : n ∈ numbers stats
  · obtain ⟨s, mem, rfl⟩ := List.mem_map.mp recorded
    rw [forAttempt_of_mem distinct mem, forAttempt_of_mem distinct' (perm.mem_iff.mpr mem)]
  · have absent : n ∉ numbers stats' := mt (perm.map _).mem_iff.mp recorded
    rw [forAttempt_of_not_mem recorded, forAttempt_of_not_mem absent]

/-- If every entry belongs to one of the attempts, what is found for the attempts is every entry once,
and nothing moved for all other attempts. -/
theorem forAttempt_perm {ids : List Int} (distinct : (numbers stats).Nodup)
    (once : ∀ n ∈ numbers stats, ids.count n = 1) :
    (ids.map (forAttempt stats)).Perm
      (stats ++ (ids.filter fun n => !decide (n ∈ numbers stats)).map .empty) := by
  have found : (numbers stats).map (forAttempt stats) = stats := by
    rw [numbers, List.map_map]
    exact (List.map_congr_left fun s mem => forAttempt_of_mem distinct mem).trans (List.map_id _)
  have others : (ids.filter fun n => !decide (n ∈ numbers stats)).map (forAttempt stats) =
      (ids.filter fun n => !decide (n ∈ numbers stats)).map .empty := by
    refine List.map_congr_left fun n mem => forAttempt_of_not_mem ?_
    simpa using List.of_mem_filter mem
  have recorded := (filter_mem_perm distinct once).map (forAttempt stats)
  have parts := (List.filter_append_perm (· ∈ numbers stats) ids).map (forAttempt stats)
  rw [found] at recorded
  rw [List.map_append, others] at parts
  exact parts.symm.trans (recorded.append_right _)

/-- The totals of the attempts add up to the total of the job. -/
theorem sum_forAttempt {ids : List Int} (distinct : (numbers stats).Nodup)
    (once : ∀ n ∈ numbers stats, ids.count n = 1) :
    SyncStats.sum (ids.map fun n => (forAttempt stats n).totals) =
      SyncStats.sum (stats.map (·.totals)) := by
  have perm := (forAttempt_perm distinct once).map (·.totals)
  have nothing : ∀ ns : List Int, ((ns.map empty).map (·.totals)).sum = 0 := by
    intro ns
    refine List.sum_eq_zero fun x mem => ?_
    rw [List.map_map] at mem
    obtain ⟨n, -, rfl⟩ := List.mem_map.mp mem
    rfl
  rw [List.map_map, List.map_append] at perm
  rw [SyncStats.sum_eq, SyncStats.sum_eq]
  exact perm.sum_eq.trans (by rw [List.sum_append, nothing, add_zero])

/-- The merged streams of the attempts merge into those of the job. -/
theorem merge_forAttempt {ids : List Int} (distinct : (numbers stats).Nodup)
    (once : ∀ n ∈ numbers stats, ids.count n = 1) :
    StreamStats.merge (ids.map fun n => StreamStats.merge (forAttempt stats n).streams).flatten =
      StreamStats.merge (stats.flatMap (·.streams)) := by
  have perm := (forAttempt_perm distinct once).flatMap_right (·.streams)
  have nothing : ∀ ns : List Int, (ns.map empty).flatMap (·.streams) = [] := by
    intro ns
    refine List.flatMap_eq_nil_iff.mpr fun s mem => ?_
    obtain ⟨n, -, rfl⟩ := List.mem_map.mp mem
    rfl
  rw [List.flatMap_append, nothing, List.append_nil] at perm
  calc StreamStats.merge (ids.map fun n => StreamStats.merge (forAttempt stats n).streams).flatten
      = StreamStats.merge ((ids.map fun n => (forAttempt stats n).streams).map StreamStats.merge).flatten := by
        rw [List.map_map]
        rfl
    _ = StreamStats.merge ((ids.map (forAttempt stats)).flatMap (·.streams)) := by
        rw [StreamStats.merge_flatten_map_merge, List.flatMap_def, List.map_map]
        rfl
    _ = StreamStats.merge (stats.flatMap (·.streams)) := StreamStats.merge_perm perm

end AttemptStats

/-- The order in which statistics are stored does not show in a view. -/
theorem JobWithAttempts.hydrate_congr (v : JobWithAttempts) {stats stats' : List AttemptStats}
    (perm : stats'.Perm stats) (distinct : (AttemptStats.numbers stats).Nodup) :
    v.hydrate stats' = v.hydrate stats := by
  rw [hydrate, hydrate, AttemptStats.forAttempt_congr perm distinct, SyncStats.sum_eq, SyncStats.sum_eq,
    (perm.map _).sum_eq, StreamStats.merge_perm (perm.flatMap_right _)]

/-- **Hydration adds up.** It changes nothing but statistics. A job has the sum of all totals that are
stored for it, and per stream the sum of all statistics of the stream. If what is stored belongs to
different attempts, each of which the view has once, the statistics of a job are the sums of those of its
attempts, and the order in which they are stored makes no difference. -/
theorem hydrate_additive (v : JobWithAttempts) (stats : List AttemptStats) :
    (v.hydrate stats).withoutStats = v.withoutStats ∧
    (∃ total, (v.hydrate stats).job.aggregatedStats = some total ∧
      SyncStats.Totals (stats.map (·.totals)) total) ∧
    (∃ streams, (v.hydrate stats).job.streamAggregatedStats = some streams ∧
      ∀ k, (k ∈ StreamStats.keys streams ↔ k ∈ StreamStats.keys (stats.flatMap (·.streams))) ∧
        (k ∈ StreamStats.keys (stats.flatMap (·.streams)) → ∃ total,
          streams.filter (·.key = k) = [⟨k, total⟩] ∧
          SyncStats.Totals (((stats.flatMap (·.streams)).filter (·.key = k)).map (·.stats)) total)) ∧
    ((AttemptStats.numbers stats).Nodup →
      (∀ n ∈ AttemptStats.numbers stats, (v.attempts.map (·.id)).count n = 1) →
      (∃ totals : List SyncStats, (v.hydrate stats).attempts.map (·.totalStats) = totals.map some ∧
        (v.hydrate stats).job.aggregatedStats = some (SyncStats.sum totals)) ∧
      (∃ streams : List (List StreamStats), (v.hydrate stats).attempts.map (·.streamStats) = streams.map some ∧
        (v.hydrate stats).job.streamAggregatedStats = some (StreamStats.merge streams.flatten)) ∧
      ∀ stats', stats'.Perm stats → v.hydrate stats' = v.hydrate stats) := by
  refine ⟨v.hydrate_withoutStats stats, ?_, ?_, fun distinct once => ⟨?_, ?_, ?_⟩⟩
  · exact ⟨_, congrArg some (SyncStats.sum_eq _), SyncStats.sum_totals _⟩
  · refine ⟨_, rfl, fun k => ⟨StreamStats.mem_keys_merge, fun mem => ?_⟩⟩
    have entry := (StreamStats.merge_inOrder _).filter_key (StreamStats.mem_keys_merge.mpr mem)
    rw [StreamStats.total_merge] at entry
    exact ⟨_, entry, SyncStats.sum_totals _⟩
  · refine ⟨(v.attempts.map (·.id)).map fun n => (AttemptStats.forAttempt stats n).totals, ?_,
      congrArg some (AttemptStats.sum_forAttempt distinct once).symm⟩
    rw [JobWithAttempts.hydrate, List.map_map, List.map_map, List.map_map]
    rfl
  · refine ⟨(v.attempts.map (·.id)).map fun n =>
      StreamStats.merge (AttemptStats.forAttempt stats n).streams, ?_,
      congrArg some (AttemptStats.merge_forAttempt distinct once).symm⟩
    rw [JobWithAttempts.hydrate, List.map_map, List.map_map, List.map_map]
    rfl
  · exact fun stats' perm => v.hydrate_congr perm distinct

/-- Three attempts, of which the first two have statistics, stored the other way round. -/
theorem hydrate_additive_three :
    let attempt (id : Int) : AttemptView :=
      ⟨id, .failed, ⟨id, 0⟩, ⟨id, 0⟩, none, none, none, none, none, none⟩
    let v : JobWithAttempts := ⟨⟨7, .sync, "c", .failed, ⟨0, 0⟩, ⟨0, 0⟩, none, none, none⟩,
      [attempt 0, attempt 1, attempt 2]⟩
    let users (n : Int) : StreamStats := ⟨⟨"users", none⟩, ⟨n, n, n, n⟩⟩
    let stats : List AttemptStats := [⟨1, ⟨5, 5, 5, 5⟩, [users 2, users 3]⟩, ⟨0, ⟨4, 4, 4, 4⟩, [users 4]⟩]
    (AttemptStats.numbers stats).Nodup ∧
    (∀ n ∈ AttemptStats.numbers stats, (v.attempts.map (·.id)).count n = 1) ∧
    (v.hydrate stats).attempts.map (·.totalStats) =
      [some ⟨4, 4, 4, 4⟩, some ⟨5, 5, 5, 5⟩, some 0] ∧
    (v.hydrate stats).job.aggregatedStats = some ⟨9, 9, 9, 9⟩ ∧
    (v.hydrate stats).job.streamAggregatedStats = some [users 9] ∧
    v.hydrate stats.reverse = v.hydrate stats := by
  intro attempt v users stats
  have distinct : (AttemptStats.numbers stats).Nodup := by decide
  have once : ∀ n ∈ AttemptStats.numbers stats, (v.attempts.map (·.id)).count n = 1 := by decide
  obtain ⟨⟨totals, own, sum⟩, -, reversed⟩ := (hydrate_additive v stats).2.2.2 distinct once
  have found : totals = [⟨4, 4, 4, 4⟩, ⟨5, 5, 5, 5⟩, 0] :=
    List.map_injective_iff.mpr (Option.some_injective _) (own.symm.trans (by decide))
  rw [found] at own sum
  refine ⟨distinct, once, own, sum.trans (by decide), by decide, ?_⟩
  exact reversed stats.reverse stats.reverse_perm

end SyncHistory
