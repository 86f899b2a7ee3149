import SyncHistory.Postgres.Jobs
import SyncHistory.Proofs.Conversation
import SyncHistory.Proofs.Hydration
import SyncHistory.Proofs.JobRow

/-!
# Rows of statistics

The statistics of attempts come in rows of two kinds, in no particular order and with any number in either
kind. Putting them together makes one change after the other to a list that is ordered by number
(`Postgres.changeAt`). What the list has for one number depends on the changes with that number alone
(`Postgres.forAttempt_changeAll`), so nothing is lost by grouping, and the rows of one attempt give what all
rows give for it (`attempt_rows_grouped`).
-/

namespace SyncHistory

/-! ## Rows -/

namespace Sql

/-- Counters of a row, each of which may be null. -/
structure StoredCounters where
  recordsEmitted : Option Int
  bytesEmitted : Option Int
  recordsCommitted : Option Int
  bytesCommitted : Option Int
deriving DecidableEq

namespace StoredCounters

def cells (c : StoredCounters) : List (String × SqlValue) :=
  [("records_emitted", (c.recordsEmitted.map SqlValue.int).getD .null),
    ("bytes_emitted", (c.bytesEmitted.map SqlValue.int).getD .null),
    ("records_committed", (c.recordsCommitted.map SqlValue.int).getD .null),
    ("bytes_committed", (c.bytesCommitted.map SqlValue.int).getD .null)]

/-- The counters, where null counts as zero. -/
def stats (c : StoredCounters) : SyncStats :=
  ⟨c.recordsEmitted.getD 0, c.bytesEmitted.getD 0, c.recordsCommitted.getD 0, c.bytesCommitted.getD 0⟩

end StoredCounters

/-- The totals of an attempt, as they are stored. -/
structure TotalsRow where
  number : Int
  counters : StoredCounters
deriving DecidableEq

/-- The row of an answer that has all columns of the totals. -/
def TotalsRow.selected (r : TotalsRow) : Row where
  cells := ("attempt_number", .int r.number) :: r.counters.cells

/-- The statistics of a stream in an attempt, as they are stored. -/
structure StreamRow where
  number : Int
  name : String
  nameSpace : Option String
  counters : StoredCounters
deriving DecidableEq

namespace StreamRow

/-- The row of an answer that has all columns of a stream. -/
def selected (r : StreamRow) : Row where
  cells := ("attempt_number", .int r.number) :: ("stream_name", .text r.name) ::
    ("stream_namespace", (r.nameSpace.map SqlValue.text).getD .null) :: r.counters.cells

/-- The statistics in the row. -/
def stats (r : StreamRow) : StreamStats :=
  ⟨⟨r.name, r.nameSpace⟩, r.counters.stats⟩

end StreamRow

end Sql

open Sql

namespace Postgres

theorem counter_eq {c : Columns} {row : Row} {name : String} {value : Option Int}
    (stored : row.get name = (value.map SqlValue.int).getD .null) :
    counter c row name = .ok (value.getD 0) := by
  have decoded : SqlValue.nullable? SqlValue.int? (row.get name) = some value := by
    rw [stored]
    cases value <;> rfl
  rw [counter, read_eq decoded]
  rfl

theorem counters_eq {c : Columns} {row : Row} {stored : StoredCounters}
    (recordsEmitted : row.get "records_emitted" = (stored.recordsEmitted.map SqlValue.int).getD .null)
    (bytesEmitted : row.get "bytes_emitted" = (stored.bytesEmitted.map SqlValue.int).getD .null)
    (recordsCommitted : row.get "records_committed" = (stored.recordsCommitted.map SqlValue.int).getD .null)
    (bytesCommitted : row.get "bytes_committed" = (stored.bytesCommitted.map SqlValue.int).getD .null) :
    counters c row = .ok stored.stats := by
  rw [counters, counter_eq recordsEmitted, counter_eq bytesEmitted, counter_eq recordsCommitted,
    counter_eq bytesCommitted]
  rfl

theorem totals_selected (r : TotalsRow) : totals r.selected = .ok (r.number, r.counters.stats) := by
  refine bind_eq_ok.mpr ⟨_, read_eq rfl, ?_⟩
  exact bind_eq_ok.mpr ⟨_, counters_eq rfl rfl rfl rfl, rfl⟩

theorem stream_selected (r : StreamRow) : stream r.selected = .ok (r.number, r.stats) := by
  have nameSpace : SqlValue.nullable? SqlValue.text? (r.selected.get "stream_namespace") =
      some r.nameSpace := by
    show SqlValue.nullable? SqlValue.text? ((r.nameSpace.map SqlValue.text).getD .null) = _
    cases r.nameSpace <;> rfl
  refine bind_eq_ok.mpr ⟨_, read_eq rfl, ?_⟩
  refine bind_eq_ok.mpr ⟨_, read_eq rfl, ?_⟩
  refine bind_eq_ok.mpr ⟨_, read_eq nameSpace, ?_⟩
  exact bind_eq_ok.mpr ⟨_, counters_eq rfl rfl rfl rfl, rfl⟩

theorem mapM_totals (rows : List TotalsRow) : (rows.map TotalsRow.selected).mapM totals =
    .ok (rows.map fun r => (r.number, r.counters.stats)) := by
  rw [mapM_eq_ok, List.forall₂_map_left_iff, List.forall₂_map_right_iff, List.forall₂_same]
  exact fun r _ => totals_selected r

theorem mapM_stream (rows : List StreamRow) : (rows.map StreamRow.selected).mapM stream =
    .ok (rows.map fun r => (r.number, r.stats)) := by
  rw [mapM_eq_ok, List.forall₂_map_left_iff, List.forall₂_map_right_iff, List.forall₂_same]
  exact fun r _ => stream_selected r

end Postgres

/-! ## One change -/

namespace AttemptStats

/-- Every attempt has one entry at most, in the order of their numbers. -/
def Ascending (all : List AttemptStats) : Prop :=
  all.Pairwise fun s t => s.attemptNumber < t.attemptNumber

theorem Ascending.nodup {all : List AttemptStats} (ascending : Ascending all) : (numbers all).Nodup :=
  List.pairwise_map.mpr (ascending.imp fun less same => absurd same (Int.ne_of_lt less))

theorem forAttempt_cons (s : AttemptStats) (rest : List AttemptStats) (n : Int) :
    forAttempt (s :: rest) n = if s.attemptNumber = n then s else forAttempt rest n := by
  rw [forAttempt, List.find?_cons]
  by_cases same : s.attemptNumber = n
  · rw [if_pos same, beq_iff_eq.mpr same]
    rfl
  · rw [if_neg same, beq_eq_false_iff_ne.mpr same]
    rfl

@[simp] theorem empty_attemptNumber (n : Int) : (empty n).attemptNumber = n := rfl

/-- Where all entries are for one attempt, the first one is found for it. -/
theorem head?_eq_forAttempt {all : List AttemptStats} {n : Int} (only : ∀ m ∈ numbers all, m = n) :
    all.head?.getD (.empty n) = forAttempt all n := by
  cases all with
  | nil => rfl
  | cons s rest =>
    rw [forAttempt_cons, if_pos (only _ List.mem_cons_self)]
    rfl

end AttemptStats

namespace Postgres

open AttemptStats

/-- A change that leaves the number of an attempt as it is. -/
def KeepsNumber (change : AttemptStats → AttemptStats) : Prop :=
  ∀ s, (change s).attemptNumber = s.attemptNumber

variable {change : AttemptStats → AttemptStats} {all : List AttemptStats}

theorem mem_numbers_changeAt (keeps : KeepsNumber change) {m n : Int} :
    m ∈ numbers (changeAt n change all) ↔ m = n ∨ m ∈ numbers all := by
  induction all with
  | nil => rw [changeAt, numbers, List.map_cons, keeps, List.mem_cons]; exact Iff.rfl
  | cons s rest ih =>
    have numbers_cons (t : AttemptStats) (ts : List AttemptStats) :
        m ∈ numbers (t :: ts) ↔ m = t.attemptNumber ∨ m ∈ numbers ts := List.mem_cons
    by_cases less : n < s.attemptNumber
    · rw [changeAt, if_pos less, numbers_cons, keeps]
      exact Iff.rfl
    · rw [changeAt, if_neg less]
      by_cases same : n = s.attemptNumber
      · rw [if_pos same, numbers_cons, numbers_cons, keeps, same, ← or_assoc, or_self]
      · rw [if_neg same, numbers_cons, numbers_cons, ih, or_left_comm]

theorem ascending_changeAt (keeps : KeepsNumber change) (ascending : Ascending all) (n : Int) :
    Ascending (changeAt n change all) := by
  induction all with
  | nil => exact List.pairwise_singleton _ _
  | cons s rest ih =>
    obtain ⟨first, rest⟩ := List.pairwise_cons.mp ascending
    by_cases less : n < s.attemptNumber
    · rw [changeAt, if_pos less]
      refine List.pairwise_cons.mpr ⟨fun t mem => ?_, ascending⟩
      rw [keeps]
      rcases List.mem_cons.mp mem with rfl | mem
      · exact less
      · exact Int.lt_trans less (first t mem)
    · rw [changeAt, if_neg less]
      by_cases same : n = s.attemptNumber
      · rw [if_pos same]
        refine List.pairwise_cons.mpr ⟨fun t mem => ?_, rest⟩
        rw [keeps]
        exact first t mem
      · rw [if_neg same]
        refine List.pairwise_cons.mpr ⟨fun t mem => ?_, ih rest⟩
        have number : t.attemptNumber ∈ numbers (changeAt n change _) := List.mem_map_of_mem mem
        rcases (mem_numbers_changeAt keeps).mp number with new | old
        · omega
        · obtain ⟨u, mem, same⟩ := List.mem_map.mp old
          rw [← same]
          exact first u mem

/-- A change bears on what is found for its own attempt and for no other. -/
theorem forAttempt_changeAt (keeps : KeepsNumber change) (ascending : Ascending all) (m n : Int) :
    forAttempt (changeAt n change all) m =
      if m = n then change (forAttempt all n) else forAttempt all m := by
  induction all with
  | nil =>
    rw [changeAt, forAttempt_cons, keeps, empty_attemptNumber]
    by_cases own : m = n
    · rw [if_pos own, if_pos own.symm]
      rfl
    · rw [if_neg own, if_neg (Ne.symm own)]
  | cons s rest ih =>
    obtain ⟨first, later⟩ := List.pairwise_cons.mp ascending
    by_cases less : n < s.attemptNumber
    · have absent : n ∉ numbers (s :: rest) := by
        intro mem
        obtain ⟨t, mem, same⟩ := List.mem_map.mp mem
        rcases List.mem_cons.mp mem with rfl | mem
        · omega
        · have later := first t mem
          omega
      rw [changeAt, if_pos less, forAttempt_cons, keeps, empty_attemptNumber,
        forAttempt_of_not_mem absent]
      by_cases own : m = n
      · rw [if_pos own, if_pos own.symm]
      · rw [if_neg own, if_neg (Ne.symm own)]
    · rw [changeAt, if_neg less]
      by_cases same : n = s.attemptNumber
      · rw [if_pos same, forAttempt_cons, keeps, forAttempt_cons s rest m, forAttempt_cons s rest n,
          if_pos same.symm]
        by_cases own : m = n
        · rw [if_pos own, if_pos (own.trans same).symm]
        · rw [if_neg own, if_neg (fun here => own (here.symm.trans same.symm)),
            if_neg (fun here => own (here.symm.trans same.symm))]
      · rw [if_neg same, forAttempt_cons, forAttempt_cons s rest m, forAttempt_cons s rest n, ih later,
          if_neg (Ne.symm same)]
        by_cases own : m = n
        · rw [if_pos own, if_pos own, if_neg (own ▸ Ne.symm same)]
        · rw [if_neg own, if_neg own]

/-! ## Changes in a row -/

/-- Changes to the statistics of attempts, made one after the other. -/
def changeAll (changes : List (Int × (AttemptStats → AttemptStats))) (all : List AttemptStats) :
    List AttemptStats :=
  changes.foldl (fun all c => changeAt c.1 c.2 all) all

variable {changes : List (Int × (AttemptStats → AttemptStats))}

theorem ascending_changeAll (keep : ∀ c ∈ changes, KeepsNumber c.2) (ascending : Ascending all) :
    Ascending (changeAll changes all) := by
  induction changes generalizing all with
  | nil => exact ascending
  | cons c changes ih =>
    obtain ⟨keeps, keep⟩ := List.forall_mem_cons.mp keep
    exact ih keep (ascending_changeAt keeps ascending c.1)

theorem mem_numbers_changeAll (keep : ∀ c ∈ changes, KeepsNumber c.2) {n : Int} :
    n ∈ numbers (changeAll changes all) ↔ n ∈ changes.map (·.1) ∨ n ∈ numbers all := by
  induction changes generalizing all with
  | nil => exact (or_iff_right (List.not_mem_nil)).symm
  | cons c changes ih =>
    obtain ⟨keeps, keep⟩ := List.forall_mem_cons.mp keep
    rw [List.map_cons, List.mem_cons, or_assoc, or_left_comm, ← mem_numbers_changeAt keeps]
    exact ih keep

/-- What is found for an attempt after all changes is what its own changes make of it. -/
theorem forAttempt_changeAll (keep : ∀ c ∈ changes, KeepsNumber c.2) (ascending : Ascending all) (n : Int) :
    forAttempt (changeAll changes all) n =
      (changes.filter (·.1 = n)).foldl (fun s c => c.2 s) (forAttempt all n) := by
  induction changes generalizing all with
  | nil => rfl
  | cons c changes ih =>
    obtain ⟨keeps, keep⟩ := List.forall_mem_cons.mp keep
    have rest := ih keep (ascending_changeAt keeps ascending c.1)
    rw [forAttempt_changeAt keeps ascending] at rest
    refine Eq.trans rest ?_
    by_cases own : c.1 = n
    · rw [List.filter_cons, if_pos (decide_eq_true own), List.foldl_cons, if_pos own.symm, own]
    · rw [List.filter_cons, if_neg (mt of_decide_eq_true own), if_neg (Ne.symm own)]

/-! ## Rows put together -/

/-- What the totals of an attempt change. -/
def totalsChange (t : Int × SyncStats) : Int × (AttemptStats → AttemptStats) :=
  (t.1, fun s => { s with totals := t.2 })

/-- What the statistics of a stream in an attempt change. -/
def streamChange (t : Int × StreamStats) : Int × (AttemptStats → AttemptStats) :=
  (t.1, fun s => { s with streams := s.streams ++ [t.2] })

theorem foldl_totalsChange (ts : List (Int × SyncStats)) (s : AttemptStats) :
    (ts.map totalsChange).foldl (fun s c => c.2 s) s =
      { s with totals := (ts.getLast?.map (·.2)).getD s.totals } := by
  induction ts generalizing s with
  | nil => rfl
  | cons t ts ih =>
    rw [List.map_cons, List.foldl_cons, ih, List.getLast?_cons]
    cases ts.getLast? <;> rfl

theorem foldl_streamChange (ts : List (Int × StreamStats)) (s : AttemptStats) :
    (ts.map streamChange).foldl (fun s c => c.2 s) s = { s with streams := s.streams ++ ts.map (·.2) } := by
  induction ts generalizing s with
  | nil => rw [List.map_nil, List.map_nil, List.append_nil]; rfl
  | cons t ts ih =>
    rw [List.map_cons, List.foldl_cons, ih, List.map_cons]
    simp only [streamChange, List.append_assoc, List.singleton_append]

section Gather

variable (ts : List (Int × SyncStats)) (ss : List (Int × StreamStats))

theorem gather_eq : gather ts ss = changeAll (ts.map totalsChange ++ ss.map streamChange) [] := by
  rw [changeAll, List.foldl_append, List.foldl_map, List.foldl_map]
  rfl

theorem changes_keep : ∀ c ∈ ts.map totalsChange ++ ss.map streamChange, KeepsNumber c.2 := by
  intro c mem
  rcases List.mem_append.mp mem with mem | mem
  · obtain ⟨t, -, rfl⟩ := List.mem_map.mp mem
    exact fun _ => rfl
  · obtain ⟨t, -, rfl⟩ := List.mem_map.mp mem
    exact fun _ => rfl

theorem ascending_gather : Ascending (gather ts ss) := by
  rw [gather_eq]
  exact ascending_changeAll (changes_keep ts ss) List.Pairwise.nil

theorem mem_numbers_gather {n : Int} :
    n ∈ numbers (gather ts ss) ↔ n ∈ ts.map (·.1) ∨ n ∈ ss.map (·.1) := by
  rw [gather_eq, mem_numbers_changeAll (changes_keep ts ss), List.map_append, List.map_map, List.map_map,
    List.mem_append]
  exact or_iff_left List.not_mem_nil

/-- An attempt has the totals that came last for it, and all of its streams in the order they came. -/
theorem forAttempt_gather (n : Int) : forAttempt (gather ts ss) n =
    ⟨n, (((ts.filter (·.1 = n)).getLast?).map (·.2)).getD 0, (ss.filter (·.1 = n)).map (·.2)⟩ := by
  have ofTotals : (ts.map totalsChange).filter (·.1 = n) = (ts.filter (·.1 = n)).map totalsChange :=
    List.filter_map
  have ofStreams : (ss.map streamChange).filter (·.1 = n) = (ss.filter (·.1 = n)).map streamChange :=
    List.filter_map
  rw [gather_eq, forAttempt_changeAll (changes_keep ts ss) List.Pairwise.nil, List.filter_append, ofTotals,
    ofStreams, List.foldl_append, foldl_totalsChange, foldl_streamChange]
  rfl

/-- Grouping the rows of one attempt comes to what grouping all rows comes to for it. -/
theorem head?_gather_filter (n : Int) :
    (gather (ts.filter (·.1 = n)) (ss.filter (·.1 = n))).head?.getD (.empty n) =
      forAttempt (gather ts ss) n := by
  have only : ∀ m ∈ numbers (gather (ts.filter (·.1 = n)) (ss.filter (·.1 = n))), m = n := by
    intro m mem
    rcases (mem_numbers_gather _ _).mp mem with mem | mem
    · obtain ⟨t, own, rfl⟩ := List.mem_map.mp mem
      exact of_decide_eq_true (List.mem_filter.mp own).2
    · obtain ⟨t, own, rfl⟩ := List.mem_map.mp mem
      exact of_decide_eq_true (List.mem_filter.mp own).2
  rw [head?_eq_forAttempt only, forAttempt_gather, forAttempt_gather, List.filter_filter, List.filter_filter]
  simp only [Bool.and_self]

end Gather

/-- The statistics that rows come to. -/
def grouped (totalsRows : List TotalsRow) (streamRows : List StreamRow) : List AttemptStats :=
  gather (totalsRows.map fun r => (r.number, r.counters.stats)) (streamRows.map fun r => (r.number, r.stats))

variable (id : JobId) (number : Option Int) (totalsRows : List TotalsRow) (streamRows : List StreamRow)

/-- The two questions about statistics, with rows for answers. -/
def exchanges : List (Exchange database) :=
  [⟨totalsStatement id number, Except.ok (totalsRows.map TotalsRow.selected)⟩,
    ⟨streamsStatement id number, Except.ok (streamRows.map StreamRow.selected)⟩]

theorem stats_converses : (ExceptT.run (stats id number)).Converses
    (exchanges id number totalsRows streamRows) (.ok (grouped totalsRows streamRows)) := by
  refine .ask (.ask ?_)
  show (ExceptT.run (do
    let totals ← ofExcept ((totalsRows.map TotalsRow.selected).mapM totals)
    let streams ← ofExcept ((streamRows.map StreamRow.selected).mapM stream)
    return gather totals streams)).Converses [] (.ok (grouped totalsRows streamRows))
  rw [mapM_totals, mapM_stream]
  exact .done _

theorem attemptStats_converses (n : Int) : (ExceptT.run (attemptStats id n)).Converses
    (exchanges id (some n) totalsRows streamRows)
    (.ok ((grouped totalsRows streamRows).head?.getD (.empty n))) :=
  Prog.converses_bind.mpr ⟨_, [], _, (List.append_nil _).symm,
    stats_converses id (some n) totalsRows streamRows, .done _⟩

/-! ### Entries of grouped rows -/

theorem ascending_grouped : Ascending (grouped totalsRows streamRows) :=
  ascending_gather _ _

theorem mem_numbers_grouped {n : Int} : n ∈ numbers (grouped totalsRows streamRows) ↔
    (∃ r ∈ totalsRows, r.number = n) ∨ ∃ r ∈ streamRows, r.number = n := by
  rw [grouped, mem_numbers_gather, List.map_map, List.map_map, List.mem_map, List.mem_map]
  exact Iff.rfl

theorem forAttempt_grouped (n : Int) : forAttempt (grouped totalsRows streamRows) n =
    ⟨n, (((totalsRows.filter (·.number = n)).getLast?).map (·.counters.stats)).getD 0,
      (streamRows.filter (·.number = n)).map (·.stats)⟩ := by
  rw [grouped, forAttempt_gather, List.filter_map, List.filter_map, List.getLast?_map, Option.map_map,
    List.map_map]
  rfl

theorem head?_grouped_filter (n : Int) :
    (grouped (totalsRows.filter (·.number = n)) (streamRows.filter (·.number = n))).head?.getD (.empty n) =
      forAttempt (grouped totalsRows streamRows) n := by
  have grouping := head?_gather_filter (totalsRows.map fun r => (r.number, r.counters.stats))
    (streamRows.map fun r => (r.number, r.stats)) n
  rw [List.filter_map, List.filter_map] at grouping
  exact grouping

end Postgres

open Postgres AttemptStats

/-- Where the database answers both questions about the statistics of a job with rows, whatever their order
and their numbers, the store's answer has one entry for each number that is in a row and for no other, in
strictly increasing order. An entry has the totals of the last row with its number, zeros if there is none,
and the streams of all rows with its number, in the order of the rows. Where the database answers the
questions about one attempt with exactly the rows that have its number, the store's answer is the entry for
the attempt, or one of zeros if there is none. -/
theorem attempt_rows_grouped (id : JobId) (totalsRows : List TotalsRow) (streamRows : List StreamRow) :
    ∃ entries : List AttemptStats,
      (∀ outcome, (ExceptT.run (answer (.jobStats id))).Converses
        (exchanges id none totalsRows streamRows) outcome ↔ outcome = .ok entries) ∧
      (entries.Pairwise fun s t => s.attemptNumber < t.attemptNumber) ∧
      (∀ n, (∃ s ∈ entries, s.attemptNumber = n) ↔
        (∃ r ∈ totalsRows, r.number = n) ∨ ∃ r ∈ streamRows, r.number = n) ∧
      (∀ s ∈ entries,
        s.totals = (((totalsRows.filter (·.number = s.attemptNumber)).getLast?).map
          (·.counters.stats)).getD 0 ∧
        s.streams = (streamRows.filter (·.number = s.attemptNumber)).map (·.stats)) ∧
      ∀ n, ∃ entry,
        (∀ outcome, (ExceptT.run (answer (.attemptStats id n))).Converses
          (exchanges id (some n) (totalsRows.filter (·.number = n)) (streamRows.filter (·.number = n)))
          outcome ↔ outcome = .ok entry) ∧
        (∀ s ∈ entries, s.attemptNumber = n → entry = s) ∧
        ((∀ s ∈ entries, s.attemptNumber ≠ n) → entry = ⟨n, ⟨0, 0, 0, 0⟩, []⟩) := by
  have ascending := ascending_grouped totalsRows streamRows
  refine ⟨grouped totalsRows streamRows, fun outcome => ⟨fun comes => ?_, ?_⟩, ascending, fun n => ?_,
    fun s mem => ?_, fun n => ⟨forAttempt (grouped totalsRows streamRows) n,
      fun outcome => ⟨fun comes => ?_, ?_⟩, ?_, fun absent => ?_⟩⟩
  · exact comes.unique (stats_converses id none totalsRows streamRows)
  · rintro rfl
    exact stats_converses id none totalsRows streamRows
  · rw [← mem_numbers_grouped]
    exact List.mem_map.symm
  · have own := forAttempt_of_mem ascending.nodup mem
    rw [forAttempt_grouped] at own
    exact ⟨congrArg AttemptStats.totals own.symm, congrArg AttemptStats.streams own.symm⟩
  · rw [← head?_grouped_filter]
    exact comes.unique (attemptStats_converses id _ _ n)
  · rintro rfl
    rw [← head?_grouped_filter]
    exact attemptStats_converses id _ _ n
  · rintro s mem rfl
    exact forAttempt_of_mem ascending.nodup mem
  · refine forAttempt_of_not_mem fun mem => ?_
    obtain ⟨s, mem, same⟩ := List.mem_map.mp mem
    exact absent s mem same

/-- Totals of two attempts, of one of them twice, and two streams, one of them of a third attempt. -/
theorem attempt_rows_grouped_three :
    let counters (n : Int) : StoredCounters := ⟨some n, some n, none, some n⟩
    let totalsRows : List TotalsRow := [⟨2, counters 5⟩, ⟨0, counters 1⟩, ⟨2, counters 7⟩]
    let streamRows : List StreamRow := [⟨1, "users", none, counters 3⟩, ⟨2, "users", some "b", counters 4⟩]
    ∃ entries, (ExceptT.run (answer (.jobStats 9))).Converses
        (exchanges 9 none totalsRows streamRows) (.ok entries) ∧
      entries.map (·.attemptNumber) = [0, 1, 2] ∧
      (∀ s ∈ entries, s.attemptNumber = 2 → s.totals = ⟨7, 7, 0, 7⟩) ∧
      (ExceptT.run (answer (.attemptStats 9 2))).Converses
        (exchanges 9 (some 2) [⟨2, counters 5⟩, ⟨2, counters 7⟩]
          [⟨2, "users", some "b", counters 4⟩])
        (.ok ⟨2, ⟨7, 7, 0, 7⟩, [⟨⟨"users", some "b"⟩, ⟨4, 4, 0, 4⟩⟩]⟩) := by
  intro counters totalsRows streamRows
  obtain ⟨entries, comes, -, -, contents, single⟩ := attempt_rows_grouped 9 totalsRows streamRows
  have computed : entries = grouped totalsRows streamRows := by
    have same := (comes _).mp (stats_converses 9 none totalsRows streamRows)
    cases same
    rfl
  obtain ⟨entry, alone, found, -⟩ := single 2
  refine ⟨entries, (comes _).mpr rfl, by rw [computed]; decide, ?_, (alone _).mpr ?_⟩
  · intro s mem two
    rw [(contents s mem).1, two]
    decide
  · rw [found ⟨2, ⟨7, 7, 0, 7⟩, [⟨⟨"users", some "b"⟩, ⟨4, 4, 0, 4⟩⟩]⟩ (by rw [computed]; decide) rfl]

end SyncHistory
