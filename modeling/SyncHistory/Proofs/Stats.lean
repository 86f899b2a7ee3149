import Mathlib.Algebra.BigOperators.Group.List.Basic
import Mathlib.Algebra.Ring.Int.Defs
import SyncHistory.Stats

/-!
# Sums of statistics

Statistics add up like numbers do, counter by counter, so a sum is the same in any order
(`AddCommMonoid SyncStats`). `SyncStats.Totals` says what a sum is without adding statistics: each of its
counters is the sum of that counter.
-/

namespace SyncHistory

attribute [ext] SyncStats

namespace SyncStats

instance : AddCommMonoid SyncStats where
  add_assoc a b c := by
    refine SyncStats.ext ?_ ?_ ?_ ?_ <;> exact Int.add_assoc _ _ _
  zero_add a := by
    refine SyncStats.ext ?_ ?_ ?_ ?_ <;> exact Int.zero_add _
  add_zero a := by
    refine SyncStats.ext ?_ ?_ ?_ ?_ <;> exact Int.add_zero _
  add_comm a b := by
    refine SyncStats.ext ?_ ?_ ?_ ?_ <;> exact Int.add_comm _ _
  nsmul := nsmulRec

theorem sum_eq (xs : List SyncStats) : SyncStats.sum xs = xs.sum :=
  List.sum_eq_foldl.symm

/-- Each counter of the total is the sum of that counter. -/
structure Totals (xs : List SyncStats) (total : SyncStats) : Prop where
  recordsEmitted : total.recordsEmitted = (xs.map (·.recordsEmitted)).sum
  bytesEmitted : total.bytesEmitted = (xs.map (·.bytesEmitted)).sum
  recordsCommitted : total.recordsCommitted = (xs.map (·.recordsCommitted)).sum
  bytesCommitted : total.bytesCommitted = (xs.map (·.bytesCommitted)).sum

theorem sum_totals (xs : List SyncStats) : Totals xs xs.sum := by
  induction xs with
  | nil => exact ⟨rfl, rfl, rfl, rfl⟩
  | cons x xs ih =>
    exact ⟨congrArg (x.recordsEmitted + ·) ih.recordsEmitted,
      congrArg (x.bytesEmitted + ·) ih.bytesEmitted,
      congrArg (x.recordsCommitted + ·) ih.recordsCommitted,
      congrArg (x.bytesCommitted + ·) ih.bytesCommitted⟩

theorem Totals.eq_sum {xs : List SyncStats} {total : SyncStats} (h : Totals xs total) : total = xs.sum := by
  have sum := sum_totals xs
  exact SyncStats.ext (h.recordsEmitted.trans sum.recordsEmitted.symm)
    (h.bytesEmitted.trans sum.bytesEmitted.symm) (h.recordsCommitted.trans sum.recordsCommitted.symm)
    (h.bytesCommitted.trans sum.bytesCommitted.symm)

end SyncStats

end SyncHistory
