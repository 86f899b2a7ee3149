import Mathlib.Data.List.Sort
import SyncHistory.Order

/-!
# Listings in order

`JobOrder.compare` is a total order up to ties: by time, then by number, both turned around when the
listing descends. `JobOrder.Precedes` is the same order as a relation, and `JobOrder.Lists` says what it
is to list jobs in an order: the same jobs, each before all that it does not come after, and jobs that
are tied in the places that they had.

The main results are `JobOrder.sort_lists`, sorting lists the jobs, and `JobOrder.Lists.unique`, there is
no other listing. Two jobs with different numbers are never tied, so jobs with pairwise different numbers
have one listing whatever places they had (`JobOrder.eq_sort_of_perm`).

The first job of a listing can be had without the listing: `JobOrder.IsFirst` says which one it is, one
more job keeps this up (`JobOrder.IsFirst.earlier`), and so one pass over the jobs finds the head of their
listing (`JobOrder.Lists.head?_eq`).
-/

namespace SyncHistory

/-! ## Instants -/

namespace Instant

instance : Std.TransOrd Instant :=
  inferInstanceAs (Std.TransCmp (compareLex (compareOn Instant.seconds) (compareOn Instant.nanos)))

instance : Std.LawfulEqOrd Instant where
  eq_of_compare {a b} h := by
    have h : compareLex (compareOn Instant.seconds) (compareOn Instant.nanos) a b = .eq := h
    obtain ⟨seconds, nanos⟩ := compareLex_eq_eq.mp h
    obtain ⟨as, an⟩ := a
    obtain ⟨bs, bn⟩ := b
    rw [show as = bs from Std.LawfulEqOrd.eq_of_compare seconds,
      show an = bn from Std.LawfulEqOrd.eq_of_compare nanos]

theorem isLE_compare (a b : Instant) : (Ord.compare a b).isLE ↔ a ≤ b := by
  show ((Ord.compare a.seconds b.seconds).then (Ord.compare a.nanos b.nanos)).isLE ↔
    (a.seconds < b.seconds ∨ a.seconds = b.seconds ∧ a.nanos ≤ b.nanos)
  rw [Ordering.isLE_then_iff_or, Int.compare_eq_lt, Int.compare_eq_eq, Nat.isLE_compare]

/-- The comparison of instants decides which is not later. -/
instance : Std.LawfulOrderOrd Instant where
  isLE_compare := isLE_compare
  isGE_compare a b := Std.OrientedCmp.isGE_iff_isLE.trans (isLE_compare b a)

end Instant

namespace JobOrder

/-! ## The order of two jobs -/

/-- By time, jobs of the same time by number. -/
def NotLater (o : JobOrder) (a b : Job) : Prop :=
  o.time a ≤ o.time b ∧ (o.time a = o.time b → a.id ≤ b.id)

/-- The first job stands before the second, or they are tied. -/
def Precedes (o : JobOrder) (a b : Job) : Prop :=
  match o.direction with
  | .ascending => o.NotLater a b
  | .descending => o.NotLater b a

/-- Jobs that no order tells apart by its time and their number. -/
def Ties (o : JobOrder) (a b : Job) : Prop :=
  o.time a = o.time b ∧ a.id = b.id

instance (o : JobOrder) (a b : Job) : Decidable (o.Ties a b) :=
  inferInstanceAs (Decidable (_ ∧ _))

instance (o : JobOrder) (a b : Job) : Decidable (o.NotLater a b) :=
  inferInstanceAs (Decidable (_ ∧ _))

instance (o : JobOrder) (a b : Job) : Decidable (o.Precedes a b) :=
  match h : o.direction with
  | .ascending => decidable_of_iff (o.NotLater a b) (by rw [Precedes, h])
  | .descending => decidable_of_iff (o.NotLater b a) (by rw [Precedes, h])

/-- The comparison of an ascending listing. -/
def ascend (o : JobOrder) : Job → Job → Ordering :=
  compareLex (compareOn o.time) (compareOn Job.id)

instance (o : JobOrder) : Std.TransCmp o.ascend :=
  inferInstanceAs (Std.TransCmp (compareLex (compareOn o.time) (compareOn Job.id)))

theorem ascend_isLE {o : JobOrder} {a b : Job} : (o.ascend a b).isLE ↔ o.NotLater a b := by
  show ((Ord.compare (o.time a) (o.time b)).then (Ord.compare a.id b.id)).isLE ↔ _
  rw [Ordering.isLE_then_iff_and, Std.LawfulOrderOrd.isLE_compare, Std.LawfulOrderOrd.isLE_compare]
  refine and_congr_right fun le => ?_
  have lt_or_eq := (Ordering.isLE_iff_eq_lt_or_eq_eq).mp (Std.LawfulOrderOrd.isLE_compare _ _ |>.mpr le)
  rw [Std.LawfulEqOrd.compare_eq_iff_eq] at lt_or_eq
  constructor
  · rintro (lt | le) eq
    · rw [eq, Std.LawfulEqOrd.compare_eq_iff_eq.mpr rfl] at lt
      cases lt
    · exact le
  · intro h
    exact lt_or_eq.imp id h

/-- A descending listing turns the whole comparison around, the numbers of tied jobs included. -/
theorem compare_eq (o : JobOrder) (a b : Job) :
    o.compare a b = match o.direction with
      | .ascending => o.ascend a b
      | .descending => o.ascend b a := by
  cases h : o.direction with
  | ascending => simp only [compare, h]; rfl
  | descending =>
    simp only [compare, h]
    exact (Std.OrientedCmp.eq_swap : o.ascend b a = (o.ascend a b).swap).symm

instance (o : JobOrder) : Std.TransCmp o.compare := by
  have eq := funext fun a => funext (o.compare_eq a)
  cases h : o.direction with
  | ascending =>
    simp only [h] at eq
    rw [eq]
    infer_instance
  | descending =>
    simp only [h] at eq
    rw [eq]
    infer_instance

theorem compare_isLE {o : JobOrder} {a b : Job} : (o.compare a b).isLE ↔ o.Precedes a b := by
  rw [compare_eq, Precedes]
  cases o.direction with
  | ascending => exact ascend_isLE
  | descending => exact ascend_isLE

theorem Ties.symm {o : JobOrder} {a b : Job} (h : o.Ties a b) : o.Ties b a :=
  ⟨h.1.symm, h.2.symm⟩

theorem Ties.trans {o : JobOrder} {a b c : Job} (ab : o.Ties a b) (bc : o.Ties b c) : o.Ties a c :=
  ⟨ab.1.trans bc.1, ab.2.trans bc.2⟩

theorem ascend_eq_eq {o : JobOrder} {a b : Job} : o.ascend a b = .eq ↔ o.Ties a b := by
  rw [ascend, compareLex_eq_eq, compareOn, compareOn, Std.LawfulEqOrd.compare_eq_iff_eq,
    Std.LawfulEqOrd.compare_eq_iff_eq, Ties]

theorem compare_eq_eq {o : JobOrder} {a b : Job} : o.compare a b = .eq ↔ o.Ties a b := by
  rw [compare_eq]
  cases o.direction with
  | ascending => exact ascend_eq_eq
  | descending => exact ascend_eq_eq.trans ⟨Ties.symm, Ties.symm⟩

theorem compare_total (o : JobOrder) (a b : Job) :
    (o.compare a b).isLE || (o.compare b a).isLE := by
  rw [(Std.OrientedCmp.eq_swap : o.compare b a = (o.compare a b).swap)]
  cases o.compare a b <;> rfl

theorem Precedes.antisymm {o : JobOrder} {a b : Job} (ab : o.Precedes a b) (ba : o.Precedes b a) :
    o.Ties a b :=
  compare_eq_eq.mp (Std.OrientedCmp.isLE_antisymm (compare_isLE.mpr ab) (compare_isLE.mpr ba))

theorem Ties.precedes {o : JobOrder} {a b : Job} (h : o.Ties a b) : o.Precedes a b := by
  rw [← compare_isLE, compare_eq_eq.mpr h]
  rfl

/-! ## Listings -/

/-- The rows list the jobs: they are the same jobs, each row precedes those after it, and jobs that are
tied stand as they stood. -/
structure Lists (o : JobOrder) (jobs rows : List Job) : Prop where
  perm : rows.Perm jobs
  sorted : rows.Pairwise o.Precedes
  stable : ∀ job, rows.filter (o.Ties job ·) = jobs.filter (o.Ties job ·)

theorem sort_perm (o : JobOrder) (jobs : List Job) : (o.sort jobs).Perm jobs :=
  List.mergeSort_perm jobs _

theorem sort_sorted (o : JobOrder) (jobs : List Job) : (o.sort jobs).Pairwise o.Precedes :=
  (List.pairwise_mergeSort (fun _ _ _ => Std.TransCmp.isLE_trans) o.compare_total jobs).imp
    compare_isLE.mp

/-- Jobs that are tied are a sorted part of the jobs, and sorting keeps every sorted part. -/
theorem sort_stable (o : JobOrder) (jobs : List Job) (job : Job) :
    (o.sort jobs).filter (o.Ties job ·) = jobs.filter (o.Ties job ·) := by
  have tied : (jobs.filter (o.Ties job ·)).Pairwise (fun a b => (o.compare a b).isLE) := by
    refine List.pairwise_iff_forall_sublist.mpr fun {a b} sub => ?_
    have ha := List.of_mem_filter (sub.subset List.mem_cons_self)
    have hb := List.of_mem_filter (sub.subset (List.mem_cons_of_mem _ List.mem_cons_self))
    exact compare_isLE.mpr (((of_decide_eq_true ha).symm.trans (of_decide_eq_true hb)).precedes)
  have kept : (jobs.filter (o.Ties job ·)).Sublist (o.sort jobs) :=
    List.sublist_mergeSort (fun _ _ _ => Std.TransCmp.isLE_trans) o.compare_total tied
      List.filter_sublist
  have sub := kept.filter (o.Ties job ·)
  rw [List.filter_filter, funext fun b => Bool.and_self (decide (o.Ties job b))] at sub
  exact (sub.eq_of_length (((sort_perm o jobs).filter _).length_eq.symm)).symm

theorem sort_lists (o : JobOrder) (jobs : List Job) : o.Lists jobs (o.sort jobs) :=
  ⟨sort_perm o jobs, sort_sorted o jobs, sort_stable o jobs⟩

/-- Rows in order are known by what they hold and by how their tied jobs stand. The first rows of two
such listings precede each other, so they are tied, and among tied jobs the first is the same. -/
theorem eq_of_same_ties {o : JobOrder} {rows rows' : List Job} (perm : rows.Perm rows')
    (sorted : rows.Pairwise o.Precedes) (sorted' : rows'.Pairwise o.Precedes)
    (ties : ∀ job, rows.filter (o.Ties job ·) = rows'.filter (o.Ties job ·)) : rows = rows' := by
  induction rows generalizing rows' with
  | nil => exact perm.nil_eq
  | cons a rows ih =>
    cases rows' with
    | nil => exact perm.eq_nil
    | cons b rows' =>
      have tied : o.Ties a b := by
        rcases List.mem_cons.mp (perm.mem_iff.mp List.mem_cons_self) with rfl | ha
        · exact ⟨rfl, rfl⟩
        rcases List.mem_cons.mp (perm.mem_iff.mpr List.mem_cons_self) with rfl | hb
        · exact ⟨rfl, rfl⟩
        exact (List.rel_of_pairwise_cons sorted hb).antisymm (List.rel_of_pairwise_cons sorted' ha)
      have first := ties a
      rw [List.filter_cons_of_pos (by simpa using ⟨rfl, rfl⟩),
        List.filter_cons_of_pos (by simpa using tied)] at first
      obtain ⟨rfl, -⟩ := List.cons.inj first
      refine congrArg (a :: ·) (ih perm.cons_inv sorted.of_cons sorted'.of_cons fun job => ?_)
      -- the first row is the same, so it is left out on both sides or on none
      have rest := ties job
      rw [List.filter_cons, List.filter_cons] at rest
      split at rest
      · exact (List.cons.inj rest).2
      · exact rest

/-- There is one listing of the same jobs in the same order. -/
theorem Lists.unique {o : JobOrder} {jobs rows rows' : List Job} (h : o.Lists jobs rows)
    (h' : o.Lists jobs rows') : rows = rows' :=
  eq_of_same_ties (h.perm.trans h'.perm.symm) h.sorted h'.sorted
    fun job => (h.stable job).trans (h'.stable job).symm

theorem Lists.filter {o : JobOrder} {jobs rows : List Job} (h : o.Lists jobs rows) (p : Job → Bool) :
    o.Lists (jobs.filter p) (rows.filter p) := by
  refine ⟨h.perm.filter p, h.sorted.filter p, fun job => ?_⟩
  rw [List.filter_comm, h.stable job, List.filter_comm]

/-- Jobs with pairwise different numbers are never tied, so any order of them that is sorted is their
listing. -/
theorem eq_sort_of_perm {o : JobOrder} {jobs rows : List Job} (distinct : (jobs.map Job.id).Nodup)
    (perm : rows.Perm jobs) (sorted : rows.Pairwise o.Precedes) : rows = o.sort jobs := by
  refine List.Perm.eq_of_pairwise (fun a b ha hb (ab : o.Precedes a b) ba => ?_) sorted
    (o.sort_sorted jobs) (perm.trans (o.sort_perm jobs).symm)
  exact List.inj_on_of_nodup_map distinct (perm.mem_iff.mp ha) ((o.sort_perm jobs).mem_iff.mp hb)
    (ab.antisymm ba).2

/-! ## The first job -/

theorem Precedes.trans {o : JobOrder} {a b c : Job} (ab : o.Precedes a b) (bc : o.Precedes b c) :
    o.Precedes a c :=
  compare_isLE.mp (Std.TransCmp.isLE_trans (compare_isLE.mpr ab) (compare_isLE.mpr bc))

theorem Precedes.of_not {o : JobOrder} {a b : Job} (h : ¬ o.Precedes a b) : o.Precedes b a := by
  have total := o.compare_total a b
  rw [← compare_isLE] at h ⊢
  simpa [h] using total

/-- The job precedes all jobs, and of those that it is tied with it comes first. -/
structure IsFirst (o : JobOrder) (jobs : List Job) (job : Job) : Prop where
  precedes : ∀ other ∈ jobs, o.Precedes job other
  earliest : jobs.find? (o.Ties job ·) = some job

theorem IsFirst.mem {o : JobOrder} {jobs : List Job} {job : Job} (h : o.IsFirst jobs job) :
    job ∈ jobs :=
  List.mem_of_find?_eq_some h.earliest

theorem IsFirst.unique {o : JobOrder} {jobs : List Job} {a b : Job} (ha : o.IsFirst jobs a)
    (hb : o.IsFirst jobs b) : a = b := by
  have tied : o.Ties a b := (ha.precedes b hb.mem).antisymm (hb.precedes a ha.mem)
  have same : (fun job => decide (o.Ties a job)) = fun job => decide (o.Ties b job) := by
    funext job
    exact decide_eq_decide.mpr ⟨tied.symm.trans, tied.trans⟩
  have found := ha.earliest
  rw [same, hb.earliest] at found
  exact (Option.some.inj found).symm

/-- One more job is the first one only if it stands before the one that was first so far. -/
theorem IsFirst.earlier {o : JobOrder} {met : List Job} {first : Job} (h : o.IsFirst met first)
    (next : Job) : o.IsFirst (met ++ [next]) (o.earlier first next) := by
  unfold JobOrder.earlier
  by_cases before : (o.compare first next).isLE
  · rw [if_pos before]
    refine ⟨fun other mem => ?_, ?_⟩
    · rcases List.mem_append.mp mem with mem | mem
      · exact h.precedes other mem
      · rw [List.mem_singleton.mp mem]
        exact compare_isLE.mp before
    · rw [List.find?_append, h.earliest, Option.some_or]
  · rw [if_neg before]
    rw [compare_isLE] at before
    have after := Precedes.of_not before
    refine ⟨fun other mem => ?_, ?_⟩
    · rcases List.mem_append.mp mem with mem | mem
      · exact after.trans (h.precedes other mem)
      · rw [List.mem_singleton.mp mem]
        exact Ties.precedes ⟨rfl, rfl⟩
    · -- a job met before that is tied with the next one would have put the first one before it
      have none : met.find? (o.Ties next ·) = none := by
        refine List.find?_eq_none.mpr fun other mem tied => before ?_
        exact (h.precedes other mem).trans (of_decide_eq_true tied).symm.precedes
      rw [List.find?_append, none, Option.none_or, List.find?_singleton,
        if_pos (decide_eq_true ⟨rfl, rfl⟩)]

theorem IsFirst.foldl {o : JobOrder} {met : List Job} {first : Job} (h : o.IsFirst met first)
    (rest : List Job) : o.IsFirst (met ++ rest) (rest.foldl o.earlier first) := by
  induction rest generalizing met first with
  | nil => rwa [List.append_nil]
  | cons next rest ih =>
    have step := ih (h.earlier next)
    rwa [List.append_assoc] at step

theorem isFirst_of_first? {o : JobOrder} {jobs : List Job} {job : Job}
    (found : o.first? jobs = some job) : o.IsFirst jobs job := by
  cases jobs with
  | nil => cases found
  | cons a rest =>
    have alone : o.IsFirst [a] a := by
      refine ⟨fun other mem => ?_, ?_⟩
      · rw [List.mem_singleton.mp mem]
        exact Ties.precedes ⟨rfl, rfl⟩
      · rw [List.find?_singleton, if_pos (decide_eq_true ⟨rfl, rfl⟩)]
    rw [← Option.some.inj found]
    exact alone.foldl rest

/-- Where there are jobs, one of them is first. -/
theorem exists_first? (o : JobOrder) {jobs : List Job} {job : Job} (mem : job ∈ jobs) :
    ∃ first, o.first? jobs = some first := by
  cases jobs with
  | nil => cases mem
  | cons a rest => exact ⟨_, rfl⟩

theorem Lists.isFirst {o : JobOrder} {jobs rows : List Job} {job : Job} (h : o.Lists jobs (job :: rows)) :
    o.IsFirst jobs job := by
  have tied : o.Ties job job := ⟨rfl, rfl⟩
  refine ⟨fun other mem => ?_, ?_⟩
  · rcases List.mem_cons.mp (h.perm.mem_iff.mpr mem) with rfl | later
    · exact tied.precedes
    · exact List.rel_of_pairwise_cons h.sorted later
  · rw [← List.head?_filter, ← h.stable job, List.filter_cons, if_pos (decide_eq_true tied),
      List.head?_cons]

/-- The first job is found without sorting. -/
theorem Lists.head?_eq {o : JobOrder} {jobs rows : List Job} (h : o.Lists jobs rows) :
    o.first? jobs = rows.head? := by
  cases rows with
  | nil =>
    rw [← h.perm.nil_eq]
    rfl
  | cons row rows =>
    obtain ⟨first, found⟩ := o.exists_first? (h.perm.mem_iff.mp List.mem_cons_self)
    rw [found, (isFirst_of_first? found).unique h.isFirst, List.head?_cons]

end JobOrder

end SyncHistory
