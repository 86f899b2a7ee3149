import Mathlib.Data.Prod.Lex
import Mathlib.Data.String.Basic
import Mathlib.Order.WithBot
import SyncHistory.Proofs.Stats
import SyncHistory.Stream

/-!
# Merging statistics of streams

A merged list has every stream once, in strict order (`StreamStats.merge_inOrder`), it has the streams of
the input and no others (`StreamStats.mem_keys_merge`), and the statistics of a stream are the sum of
those in the input (`StreamStats.total_merge`). These three determine it (`StreamStats.InOrder.ext`), so
neither the order of the input nor merging parts of it first makes a difference
(`StreamStats.merge_laws`).
-/

namespace SyncHistory

namespace StreamKey

/-! ## The order of streams -/

/-- Where a stream stands: by name, then by namespace, of which none is the least. -/
def place (k : StreamKey) : String ×ₗ WithBot String :=
  toLex (k.name, k.nameSpace)

theorem place_injective : Function.Injective place := by
  rintro ⟨name, nameSpace⟩ ⟨name', nameSpace'⟩ h
  obtain ⟨rfl, rfl⟩ := Prod.mk.inj (toLex.injective h)
  rfl

theorem nameSpaceLt_iff {a b : Option String} :
    nameSpaceLt a b = true ↔ (show WithBot String from a) < (show WithBot String from b) := by
  cases a with
  | none =>
    cases b with
    | none => exact iff_of_false Bool.false_ne_true (lt_irrefl _)
    | some b => exact iff_of_true rfl (WithBot.bot_lt_coe b)
  | some a =>
    cases b with
    | none => exact iff_of_false Bool.false_ne_true not_lt_bot
    | some b => exact decide_eq_true_iff.trans WithBot.coe_lt_coe.symm

/-- The order of streams is that of their places. -/
theorem lt_iff {a b : StreamKey} : a.lt b = true ↔ a.place < b.place := by
  rw [lt, Bool.or_eq_true, Bool.and_eq_true, decide_eq_true_iff, beq_iff_eq, nameSpaceLt_iff,
    Prod.Lex.lt_iff]
  rfl

theorem lt_trans {a b c : StreamKey} (ab : a.lt b = true) (bc : b.lt c = true) : a.lt c = true :=
  lt_iff.mpr ((lt_iff.mp ab).trans (lt_iff.mp bc))

theorem ne_of_lt {a b : StreamKey} (h : a.lt b = true) : a ≠ b :=
  fun eq => (lt_iff.mp h).ne (congrArg place eq)

/-- Of two different streams the one that is not before the other is after it. -/
theorem lt_of_not_lt {a b : StreamKey} (ne : a ≠ b) (h : ¬ a.lt b = true) : b.lt a = true := by
  rw [lt_iff] at h ⊢
  exact lt_of_le_of_ne (not_lt.mp h) fun eq => ne (place_injective eq.symm)

end StreamKey

namespace StreamStats

/-- The streams that a list has statistics of. -/
def keys (xs : List StreamStats) : List StreamKey := xs.map (·.key)

theorem keys_cons (x : StreamStats) (xs : List StreamStats) : keys (x :: xs) = x.key :: keys xs := rfl

theorem keys_append (xs ys : List StreamStats) : keys (xs ++ ys) = keys xs ++ keys ys :=
  List.map_append

theorem mem_keys {k : StreamKey} {xs : List StreamStats} : k ∈ keys xs ↔ ∃ x ∈ xs, x.key = k :=
  List.mem_map

/-- Every stream once, in order. -/
def InOrder (xs : List StreamStats) : Prop :=
  (keys xs).Pairwise fun a b => a.lt b = true

/-- The sum of the statistics of one stream. -/
def total (k : StreamKey) (xs : List StreamStats) : SyncStats :=
  ((xs.filter (·.key = k)).map (·.stats)).sum

theorem total_cons (k : StreamKey) (x : StreamStats) (xs : List StreamStats) :
    total k (x :: xs) = (if x.key = k then x.stats else 0) + total k xs := by
  rw [total, List.filter_cons]
  split <;> rename_i h
  · rw [if_pos (of_decide_eq_true h)]
    rfl
  · rw [if_neg (fun eq => h (decide_eq_true eq)), zero_add]
    rfl

theorem total_append (k : StreamKey) (xs ys : List StreamStats) :
    total k (xs ++ ys) = total k xs + total k ys := by
  rw [total, List.filter_append, List.map_append, List.sum_append]
  rfl

theorem total_perm (k : StreamKey) {xs ys : List StreamStats} (h : xs.Perm ys) :
    total k xs = total k ys :=
  ((h.filter _).map _).sum_eq

theorem total_eq_zero {k : StreamKey} {xs : List StreamStats} (h : k ∉ keys xs) :
    total k xs = 0 := by
  rw [total, List.filter_eq_nil_iff.mpr fun x hx eq =>
    h (mem_keys.mpr ⟨x, hx, of_decide_eq_true eq⟩)]
  rfl

/-! ## Adding one stream -/

theorem mem_keys_insert {s : StreamStats} {xs : List StreamStats} {k : StreamKey} :
    k ∈ keys (insert s xs) ↔ k = s.key ∨ k ∈ keys xs := by
  induction xs with
  | nil => exact List.mem_cons
  | cons x xs ih =>
    unfold insert
    split
    · rename_i eq
      rw [eq, keys_cons, keys_cons, List.mem_cons]
      exact ⟨Or.inr, fun h => h.elim .inl id⟩
    · split
      · exact List.mem_cons
      · rw [keys_cons, keys_cons, List.mem_cons, List.mem_cons, ih]
        exact or_left_comm

/-- The stream is put where it belongs. -/
theorem insert_inOrder (s : StreamStats) {xs : List StreamStats} (h : InOrder xs) :
    InOrder (insert s xs) := by
  induction xs with
  | nil => exact List.pairwise_singleton _ _
  | cons x xs ih =>
    obtain ⟨first, rest⟩ := List.pairwise_cons.mp h
    unfold insert
    split
    · exact h
    · rename_i ne
      split
      · rename_i before
        refine List.pairwise_cons.mpr ⟨fun k hk => ?_, h⟩
        rcases List.mem_cons.mp hk with rfl | hk
        · exact before
        · exact StreamKey.lt_trans before (first k hk)
      · rename_i after
        -- the new stream goes further down, where it is still behind `x`
        refine List.pairwise_cons.mpr ⟨fun k hk => ?_, ih rest⟩
        rcases mem_keys_insert.mp hk with rfl | hk
        · exact StreamKey.lt_of_not_lt ne after
        · exact first k hk

theorem total_insert (k : StreamKey) (s : StreamStats) (xs : List StreamStats) :
    total k (insert s xs) = (if s.key = k then s.stats else 0) + total k xs := by
  induction xs with
  | nil => exact total_cons k s []
  | cons x xs ih =>
    unfold insert
    split
    · rename_i eq
      rw [total_cons, total_cons, eq, ← add_assoc]
      split
      · rfl
      · simp only [zero_add]
    · split
      · exact total_cons k s _
      · rw [total_cons, total_cons, ih, add_left_comm]

theorem sum_insert (s : StreamStats) (xs : List StreamStats) :
    ((insert s xs).map (·.stats)).sum = s.stats + (xs.map (·.stats)).sum := by
  induction xs with
  | nil => rfl
  | cons x xs ih =>
    unfold insert
    split
    · rw [List.map_cons, List.map_cons, List.sum_cons, List.sum_cons, add_assoc]
    · split
      · rfl
      · rw [List.map_cons, List.map_cons, List.sum_cons, List.sum_cons, ih, add_left_comm]

/-! ## Merging -/

theorem merge_inOrder (xs : List StreamStats) : InOrder (merge xs) := by
  induction xs with
  | nil => exact List.Pairwise.nil
  | cons x xs ih => exact insert_inOrder x ih

theorem mem_keys_merge {xs : List StreamStats} {k : StreamKey} :
    k ∈ keys (merge xs) ↔ k ∈ keys xs := by
  induction xs with
  | nil => rfl
  | cons x xs ih => exact mem_keys_insert.trans ((or_congr_right ih).trans List.mem_cons.symm)

theorem total_merge (k : StreamKey) (xs : List StreamStats) : total k (merge xs) = total k xs := by
  induction xs with
  | nil => rfl
  | cons x xs ih => rw [total_cons, ← ih]; exact total_insert k x (merge xs)

/-- Merging loses nothing of any stream. -/
theorem sum_merge (xs : List StreamStats) :
    ((merge xs).map (·.stats)).sum = (xs.map (·.stats)).sum := by
  induction xs with
  | nil => rfl
  | cons x xs ih =>
    rw [List.map_cons, List.sum_cons, ← ih]
    exact sum_insert x (merge xs)

/-- A stream that stands once in a list has its statistics there for its total. -/
theorem InOrder.filter_key {xs : List StreamStats} (h : InOrder xs) {k : StreamKey}
    (mem : k ∈ keys xs) : xs.filter (·.key = k) = [⟨k, total k xs⟩] := by
  induction xs with
  | nil => cases mem
  | cons x xs ih =>
    obtain ⟨first, rest⟩ := List.pairwise_cons.mp h
    rw [total_cons]
    by_cases eq : x.key = k
    · have absent : k ∉ keys xs := fun hk => StreamKey.ne_of_lt (first k hk) eq
      have none : xs.filter (·.key = k) = [] := List.filter_eq_nil_iff.mpr fun y hy eq =>
        absent (mem_keys.mpr ⟨y, hy, of_decide_eq_true eq⟩)
      rw [List.filter_cons_of_pos (by simpa using eq), none, if_pos eq, total_eq_zero absent, add_zero,
        ← eq]
    · have mem : k ∈ keys xs := (List.mem_cons.mp mem).resolve_left fun h => eq h.symm
      rw [List.filter_cons_of_neg (by simpa using eq), if_neg eq, zero_add]
      exact ih rest mem

theorem InOrder.stats_of_mem {xs : List StreamStats} (h : InOrder xs) {x : StreamStats} (mem : x ∈ xs) :
    x.stats = total x.key xs := by
  have own : x ∈ xs.filter (·.key = x.key) := List.mem_filter.mpr ⟨mem, decide_eq_true rfl⟩
  rw [h.filter_key (mem_keys.mpr ⟨x, mem, rfl⟩)] at own
  exact congrArg StreamStats.stats (List.mem_singleton.mp own)

/-- In lists in order, equal totals of a stream are one and the same entry. -/
theorem InOrder.mem_of_mem {xs ys : List StreamStats} (hx : InOrder xs) (hy : InOrder ys)
    (streams : ∀ k, k ∈ keys xs ↔ k ∈ keys ys) (totals : ∀ k, total k xs = total k ys)
    {x : StreamStats} (mem : x ∈ xs) : x ∈ ys := by
  have key : x.key ∈ keys xs := mem_keys.mpr ⟨x, mem, rfl⟩
  have own := hx.filter_key key
  rw [totals, ← hy.filter_key ((streams _).mp key)] at own
  have both : x ∈ ys.filter (·.key = x.key) := own ▸ List.mem_filter.mpr ⟨mem, decide_eq_true rfl⟩
  exact List.mem_of_mem_filter both

theorem InOrder.nodup {xs : List StreamStats} (h : InOrder xs) : xs.Nodup :=
  (List.pairwise_map.mp h).imp fun lt eq => StreamKey.ne_of_lt lt (congrArg _ eq)

/-- A list in order is known by its streams and their totals. -/
theorem InOrder.ext {xs ys : List StreamStats} (hx : InOrder xs) (hy : InOrder ys)
    (streams : ∀ k, k ∈ keys xs ↔ k ∈ keys ys) (totals : ∀ k, total k xs = total k ys) :
    xs = ys := by
  have perm : xs.Perm ys := (List.perm_ext_iff_of_nodup hx.nodup hy.nodup).mpr fun _ =>
    ⟨hx.mem_of_mem hy streams totals,
      hy.mem_of_mem hx (fun k => (streams k).symm) fun k => (totals k).symm⟩
  refine perm.eq_of_pairwise (fun a b _ _ ab ba => ?_) (List.pairwise_map.mp hx) (List.pairwise_map.mp hy)
  exact absurd rfl (StreamKey.ne_of_lt (StreamKey.lt_trans ab ba))

/-- Merging makes no difference between lists of the same streams with the same totals. -/
theorem merge_congr {xs ys : List StreamStats}
    (streams : ∀ k, k ∈ keys xs ↔ k ∈ keys ys) (totals : ∀ k, total k xs = total k ys) :
    merge xs = merge ys := by
  refine (merge_inOrder xs).ext (merge_inOrder ys) (fun k => ?_) fun k => ?_
  · rw [mem_keys_merge, mem_keys_merge, streams]
  · rw [total_merge, total_merge, totals]

theorem merge_perm {xs ys : List StreamStats} (h : xs.Perm ys) : merge xs = merge ys :=
  merge_congr (fun _ => (h.map _).mem_iff) fun k => total_perm k h

/-- Parts of a list may be merged before the whole is. -/
theorem merge_flatten_map_merge (xss : List (List StreamStats)) :
    merge (xss.map merge).flatten = merge xss.flatten := by
  refine merge_congr (fun k => ?_) fun k => ?_
  · induction xss with
    | nil => rfl
    | cons xs xss ih =>
      rw [List.map_cons, List.flatten_cons, List.flatten_cons, keys_append, keys_append,
        List.mem_append, List.mem_append, ih, mem_keys_merge]
  · induction xss with
    | nil => rfl
    | cons xs xss ih =>
      rw [List.map_cons, List.flatten_cons, List.flatten_cons, total_append, total_append, ih,
        total_merge]

/-- Merged statistics are in order and complete, so merging them again changes nothing. -/
theorem merge_merge (xs : List StreamStats) : merge (merge xs) = merge xs := by
  apply merge_congr
  · intro k
    exact mem_keys_merge
  · intro k
    exact total_merge k xs

theorem merge_append (xs ys : List StreamStats) :
    merge (xs ++ ys) = merge (merge xs ++ merge ys) := by
  have parts := merge_flatten_map_merge [xs, ys]
  simp only [List.map_cons, List.map_nil, List.flatten_cons, List.flatten_nil, List.append_nil] at parts
  exact parts.symm

/-- Statistics may as well be added one after the other from the front. -/
theorem foldl_insert_eq_merge (xs : List StreamStats) :
    xs.foldl (fun merged s => insert s merged) [] = merge xs := by
  rw [← List.foldr_reverse]
  exact merge_perm xs.reverse_perm

/-- **Laws of merging.** Merged statistics stand in strictly increasing order, by name and then by
namespace, of which none is the least; they are of the streams of the input, and of no others; and those of
a stream are, counter by counter, the sums over the input. The order of the input makes no difference, nor
does merging parts of it first or merging twice, and the totals over all streams are kept. -/
theorem merge_laws (xs : List StreamStats) :
    ((keys (merge xs)).map StreamKey.place).Pairwise (· < ·) ∧
    (∀ k, k ∈ keys (merge xs) ↔ k ∈ keys xs) ∧
    (∀ entry ∈ merge xs,
      SyncStats.Totals ((xs.filter (·.key = entry.key)).map (·.stats)) entry.stats) ∧
    xs.foldl (fun merged s => insert s merged) [] = merge xs ∧
    (∀ ys, ys.Perm xs → merge ys = merge xs) ∧
    (∀ ys, merge (xs ++ ys) = merge (merge xs ++ merge ys)) ∧
    merge (merge xs) = merge xs ∧
    ∃ total, SyncStats.Totals (xs.map (·.stats)) total ∧
      SyncStats.Totals ((merge xs).map (·.stats)) total := by
  have inOrder := merge_inOrder xs
  refine ⟨?_, fun k => mem_keys_merge, ?_, foldl_insert_eq_merge xs, fun ys perm => merge_perm perm,
    merge_append xs, merge_merge xs, (xs.map (·.stats)).sum, SyncStats.sum_totals _, ?_⟩
  · rw [List.pairwise_map]
    exact inOrder.imp fun before => StreamKey.lt_iff.mp before
  · intro entry mem
    have own : entry.stats = total entry.key xs :=
      (inOrder.stats_of_mem mem).trans (total_merge entry.key xs)
    rw [own]
    exact SyncStats.sum_totals _
  · rw [← sum_merge]
    exact SyncStats.sum_totals _

/-- Two streams of one name, one of them met twice, with and without a namespace. -/
theorem merge_laws_users :
    let entry (nameSpace : Option String) (n : Int) : StreamStats :=
      ⟨⟨"users", nameSpace⟩, ⟨n, 10 * n, n - 1, 10 * n - 1⟩⟩
    let xs := [entry (some "b") 3, entry none 2, entry (some "b") 4]
    let both : StreamStats := ⟨⟨"users", some "b"⟩, ⟨7, 70, 5, 68⟩⟩
    both ∈ merge xs ∧ SyncStats.Totals ((xs.filter (·.key = both.key)).map (·.stats)) both.stats ∧
    xs.reverse.Perm xs ∧ merge xs.reverse = merge xs ∧ merge xs = [entry none 2, both] := by
  intro entry xs both
  have mem : both ∈ merge xs := by decide
  have reversed : xs.reverse.Perm xs := xs.reverse_perm
  obtain ⟨-, -, sums, -, perms, -⟩ := merge_laws xs
  exact ⟨mem, sums both mem, reversed, perms _ reversed, by decide⟩

end StreamStats

end SyncHistory
