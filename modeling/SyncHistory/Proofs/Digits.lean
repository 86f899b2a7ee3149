import Mathlib.Algebra.Group.Nat.Defs
import SyncHistory.Digits

/-!
# Written numbers are read back

The digits of a number are read as that number (`Digits.nat?_ofNat`), also behind zeros
(`Digits.nat?_padded`), and there is nothing else among them (`Digits.isDecimal_of_mem_ofNat`). What is read
has no more digits than were written (`Digits.nat?_lt`).
-/

namespace SyncHistory.Digits

theorem value?_digitChar {d : Nat} (small : d < 10) : value? 10 (Nat.digitChar d) = some d := by
  have each : ∀ d : Fin 10, value? 10 (Nat.digitChar d) = some d.val := by decide
  exact each ⟨d, small⟩

/-- Reading goes on from what was read before. -/
theorem continueNat?_append {base n m : Nat} {cs : List Char} (front : continueNat? base n cs = some m)
    (ds : List Char) : continueNat? base n (cs ++ ds) = continueNat? base m ds := by
  induction cs generalizing n with
  | nil => rw [List.nil_append, Option.some.inj front]
  | cons c cs ih =>
    rw [List.cons_append, continueNat?]
    cases digit : value? base c with
    | none =>
      rw [continueNat?, digit] at front
      cases front
    | some d =>
      rw [continueNat?, digit] at front
      exact ih front

theorem continueNat?_ofNat (n : Nat) : continueNat? 10 0 (ofNat n) = some n := by
  induction n using Nat.strongRecOn with
  | ind n ih =>
    by_cases small : n < 10
    · rw [ofNat, Nat.toDigits_of_lt_base small, continueNat?, value?_digitChar small]
      simp only [continueNat?, Nat.zero_mul, Nat.zero_add]
    · have front : continueNat? 10 0 (Nat.toDigits 10 (n / 10)) = some (n / 10) := ih _ (by omega)
      have last := value?_digitChar (Nat.mod_lt n (by decide : 0 < 10))
      rw [ofNat, Nat.toDigits_of_base_le (by decide) (by omega), continueNat?_append front, continueNat?,
        last]
      simp only [continueNat?, Option.some.injEq]
      omega

theorem nat?_ofNat (n : Nat) : nat? 10 (ofNat n) = some n := by
  have read := continueNat?_ofNat n
  cases digits : ofNat n with
  | nil => exact absurd digits Nat.toDigits_ne_nil
  | cons c cs => rwa [digits] at read

theorem isDecimal_of_continueNat? {n m : Nat} {cs : List Char} (read : continueNat? 10 n cs = some m) :
    ∀ c ∈ cs, isDecimal c = true := by
  induction cs generalizing n with
  | nil => exact fun c mem => absurd mem List.not_mem_nil
  | cons c cs ih =>
    cases digit : value? 10 c with
    | none =>
      rw [continueNat?, digit] at read
      cases read
    | some d =>
      rw [continueNat?, digit] at read
      refine List.forall_mem_cons.mpr ⟨?_, ih read⟩
      rw [isDecimal, digit, Option.isSome_some]

theorem isDecimal_of_mem_ofNat {n : Nat} : ∀ c ∈ ofNat n, isDecimal c = true :=
  isDecimal_of_continueNat? (continueNat?_ofNat n)

/-- The digits of a number are one run. -/
theorem takeWhile_ofNat (n : Nat) : (ofNat n).takeWhile isDecimal = ofNat n := by
  have run : (ofNat n ++ []).takeWhile isDecimal = ofNat n ++ [].takeWhile isDecimal :=
    List.takeWhile_append_of_pos isDecimal_of_mem_ofNat
  rwa [List.append_nil, List.takeWhile_nil, List.append_nil] at run

/-- A number that is not zero is written without leading zeros. -/
theorem head?_ofNat {n : Nat} (pos : 0 < n) : (ofNat n).head? ≠ some '0' := by
  induction n using Nat.strongRecOn with
  | ind n ih =>
    by_cases small : n < 10
    · rw [ofNat, Nat.toDigits_of_lt_base small]
      intro zero
      have value := value?_digitChar small
      rw [Option.some.inj zero] at value
      exact absurd (Option.some.inj value) (Nat.ne_of_lt pos)
    · -- the first digit is that of the number without its last one
      have front : (Nat.toDigits 10 (n / 10)).head? ≠ some '0' := ih _ (by omega) (by omega)
      rw [ofNat, Nat.toDigits_of_base_le (by decide) (by omega)]
      cases digits : Nat.toDigits 10 (n / 10) with
      | nil => exact absurd digits Nat.toDigits_ne_nil
      | cons c cs =>
        rw [digits] at front
        exact front

/-! ## Digits behind zeros -/

theorem continueNat?_padded (width n : Nat) : continueNat? 10 0 (padded width n) = some n := by
  have zeros (k : Nat) : continueNat? 10 0 (List.replicate k '0') = some 0 := by
    induction k with
    | zero => rfl
    | succ k ih => exact ih
  rw [padded, List.leftpad, continueNat?_append (zeros _), continueNat?_ofNat]

theorem padded_ne_nil (width n : Nat) : padded width n ≠ [] :=
  List.append_ne_nil_of_right_ne_nil _ Nat.toDigits_ne_nil

theorem nat?_padded (width n : Nat) : nat? 10 (padded width n) = some n := by
  have read := continueNat?_padded width n
  cases digits : padded width n with
  | nil => exact absurd digits (padded_ne_nil width n)
  | cons c cs => rwa [digits] at read

theorem isDecimal_of_mem_padded {width n : Nat} : ∀ c ∈ padded width n, isDecimal c = true :=
  isDecimal_of_continueNat? (continueNat?_padded width n)

/-- A number that is small enough fills the width. -/
theorem length_padded {width n : Nat} (pos : 0 < width) (small : n < 10 ^ width) :
    (padded width n).length = width := by
  have digits : (ofNat n).length ≤ width := (Nat.length_toDigits_le_iff (by decide) pos).mpr small
  rw [padded, List.length_leftpad, Nat.max_eq_left digits]

/-! ## Bounds -/

theorem value?_lt {base d : Nat} {c : Char} (read : value? base c = some d) : d < base := by
  rw [value?] at read
  obtain ⟨small, same⟩ := Option.ite_none_right_eq_some.mp read
  cases same
  exact small

theorem le_of_continueNat? {base n m : Nat} {cs : List Char} (pos : 0 < base)
    (read : continueNat? base n cs = some m) : n ≤ m := by
  induction cs generalizing n with
  | nil => exact Nat.le_of_eq (Option.some.inj read)
  | cons c cs ih =>
    cases digit : value? base c with
    | none =>
      rw [continueNat?, digit] at read
      cases read
    | some d =>
      rw [continueNat?, digit] at read
      calc n ≤ n * base := Nat.le_mul_of_pos_right n pos
        _ ≤ n * base + d := Nat.le_add_right _ d
        _ ≤ m := ih read

theorem continueNat?_lt {base n m : Nat} {cs : List Char} (read : continueNat? base n cs = some m) :
    m < (n + 1) * base ^ cs.length := by
  induction cs generalizing n with
  | nil =>
    cases read
    rw [List.length_nil, Nat.pow_zero, Nat.mul_one]
    exact Nat.lt_succ_self _
  | cons c cs ih =>
    cases digit : value? base c with
    | none =>
      rw [continueNat?, digit] at read
      cases read
    | some d =>
      rw [continueNat?, digit] at read
      have small := value?_lt digit
      calc m < (n * base + d + 1) * base ^ cs.length := ih read
        _ ≤ ((n + 1) * base) * base ^ cs.length := by
          refine Nat.mul_le_mul_right _ ?_
          rw [Nat.succ_mul]
          omega
        _ = (n + 1) * base ^ (c :: cs).length := by
          rw [List.length_cons, Nat.pow_succ, Nat.mul_assoc, Nat.mul_comm base]

theorem nat?_lt {base n : Nat} {cs : List Char} (read : nat? base cs = some n) : n < base ^ cs.length := by
  cases cs with
  | nil => cases read
  | cons c cs =>
    have bound := continueNat?_lt (show continueNat? base 0 (c :: cs) = some n from read)
    rwa [Nat.zero_add, Nat.one_mul] at bound

end SyncHistory.Digits
