import Mathlib.Data.List.TakeWhile
import Mathlib.Tactic.SplitIfs
import SyncHistory.Instant
import SyncHistory.Proofs.Calendar
import SyncHistory.Proofs.Digits
import SyncHistory.Proofs.Failure

/-!
# Instants and their texts

The text of an instant is read as that instant (`Instant.parse?_text`), provided that its year has four
digits and that it is regular (`Instant.IsRegular`): a fraction of a second is less than one second, and a
leap second is the last one of its minute. Whatever is read is regular (`Instant.isRegular_of_parse?`).

The parts of a text are read one after the other, so for each of them there is a lemma on how it is read
when something else follows.
-/

namespace SyncHistory

/-! ## Numerals in a text -/

theorem Digits.isDecimal_iff {c : Char} : Digits.isDecimal c = true ↔ 48 ≤ c.toNat ∧ c.toNat ≤ 57 := by
  simp only [isDecimal, value?, Option.isSome_ite]
  split_ifs <;> omega

/-- A digit is no blank. -/
theorem Text.isBlank_of_isDecimal {c : Char} (digit : Digits.isDecimal c = true) : Text.isBlank c = false := by
  have range := Digits.isDecimal_iff.mp digit
  simp only [Text.isBlank, Bool.or_eq_false_iff, Bool.and_eq_false_iff, decide_eq_false_iff_not,
    beq_eq_false_iff_ne]
  omega

/-- A numeral of a fixed width begins with a digit. -/
theorem Digits.exists_padded (width n : Nat) :
    ∃ c cs, Digits.padded width n = c :: cs ∧ Digits.isDecimal c = true := by
  cases digits : Digits.padded width n with
  | nil => exact absurd digits (Digits.padded_ne_nil width n)
  | cons c cs =>
    have mem : c ∈ Digits.padded width n := digits ▸ List.mem_cons_self
    exact ⟨c, cs, rfl, Digits.isDecimal_of_mem_padded c mem⟩

/-- A date that exists has a month and a day of at most two digits. -/
theorem CivilDate.lt_of_isValid {d : CivilDate} (valid : d.isValid = true) : d.month < 100 ∧ d.day < 100 := by
  obtain ⟨first, last⟩ := (Bool.and_eq_true _ _).mp valid
  have first := of_decide_eq_true first
  have last := of_decide_eq_true last
  unfold daysInMonth at last
  split at last
  all_goals first
    | omega
    | split at last <;> omega

namespace Instant

variable {width n : Nat}

theorem digits?_padded (pos : 0 < width) (small : n < 10 ^ width) (rest : List Char) :
    digits? width (Digits.padded width n ++ rest) = some (n, rest) := by
  have run : ((Digits.padded width n ++ rest).take width).takeWhile Digits.isDecimal =
      Digits.padded width n := by
    rw [List.take_left' (Digits.length_padded pos small), List.takeWhile_eq_self_iff]
    exact Digits.isDecimal_of_mem_padded
  simp only [digits?, run, Digits.nat?_padded, Option.map_some, List.drop_left]

theorem trimStart_padded (width n : Nat) (rest : List Char) :
    Text.trimStart (Digits.padded width n ++ rest) = Digits.padded width n ++ rest := by
  obtain ⟨c, cs, digits, digit⟩ := Digits.exists_padded width n
  rw [digits, List.cons_append, Text.trimStart, List.dropWhile_cons_of_neg]
  rw [Text.isBlank_of_isDecimal digit]
  exact Bool.false_ne_true

theorem field?_padded (small : n < 100) (rest : List Char) :
    field? 2 (Digits.padded 2 n ++ rest) = some (n, rest) := by
  rw [field?, trimStart_padded, digits?_padded (by decide) small]

theorem year?_padded (small : n < 10000) (rest : List Char) :
    year? (Digits.padded 4 n ++ rest) = some ((n : Int), rest) := by
  have read := @digits?_padded 4 n (by decide) small rest
  obtain ⟨c, cs, digits, digit⟩ := Digits.exists_padded 4 n
  rw [year?, trimStart_padded]
  rw [digits, List.cons_append] at read ⊢
  -- a digit is no sign
  split
  · rename_i sign
    cases sign
    exact absurd digit (by decide)
  · rename_i sign
    cases sign
    exact absurd digit (by decide)
  · rw [read]
    rfl

theorem yearText_eq {year : Int} (nonneg : 0 ≤ year) (le : year ≤ 9999) :
    yearText year = Digits.padded 4 year.toNat :=
  if_pos ⟨nonneg, le⟩

/-! ## Fractions -/

/-- The digits behind the point, of which no more than nine count, are read up to the offset. -/
theorem fraction?_padded (pos : 0 < width) (le : width ≤ 9) (small : n < 10 ^ width) (rest : List Char) :
    fraction? ('.' :: Digits.padded width n ++ 'Z' :: rest) = some (n * 10 ^ (9 - width), 'Z' :: rest) := by
  have length := Digits.length_padded pos small
  have run : ((Digits.padded width n ++ 'Z' :: rest).take 9).takeWhile Digits.isDecimal =
      Digits.padded width n := by
    rw [List.take_append, length, List.take_of_length_le (length.trans_le le),
      List.takeWhile_append_of_pos Digits.isDecimal_of_mem_padded]
    cases 9 - width with
    | zero => rw [List.take_zero, List.takeWhile_nil, List.append_nil]
    | succ k =>
      rw [List.take_succ_cons, List.takeWhile_cons_of_neg (by decide), List.append_nil]
  simp only [List.cons_append, fraction?, run, Digits.nat?_padded, Option.map_some, length,
    List.drop_left' length]
  rw [List.dropWhile_cons_of_neg (by decide)]
  rfl

theorem fraction?_fractionText {nanos : Nat} (small : nanos < nanosPerSecond) (rest : List Char) :
    fraction? (fractionText nanos ++ 'Z' :: rest) = some (nanos, 'Z' :: rest) := by
  rw [nanosPerSecond] at small
  rw [fractionText]
  split
  · rename_i none
    rw [none]
    rfl
  · split
    · rw [fraction?_padded (by decide) (by decide) (by omega)]
      have whole : nanos / 1000000 * 10 ^ (9 - 3) = nanos := by omega
      rw [whole]
    · split
      · rw [fraction?_padded (by decide) (by decide) (by omega)]
        have whole : nanos / 1000 * 10 ^ (9 - 6) = nanos := by omega
        rw [whole]
      · rw [fraction?_padded (by decide) (by decide) (by omega), Nat.sub_self, Nat.pow_zero, Nat.mul_one]

/-! ## Instants -/

/-- A fraction of a second is less than one second, and a leap second is the last one of its minute. -/
def IsRegular (t : Instant) : Prop :=
  t.nanos < nanosPerSecond ∨ t.nanos < 2 * nanosPerSecond ∧ t.seconds % 60 = 59

/-- The year that an instant falls in. -/
def year (t : Instant) : Int := (CivilDate.ofDayNumber (t.seconds / daySeconds)).year

theorem isRepresentable_of_year {t : Instant} (nonneg : 0 ≤ t.year) (le : t.year ≤ 9999) :
    t.isRepresentable = true := by
  obtain ⟨after, before⟩ := CivilDate.year_ofDayNumber_bounds (t.seconds / daySeconds)
  have first : firstDay = -96465292 := by decide
  have last : lastDay = 95026236 := by decide
  rw [isRepresentable, first, last, Bool.and_eq_true, decide_eq_true_iff, decide_eq_true_iff]
  rw [year] at nonneg le
  omega

theorem toNat_emod_lt (seconds : Int) : (seconds % daySeconds).toNat < 86400 := by
  have lt := Int.emod_lt_of_pos seconds (show 0 < daySeconds by decide)
  rw [daySeconds] at lt ⊢
  omega

/-- The second that a clock shows, which is the sixtieth exactly in a leap second. -/
def shownSecond (t : Instant) : Nat :=
  (t.seconds % daySeconds).toNat % 60 + if t.nanos ≥ nanosPerSecond then 1 else 0

/-- The fraction of the second that a clock shows. -/
def shownNanos (t : Instant) : Nat :=
  if t.nanos ≥ nanosPerSecond then t.nanos - nanosPerSecond else t.nanos

theorem shownSecond_le (t : Instant) : t.shownSecond ≤ 60 := by
  rw [shownSecond]
  split <;> omega

section

variable {t : Instant} (regular : t.IsRegular)

include regular

theorem shownNanos_lt : t.shownNanos < nanosPerSecond := by
  rw [shownNanos]
  rcases regular with plain | ⟨plain, -⟩ <;> split <;> omega

theorem shownSecond_eq_sixty : t.shownSecond = 60 ↔ t.nanos ≥ nanosPerSecond := by
  have day := Int.toNat_of_nonneg (Int.emod_nonneg t.seconds (show daySeconds ≠ 0 by decide))
  rw [shownSecond]
  rw [daySeconds] at day ⊢
  rcases regular with plain | ⟨-, last⟩
  · rw [if_neg (Nat.not_le.mpr plain)]
    exact iff_of_false (by omega) (Nat.not_le.mpr plain)
  · by_cases leap : t.nanos ≥ nanosPerSecond
    · rw [if_pos leap]
      exact iff_of_true (by omega) leap
    · rw [if_neg leap]
      exact iff_of_false (by omega) leap

/-- In a leap second the seconds are those of the second before. -/
theorem min_shownSecond : min t.shownSecond 59 = (t.seconds % daySeconds).toNat % 60 := by
  by_cases leap : t.nanos ≥ nanosPerSecond
  · have sixty := (shownSecond_eq_sixty regular).mpr leap
    rw [sixty]
    rw [shownSecond, if_pos leap] at sixty
    omega
  · rw [shownSecond, if_neg leap]
    omega

theorem nanos_of_shown :
    (if t.shownSecond = 60 then t.shownNanos + nanosPerSecond else t.shownNanos) = t.nanos := by
  by_cases leap : t.nanos ≥ nanosPerSecond
  · rw [if_pos ((shownSecond_eq_sixty regular).mpr leap), shownNanos, if_pos leap]
    exact Nat.sub_add_cancel leap
  · rw [if_neg (mt (shownSecond_eq_sixty regular).mp leap), shownNanos, if_neg leap]

/-- A date and a time of day lead back to the instant that they are taken from. -/
theorem ofClock?_of_isRegular (representable : t.isRepresentable = true) :
    let secondOfDay := (t.seconds % daySeconds).toNat
    ofClock? (CivilDate.ofDayNumber (t.seconds / daySeconds)) (secondOfDay / 3600) (secondOfDay / 60 % 60)
      t.shownSecond t.shownNanos 0 = some t := by
  intro secondOfDay
  have day : ((secondOfDay : Nat) : Int) = t.seconds % daySeconds :=
    Int.toNat_of_nonneg (Int.emod_nonneg _ (by decide))
  have inDay : secondOfDay < 86400 := toNat_emod_lt t.seconds
  have seconds : t.seconds / daySeconds * daySeconds + ((secondOfDay / 3600 : Nat) : Int) * 3600 +
      ((secondOfDay / 60 % 60 : Nat) : Int) * 60 + ((min t.shownSecond 59 : Nat) : Int) = t.seconds := by
    rw [min_shownSecond regular]
    rw [daySeconds] at day ⊢
    omega
  rw [ofClock?, if_pos ⟨CivilDate.isValid_ofDayNumber _, by omega, by omega, shownSecond_le t⟩,
    CivilDate.dayNumber_ofDayNumber, seconds, nanos_of_shown regular]
  dsimp only
  rw [Int.sub_zero, if_pos ⟨representable, representable⟩]

end

theorem separator?_cons {c : Char} (visible : Text.isBlank c = false) (rest : List Char) :
    separator? c (c :: rest) = some rest := by
  have start : Text.trimStart (c :: rest) = c :: rest := by
    rw [Text.trimStart, List.dropWhile_cons_of_neg]
    rw [visible]
    exact Bool.false_ne_true
  rw [separator?, start]
  exact if_pos rfl

/-- How a date and a time of day in UTC are written. -/
def clockText (year month day hour minute second nanos : Nat) : List Char :=
  Digits.padded 4 year ++ '-' :: (Digits.padded 2 month ++ '-' :: (Digits.padded 2 day ++ 'T' ::
    (Digits.padded 2 hour ++ ':' :: (Digits.padded 2 minute ++ ':' :: (Digits.padded 2 second ++
      (fractionText nanos ++ ['Z']))))))

/-- What is written is read off. -/
theorem parse?_clockText {year month day hour minute second nanos : Nat} (year_lt : year < 10000)
    (month_lt : month < 100) (day_lt : day < 100) (hour_lt : hour < 100) (minute_lt : minute < 100)
    (second_lt : second < 100) (nanos_lt : nanos < nanosPerSecond) :
    parse? (String.ofList (clockText year month day hour minute second nanos)) =
      ofClock? ⟨year, month, day⟩ hour minute second nanos 0 := by
  rw [parse?, String.toList_ofList, clockText]
  refine (bind_of_eq_some (year?_padded year_lt _)).trans ?_
  refine (bind_of_eq_some (separator?_cons rfl _)).trans ?_
  refine (bind_of_eq_some (field?_padded month_lt _)).trans ?_
  refine (bind_of_eq_some (separator?_cons rfl _)).trans ?_
  refine (bind_of_eq_some (field?_padded day_lt _)).trans ?_
  refine (bind_of_eq_some (field?_padded hour_lt _)).trans ?_
  refine (bind_of_eq_some (separator?_cons rfl _)).trans ?_
  refine (bind_of_eq_some (field?_padded minute_lt _)).trans ?_
  refine (bind_of_eq_some (separator?_cons rfl _)).trans ?_
  refine (bind_of_eq_some (field?_padded second_lt _)).trans ?_
  refine (bind_of_eq_some (fraction?_fractionText nanos_lt _)).trans ?_
  rfl

theorem text_eq {t : Instant} (nonneg : 0 ≤ t.year) (le : t.year ≤ 9999) :
    let date := CivilDate.ofDayNumber (t.seconds / daySeconds)
    let secondOfDay := (t.seconds % daySeconds).toNat
    t.text = String.ofList (clockText date.year.toNat date.month date.day (secondOfDay / 3600)
      (secondOfDay / 60 % 60) t.shownSecond t.shownNanos) := by
  rw [year] at nonneg le
  simp only [text, timeText, yearText_eq nonneg le, clockText, shownSecond, shownNanos, List.append_assoc,
    List.cons_append]

/-- The text of an instant is read as that instant. -/
theorem parse?_text {t : Instant} (regular : t.IsRegular) (nonneg : 0 ≤ t.year) (le : t.year ≤ 9999) :
    parse? t.text = some t := by
  obtain ⟨month, day⟩ := CivilDate.lt_of_isValid (CivilDate.isValid_ofDayNumber (t.seconds / daySeconds))
  have inDay := toNat_emod_lt t.seconds
  have second := shownSecond_le t
  have year : (CivilDate.ofDayNumber (t.seconds / daySeconds)).year.toNat < 10000 := by
    rw [year] at le
    omega
  have whole : ((CivilDate.ofDayNumber (t.seconds / daySeconds)).year.toNat : Int) =
      (CivilDate.ofDayNumber (t.seconds / daySeconds)).year := Int.toNat_of_nonneg nonneg
  rw [text_eq nonneg le, parse?_clockText year month day (by omega) (by omega) (by omega)
    (shownNanos_lt regular), whole]
  exact ofClock?_of_isRegular regular (isRepresentable_of_year nonneg le)

/-! ## What is read -/

theorem fraction?_lt {cs rest : List Char} {nanos : Nat} (read : fraction? cs = some (nanos, rest)) :
    nanos < nanosPerSecond := by
  unfold fraction? at read
  split at read
  · rename_i digits
    obtain ⟨n, number, same⟩ := Option.map_eq_some_iff.mp read
    cases same
    -- the digits that count and the zeros for those that are missing are nine
    have bound := Digits.nat?_lt number
    have length : ((digits.take 9).takeWhile Digits.isDecimal).length ≤ 9 :=
      (List.takeWhile_sublist _).length_le.trans (List.length_take_le 9 digits)
    generalize ((digits.take 9).takeWhile Digits.isDecimal).length = count at bound length
    calc n * Nat.pow 10 (9 - count) < 10 ^ count * 10 ^ (9 - count) :=
          Nat.mul_lt_mul_of_pos_right bound (Nat.pow_pos (by decide))
      _ = 10 ^ 9 := by rw [← Nat.pow_add, Nat.add_sub_cancel' length]
  · cases read
    decide

theorem offset?_emod {cs rest : List Char} {offset : Int} (read : offset? cs = some (offset, rest)) :
    offset % 60 = 0 := by
  unfold offset? at read
  repeat' split at read
  all_goals cases read
  · rfl
  · rfl
  · rfl
  · omega
  · omega

theorem isRegular_of_ofClock? {date : CivilDate} {hour minute second nanos : Nat} {offset : Int} {t : Instant}
    (fraction : nanos < nanosPerSecond) (minutes : offset % 60 = 0)
    (read : ofClock? date hour minute second nanos offset = some t) : t.IsRegular := by
  rw [ofClock?] at read
  obtain ⟨-, read⟩ := Option.ite_none_right_eq_some.mp read
  obtain ⟨-, same⟩ := Option.ite_none_right_eq_some.mp read
  cases same
  by_cases leap : second = 60
  · refine .inr ⟨?_, ?_⟩
    · show (if second = 60 then nanos + nanosPerSecond else nanos) < 2 * nanosPerSecond
      rw [if_pos leap]
      omega
    · subst leap
      show (date.dayNumber * daySeconds + hour * 3600 + minute * 60 + (59 : Nat) - offset) % 60 = 59
      rw [daySeconds]
      omega
  · refine .inl ?_
    show (if second = 60 then nanos + nanosPerSecond else nanos) < nanosPerSecond
    rwa [if_neg leap]

/-- Whatever is read is regular. -/
theorem isRegular_of_parse? {s : String} {t : Instant} (read : parse? s = some t) : t.IsRegular := by
  rw [parse?] at read
  obtain ⟨⟨year, rest⟩, -, read⟩ := Option.bind_eq_some_iff.mp read
  obtain ⟨rest, -, read⟩ := Option.bind_eq_some_iff.mp read
  obtain ⟨⟨month, rest⟩, -, read⟩ := Option.bind_eq_some_iff.mp read
  obtain ⟨rest, -, read⟩ := Option.bind_eq_some_iff.mp read
  obtain ⟨⟨day, rest⟩, -, read⟩ := Option.bind_eq_some_iff.mp read
  dsimp only at read
  -- whatever separates the time from the date, the time is read in the same way
  split at read
  all_goals
    obtain ⟨rest, -, read⟩ := Option.bind_eq_some_iff.mp read
    obtain ⟨⟨hour, rest⟩, -, read⟩ := Option.bind_eq_some_iff.mp read
    obtain ⟨rest, -, read⟩ := Option.bind_eq_some_iff.mp read
    obtain ⟨⟨minute, rest⟩, -, read⟩ := Option.bind_eq_some_iff.mp read
    obtain ⟨rest, -, read⟩ := Option.bind_eq_some_iff.mp read
    obtain ⟨⟨second, rest⟩, -, read⟩ := Option.bind_eq_some_iff.mp read
    obtain ⟨⟨nanos, rest⟩, fraction, read⟩ := Option.bind_eq_some_iff.mp read
    obtain ⟨⟨offset, rest⟩, minutes, read⟩ := Option.bind_eq_some_iff.mp read
    obtain ⟨-, read⟩ := Option.ite_none_right_eq_some.mp read
    exact isRegular_of_ofClock? (fraction?_lt fraction) (offset?_emod minutes) read

end Instant

end SyncHistory
