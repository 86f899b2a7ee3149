import Mathlib.Algebra.GroupWithZero.Nat
import SyncHistory.Proofs.Failure
import SyncHistory.Uuid

/-!
# Identifiers and their texts

The text of an identifier is read as that identifier (`Uuid.parse?_text`), so different identifiers have
different texts (`Uuid.text_injective`).
-/

namespace SyncHistory.Uuid

theorem digit?_digitChar : ∀ d : Fin 16, digit? (digitChar d) = some d := by decide

theorem length_hexChars (u : Uuid) : u.hexChars.length = 32 := by
  rw [hexChars, List.length_map, Vector.length_toList]

theorem ofHexChars?_hexChars (u : Uuid) : ofHexChars? u.hexChars = some u := by
  have digits : u.hexChars.mapM digit? = some u.digits.toList := by
    refine mapM_eq_some.mpr (List.forall₂_map_left_iff.mpr (List.forall₂_same.mpr ?_))
    exact fun d _ => digit?_digitChar d
  rw [ofHexChars?, digits]
  dsimp only
  rw [dif_pos u.digits.length_toList]
  rfl

theorem hyphenate_cons (n m : Nat) (sizes : List Nat) (cs : List Char) :
    hyphenate (n :: m :: sizes) cs = cs.take n ++ '-' :: hyphenate (m :: sizes) (cs.drop n) := rfl

theorem length_hyphenate (n : Nat) (sizes : List Nat) {cs : List Char}
    (length : cs.length = (n :: sizes).sum) :
    (hyphenate (n :: sizes) cs).length = cs.length + sizes.length := by
  induction sizes generalizing n cs with
  | nil =>
    rw [List.sum_singleton] at length
    rw [hyphenate, List.length_take, length, Nat.min_self, List.length_nil, Nat.add_zero]
  | cons m sizes ih =>
    rw [List.sum_cons] at length
    have rest : (cs.drop n).length = (m :: sizes).sum := by
      rw [List.length_drop, length, Nat.add_sub_cancel_left]
    rw [hyphenate_cons, List.length_append, List.length_cons, ih m rest, List.length_take, List.length_drop,
      List.length_cons]
    omega

/-- The hyphens that are put between groups are found there. -/
theorem dehyphenate?_hyphenate (n : Nat) (sizes : List Nat) {cs : List Char}
    (length : cs.length = (n :: sizes).sum) :
    dehyphenate? (n :: sizes) (hyphenate (n :: sizes) cs) = some cs := by
  induction sizes generalizing n cs with
  | nil =>
    rw [List.sum_singleton] at length
    rw [hyphenate, List.take_of_length_le (Nat.le_of_eq length), dehyphenate?, if_pos length]
  | cons m sizes ih =>
    rw [List.sum_cons] at length
    have rest : (cs.drop n).length = (m :: sizes).sum := by
      rw [List.length_drop, length, Nat.add_sub_cancel_left]
    have front : (cs.take n).length = n := by
      rw [List.length_take]
      omega
    simp only [hyphenate_cons, dehyphenate?, List.drop_left' front, List.take_left' front, ih m rest,
      Option.map_some, List.take_append_drop]

/-- The text of an identifier is read as that identifier. -/
theorem parse?_text (u : Uuid) : parse? u.text = some u := by
  have hex : u.hexChars.length = groups.sum := u.length_hexChars
  have length : (hyphenate groups u.hexChars).length = 36 := by
    rw [groups, length_hyphenate 8 [4, 4, 4, 12] hex, u.length_hexChars]
    rfl
  have plain : dehyphenate? groups (hyphenate groups u.hexChars) = some u.hexChars :=
    dehyphenate?_hyphenate 8 [4, 4, 4, 12] hex
  have unwrapped : unwrap? (hyphenate groups u.hexChars) = some (hyphenate groups u.hexChars) := if_pos length
  rw [parse?, text, String.toList_ofList, if_neg (by rw [length]; decide), unwrapped]
  dsimp only
  rw [plain]
  exact ofHexChars?_hexChars u

/-- Different identifiers have different texts. -/
theorem text_injective : Function.Injective text := by
  intro u v same
  rw [← Option.some_inj, ← parse?_text u, same, parse?_text]

end SyncHistory.Uuid
