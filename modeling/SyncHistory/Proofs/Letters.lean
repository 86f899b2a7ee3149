import Mathlib.Data.List.Forall2
import SyncHistory.Text

/-!
# Letters in either case

Names are compared in lower case. `Text.Alike` says what that amounts to without any conversion: the texts
have the same characters, but for the case of ASCII letters (`Text.sameLetters_iff`). A text that is like one
of letters alone is of letters alone, so it has no blanks around it (`Text.Alike.trim_eq`).
-/

namespace SyncHistory.Text

/-- The capital and the small form of one ASCII letter. -/
def Cases (capital small : Char) : Prop :=
  'A'.toNat ≤ capital.toNat ∧ capital.toNat ≤ 'Z'.toNat ∧ small.toNat = capital.toNat + 32

/-- One and the same character, or two cases of one ASCII letter. -/
def SameLetter (a b : Char) : Prop :=
  a = b ∨ Cases a b ∨ Cases b a

/-- The texts differ at most in the case of ASCII letters. -/
def Alike (a b : String) : Prop :=
  List.Forall₂ SameLetter a.toList b.toList

theorem toNat_toLower (c : Char) :
    c.toLower.toNat = if 'A'.toNat ≤ c.toNat ∧ c.toNat ≤ 'Z'.toNat then c.toNat + 32 else c.toNat := by
  have capital : (c.val ≥ 'A'.val ∧ c.val ≤ 'Z'.val) ↔ 'A'.toNat ≤ c.toNat ∧ c.toNat ≤ 'Z'.toNat :=
    Iff.rfl
  unfold Char.toLower
  split
  · rename_i h
    rw [if_pos (capital.mp h)]
    have bound : c.toNat ≤ 90 := (capital.mp h).2
    show (c.val + ('a'.val - 'A'.val)).toNat = c.val.toNat + 32
    rw [UInt32.toNat_add, Nat.mod_eq_of_lt]
    · rfl
    · show c.val.toNat + 32 < 2 ^ 32
      have : c.val.toNat ≤ 90 := bound
      omega
  · rename_i h
    rw [if_neg (mt capital.mpr h)]

theorem toLower_eq_toLower_iff {a b : Char} : a.toLower = b.toLower ↔ SameLetter a b := by
  have byNumber (c d : Char) : c = d ↔ c.toNat = d.toNat := Char.toNat_inj.symm
  simp only [SameLetter, Cases, byNumber, toNat_toLower, show 'A'.toNat = 65 from rfl,
    show 'Z'.toNat = 90 from rfl]
  split <;> split <;> omega

/-- Comparing texts in lower case is comparing them up to the case of letters. -/
theorem sameLetters_iff {a b : String} : sameLetters a b = true ↔ Alike a b := by
  rw [sameLetters, lower, lower, beq_iff_eq, String.ofList_inj, ← List.forall₂_eq_eq_eq,
    List.forall₂_map_left_iff, List.forall₂_map_right_iff]
  simp only [toLower_eq_toLower_iff, Alike]

theorem alike_iff_lower {a b : String} : Alike a b ↔ lower a = lower b :=
  sameLetters_iff.symm.trans beq_iff_eq

namespace Alike

theorem refl (a : String) : Alike a a :=
  alike_iff_lower.mpr rfl

theorem symm {a b : String} (h : Alike a b) : Alike b a :=
  alike_iff_lower.mpr (alike_iff_lower.mp h).symm

theorem trans {a b c : String} (ab : Alike a b) (bc : Alike b c) : Alike a c :=
  alike_iff_lower.mpr ((alike_iff_lower.mp ab).trans (alike_iff_lower.mp bc))

end Alike

/-! ## Words -/

theorem isAlpha_iff {c : Char} :
    c.isAlpha = true ↔ (65 ≤ c.toNat ∧ c.toNat ≤ 90) ∨ (97 ≤ c.toNat ∧ c.toNat ≤ 122) := by
  have upper : c.isUpper = true ↔ 65 ≤ c.toNat ∧ c.toNat ≤ 90 := decide_eq_true_iff
  have lower : c.isLower = true ↔ 97 ≤ c.toNat ∧ c.toNat ≤ 122 :=
    Bool.and_eq_true_iff.trans (and_congr decide_eq_true_iff decide_eq_true_iff)
  exact Bool.or_eq_true_iff.trans (or_congr upper lower)

theorem SameLetter.isAlpha {a b : Char} (same : SameLetter a b) (letter : a.isAlpha = true) :
    b.isAlpha = true := by
  rw [isAlpha_iff] at letter ⊢
  rcases same with rfl | ⟨least, greatest, small⟩ | ⟨least, greatest, small⟩
  · exact letter
  · have : 65 ≤ a.toNat ∧ a.toNat ≤ 90 := ⟨least, greatest⟩
    omega
  · have : 65 ≤ b.toNat ∧ b.toNat ≤ 90 := ⟨least, greatest⟩
    omega

theorem isBlank_of_isAlpha {c : Char} (letter : c.isAlpha = true) : isBlank c = false := by
  rw [isAlpha_iff] at letter
  simp only [isBlank, Bool.or_eq_false_iff, Bool.and_eq_false_iff, decide_eq_false_iff_not,
    beq_eq_false_iff_ne]
  omega

theorem trimStart_eq {cs : List Char} (solid : ∀ c ∈ cs, isBlank c = false) : trimStart cs = cs := by
  cases cs with
  | nil => rfl
  | cons c cs =>
    rw [trimStart, List.dropWhile_cons_of_neg]
    rw [solid c List.mem_cons_self]
    exact Bool.false_ne_true

/-- A text is of letters alone if it differs from such a text in their case at most. -/
theorem Alike.isAlpha {word s : String} (letters : ∀ c ∈ word.toList, c.isAlpha = true)
    (alike : Alike word s) : ∀ c ∈ s.toList, c.isAlpha = true := by
  unfold Alike at alike
  generalize word.toList = as, s.toList = bs at letters alike ⊢
  induction alike with
  | nil => exact letters
  | cons same _ ih =>
    obtain ⟨first, rest⟩ := List.forall_mem_cons.mp letters
    exact List.forall_mem_cons.mpr ⟨same.isAlpha first, ih rest⟩

/-- Trimming takes nothing from a word, in whatever case it is written. -/
theorem Alike.trim_eq {word s : String} (letters : ∀ c ∈ word.toList, c.isAlpha = true)
    (alike : Alike word s) : trim s = s := by
  have solid : ∀ c ∈ s.toList, isBlank c = false := by
    intro c mem
    exact isBlank_of_isAlpha (alike.isAlpha letters c mem)
  have reversed : ∀ c ∈ s.toList.reverse, isBlank c = false := by
    intro c mem
    exact solid c (List.mem_reverse.mp mem)
  rw [trim, trimStart_eq solid, trimStart_eq reversed, List.reverse_reverse, String.ofList_toList]

end SyncHistory.Text
