import SyncHistory.Listing
import SyncHistory.Proofs.Failure
import SyncHistory.Proofs.Letters

/-!
# Words of a request

Statuses, fields to order by and directions are named by words. What a word is read as is the one thing whose
name it is, a status or a direction in whatever case, a field exactly; a word that names nothing is reported as
it is written.
-/

namespace SyncHistory

/-! ## Looking up -/

/-- Where a test holds of one element at most, it finds that element. -/
theorem find?_eq_some_iff_of_unique {α : Type} {as : List α} {p : α → Bool} {a : α} (mem : a ∈ as)
    (unique : ∀ b, p b = true → p a = true → b = a) : as.find? p = some a ↔ p a = true := by
  constructor
  · exact List.find?_some
  · intro holds
    cases found : as.find? p with
    | none => exact absurd holds (List.find?_eq_none.mp found a mem)
    | some b => rw [unique b (List.find?_some found) holds]

section Found

variable {ε α : Type} {found : Option α} {fault e : ε} {a : α}

theorem elim_eq_ok : found.elim (Except.error fault) .ok = .ok a ↔ found = some a := by
  cases found with
  | some b => simp only [Option.elim_some, Except.ok.injEq, Option.some.injEq]
  | none => simp only [Option.elim_none, reduceCtorEq]

theorem elim_eq_error :
    found.elim (Except.error fault) .ok = .error e ↔ (¬ ∃ a, found = some a) ∧ e = fault := by
  cases found with
  | some b =>
    simp only [Option.elim_some, reduceCtorEq, Option.some.injEq, exists_eq', not_true_eq_false, false_and]
  | none =>
    simp only [Option.elim_none, Except.error.injEq, reduceCtorEq, exists_false, not_false_eq_true, true_and]
    exact eq_comm

end Found

/-! ## Statuses -/

namespace StatusToken

theorem name_toJobStatus (s : StatusToken) : s.toJobStatus.name = s.name := by
  cases s <;> rfl

theorem toJobStatus_surjective : Function.Surjective toJobStatus := by
  intro s
  cases s with
  | pending => exact ⟨.pending, rfl⟩
  | running => exact ⟨.running, rfl⟩
  | incomplete => exact ⟨.incomplete, rfl⟩
  | failed => exact ⟨.failed, rfl⟩
  | succeeded => exact ⟨.succeeded, rfl⟩
  | cancelled => exact ⟨.cancelled, rfl⟩

theorem toJobStatus_injective : Function.Injective toJobStatus := by
  intro s t same
  cases s <;> cases t <;> first | rfl | exact absurd same (by decide)

theorem lower_name (s : StatusToken) : Text.lower s.name = s.name := by
  cases s <;> decide +kernel

theorem name_injective : Function.Injective name := by
  intro s t same
  cases s <;> cases t <;> first | rfl | exact absurd same (by decide)

theorem mem_all (s : StatusToken) : s ∈ all := by
  cases s <;> decide

theorem find?_eq_some {token : String} {s : StatusToken} :
    (all.find? fun s => Text.sameLetters s.name token) = some s ↔ Text.Alike s.name token := by
  have unique (t : StatusToken) (ht : Text.sameLetters t.name token = true)
      (hs : Text.sameLetters s.name token = true) : t = s := by
    have same := (Text.sameLetters_iff.mp ht).trans (Text.sameLetters_iff.mp hs).symm
    rw [Text.alike_iff_lower, lower_name, lower_name] at same
    exact name_injective same
  rw [← Text.sameLetters_iff]
  exact find?_eq_some_iff_of_unique (mem_all s) unique

theorem parse_eq (token : String) : parse token =
    (all.find? fun s => Text.sameLetters s.name token).elim (.error (.unrecognizedStatus token)) .ok := by
  unfold parse
  cases all.find? fun s => Text.sameLetters s.name token <;> rfl

theorem parse_eq_ok {token : String} {s : StatusToken} :
    parse token = .ok s ↔ Text.Alike s.name token := by
  rw [parse_eq, elim_eq_ok, find?_eq_some]

theorem parse_eq_error {token : String} {e : HistoryError} : parse token = .error e ↔
    (¬ ∃ s : StatusToken, Text.Alike s.name token) ∧ e = .unrecognizedStatus token := by
  rw [parse_eq, elim_eq_error]
  simp only [find?_eq_some]

end StatusToken

namespace JobStatus

/-- The token names a status, in whatever case. -/
def Names (token : String) : Prop :=
  ∃ s : JobStatus, Text.Alike s.name token

theorem letters (s : JobStatus) : ∀ c ∈ s.name.toList, c.isAlpha = true := by
  have all : s.name.toList.all Char.isAlpha = true := by
    cases s <;> decide +kernel
  exact List.all_eq_true.mp all

/-- A token with blanks around it names no status. -/
theorem Names.trim_eq {token : String} (names : Names token) : Text.trim token = token := by
  obtain ⟨s, alike⟩ := names
  exact alike.trim_eq s.letters

/-- A token is read as the status whose name it is. -/
theorem ofToken_eq_ok {token : String} {s : JobStatus} :
    (StatusToken.parse token).map StatusToken.toJobStatus = .ok s ↔ Text.Alike s.name token := by
  obtain ⟨t, rfl⟩ := StatusToken.toJobStatus_surjective s
  rw [map_eq_ok, StatusToken.name_toJobStatus, ← StatusToken.parse_eq_ok]
  constructor
  · rintro ⟨t', parsed, same⟩
    rwa [← StatusToken.toJobStatus_injective same]
  · intro parsed
    exact ⟨t, parsed, rfl⟩

theorem ofToken_eq_error {token : String} {e : HistoryError} :
    (StatusToken.parse token).map StatusToken.toJobStatus = .error e ↔
      ¬ Names token ∧ e = .unrecognizedStatus token := by
  have named : Names token ↔ ∃ t : StatusToken, Text.Alike t.name token := by
    simp only [← StatusToken.name_toJobStatus]
    exact StatusToken.toJobStatus_surjective.exists
  rw [map_eq_error, named, StatusToken.parse_eq_error]

/-- The statuses are those that the tokens name, one for each and in their order. -/
theorem ofTokens_eq_ok {tokens : List String} {statuses : List JobStatus} :
    ofTokens tokens = .ok statuses ↔
      List.Forall₂ (fun token (s : JobStatus) => Text.Alike s.name token) tokens statuses := by
  rw [ofTokens, mapM_eq_ok]
  simp only [ofToken_eq_ok]

/-- The first token that names no status is the failure, as it is written. -/
theorem ofTokens_eq_error {tokens : List String} {e : HistoryError} :
    ofTokens tokens = .error e ↔ ∃ known token rest, tokens = known ++ token :: rest ∧
      (∀ t ∈ known, Names t) ∧ ¬ Names token ∧ e = .unrecognizedStatus token := by
  rw [ofTokens, mapM_eq_error]
  simp only [ofToken_eq_ok, ofToken_eq_error, Names]

end JobStatus

/-! ## Fields and directions -/

namespace OrderField

/-- The word is the name of a field. -/
def Names (word : String) : Prop :=
  word = "createdAt" ∨ word = "updatedAt"

theorem name_injective : Function.Injective name := by
  intro f g same
  cases f <;> cases g <;> first | rfl | exact absurd same (by decide)

theorem names_iff {word : String} : Names word ↔ ∃ f : OrderField, f.name = word := by
  constructor
  · rintro (rfl | rfl)
    · exact ⟨.createdAt, rfl⟩
    · exact ⟨.updatedAt, rfl⟩
  · rintro ⟨f, rfl⟩
    cases f with
    | createdAt => exact .inl rfl
    | updatedAt => exact .inr rfl

theorem find?_eq_some {word : String} {f : OrderField} :
    ([createdAt, updatedAt].find? fun f => f.name == word) = some f ↔ f.name = word := by
  have mem : f ∈ [createdAt, updatedAt] := by cases f <;> decide
  have unique (g : OrderField) (hg : (g.name == word) = true) (hf : (f.name == word) = true) : g = f := by
    rw [beq_iff_eq] at hg hf
    exact name_injective (hg.trans hf.symm)
  rw [find?_eq_some_iff_of_unique mem unique, beq_iff_eq]

theorem parse_eq (word : String) : parse word =
    ([createdAt, updatedAt].find? fun f => f.name == word).elim
      (.error (.invalidArgument (.unknownOrderField word))) .ok := by
  unfold parse
  cases [createdAt, updatedAt].find? fun f => f.name == word <;> rfl

theorem parse_eq_ok {word : String} {f : OrderField} : parse word = .ok f ↔ f.name = word := by
  rw [parse_eq, elim_eq_ok, find?_eq_some]

theorem parse_eq_error {word : String} {e : HistoryError} :
    parse word = .error e ↔ ¬ Names word ∧ e = .invalidArgument (.unknownOrderField word) := by
  rw [parse_eq, elim_eq_error, names_iff]
  simp only [find?_eq_some]

end OrderField

namespace Direction

/-- The word is the name of a direction, in whatever case. -/
def Names (word : String) : Prop :=
  Text.Alike "asc" word ∨ Text.Alike "desc" word

theorem name_eq_of_alike {d d' : Direction} (alike : Text.Alike d.name d'.name) : d = d' := by
  rw [Text.alike_iff_lower] at alike
  cases d <;> cases d' <;> first | rfl | exact absurd alike (by decide +kernel)

theorem names_iff {word : String} : Names word ↔ ∃ d : Direction, Text.Alike d.name word := by
  have asc : Text.Alike "asc" Direction.ascending.name := Text.alike_iff_lower.mpr (by decide +kernel)
  have desc : Text.Alike "desc" Direction.descending.name := Text.alike_iff_lower.mpr (by decide +kernel)
  constructor
  · rintro (alike | alike)
    · exact ⟨.ascending, asc.symm.trans alike⟩
    · exact ⟨.descending, desc.symm.trans alike⟩
  · rintro ⟨d, alike⟩
    cases d with
    | ascending => exact .inl (asc.trans alike)
    | descending => exact .inr (desc.trans alike)

theorem find?_eq_some {word : String} {d : Direction} :
    ([ascending, descending].find? fun d => Text.sameLetters d.name word) = some d ↔
      Text.Alike d.name word := by
  have mem : d ∈ [ascending, descending] := by cases d <;> decide
  have unique (d' : Direction) (hd' : Text.sameLetters d'.name word = true)
      (hd : Text.sameLetters d.name word = true) : d' = d :=
    name_eq_of_alike ((Text.sameLetters_iff.mp hd').trans (Text.sameLetters_iff.mp hd).symm)
  rw [find?_eq_some_iff_of_unique mem unique, Text.sameLetters_iff]

theorem parse_eq (word : String) : parse word =
    ([ascending, descending].find? fun d => Text.sameLetters d.name word).elim
      (.error (.invalidArgument (.unknownDirection word))) .ok := by
  unfold parse
  cases [ascending, descending].find? fun d => Text.sameLetters d.name word <;> rfl

theorem parse_eq_ok {word : String} {d : Direction} : parse word = .ok d ↔ Text.Alike d.name word := by
  rw [parse_eq, elim_eq_ok, find?_eq_some]

theorem parse_eq_error {word : String} {e : HistoryError} :
    parse word = .error e ↔ ¬ Names word ∧ e = .invalidArgument (.unknownDirection word) := by
  rw [parse_eq, elim_eq_error, names_iff]
  simp only [find?_eq_some]

end Direction

end SyncHistory
