import Mathlib.Data.List.Forall2

/-!
# Computations that may fail

What it takes for a computation in `Except` to succeed or to fail: one that goes on after another
(`bind_eq_ok`, `bind_eq_error`), one that is behind a check (`check_eq_ok`, `check_eq_error`), one whose
result or failure is changed (`map_eq_ok`, `map_eq_error`, `mapError_eq_ok`), and several made one after the
other, which succeed if each of them does and else fail as the first one that fails (`mapM_eq_ok`,
`mapM_eq_error`). Computations in `Option` fail without saying why (`mapM_eq_some`).
-/

namespace SyncHistory

variable {ε α β γ : Type}

/-- A computation that goes on after another succeeds when both do. -/
theorem bind_eq_ok {x : Except ε α} {f : α → Except ε β} {b : β} :
    x >>= f = .ok b ↔ ∃ a, x = .ok a ∧ f a = .ok b := by
  cases x with
  | error e =>
    refine iff_of_false (fun h => ?_) fun ⟨_, h, _⟩ => ?_
    · cases h
    · cases h
  | ok a => exact ⟨fun h => ⟨a, rfl, h⟩, fun ⟨_, ha, h⟩ => by cases ha; exact h⟩

/-- It fails when the first one does, or when the second does after it. -/
theorem bind_eq_error {x : Except ε α} {f : α → Except ε β} {e : ε} :
    x >>= f = .error e ↔ x = .error e ∨ ∃ a, x = .ok a ∧ f a = .error e := by
  cases x with
  | error e' =>
    constructor
    · intro h
      cases h
      exact .inl rfl
    · rintro (h | ⟨_, h, _⟩)
      · cases h
        rfl
      · cases h
  | ok a =>
    constructor
    · exact fun h => .inr ⟨a, rfl, h⟩
    · rintro (h | ⟨_, h, failed⟩)
      · cases h
      · cases h
        exact failed

theorem check_eq_ok {c : Prop} [Decidable c] {e : ε} {x : Except ε β} {b : β} :
    (do
      if c then throw e
      x) = .ok b ↔ ¬ c ∧ x = .ok b := by
  by_cases h : c
  · rw [if_pos h]
    exact iff_of_false (fun h => by cases h) fun h' => h'.1 h
  · rw [if_neg h]
    exact (and_iff_right h).symm

theorem check_eq_error {c : Prop} [Decidable c] {e e' : ε} {x : Except ε β} :
    (do
      if c then throw e
      x) = .error e' ↔ (c ∧ e' = e) ∨ (¬ c ∧ x = .error e') := by
  by_cases h : c
  · simp only [h, if_true, true_and, not_true_eq_false, false_and, or_false]
    constructor
    · intro thrown
      cases thrown
      rfl
    · intro same
      rw [same]
      rfl
  · simp only [h, if_false, false_and, not_false_eq_true, true_and, false_or]

/-- Changing the result makes no difference to whether there is one. -/
theorem map_eq_ok {x : Except ε α} {f : α → β} {b : β} :
    x.map f = .ok b ↔ ∃ a, x = .ok a ∧ f a = b := by
  cases x with
  | error e =>
    refine iff_of_false (fun h => ?_) fun ⟨_, h, _⟩ => ?_
    · cases h
    · cases h
  | ok a =>
    constructor
    · intro h
      cases h
      exact ⟨a, rfl, rfl⟩
    · rintro ⟨_, h, rfl⟩
      cases h
      rfl

theorem map_eq_error {x : Except ε α} {f : α → β} {e : ε} : x.map f = .error e ↔ x = .error e := by
  cases x with
  | error e' =>
    constructor
    · intro h
      cases h
      rfl
    · intro h
      cases h
      rfl
  | ok a =>
    refine iff_of_false (fun h => ?_) fun h => ?_
    · cases h
    · cases h

/-- Putting a failure in other words makes no difference to what there is. -/
theorem mapError_eq_ok {ε' : Type} {x : Except ε α} {f : ε → ε'} {a : α} :
    x.mapError f = .ok a ↔ x = .ok a := by
  cases x with
  | ok b =>
    constructor
    · intro h
      cases h
      rfl
    · intro h
      cases h
      rfl
  | error e =>
    refine iff_of_false (fun h => ?_) fun h => ?_
    · cases h
    · cases h

/-- Computations made one after the other succeed with the results of each. -/
theorem mapM_eq_ok {f : α → Except ε β} {as : List α} {bs : List β} :
    as.mapM f = .ok bs ↔ List.Forall₂ (fun a b => f a = .ok b) as bs := by
  induction as generalizing bs with
  | nil =>
    constructor
    · intro done
      cases done
      exact .nil
    · intro each
      cases each
      rfl
  | cons a as ih =>
    rw [List.mapM_cons, List.forall₂_cons_left_iff]
    constructor
    · intro done
      obtain ⟨b, first, done⟩ := bind_eq_ok.mp done
      obtain ⟨rest, others, done⟩ := bind_eq_ok.mp done
      cases done
      exact ⟨b, rest, first, ih.mp others, rfl⟩
    · rintro ⟨b, rest, first, others, rfl⟩
      exact bind_eq_ok.mpr ⟨b, first, bind_eq_ok.mpr ⟨rest, ih.mpr others, rfl⟩⟩

/-- They succeed if each of them does. -/
theorem exists_mapM_eq_ok {f : α → Except ε β} {as : List α} :
    (∃ bs, as.mapM f = .ok bs) ↔ ∀ a ∈ as, ∃ b, f a = .ok b := by
  simp only [mapM_eq_ok]
  induction as with
  | nil => exact iff_of_true ⟨[], .nil⟩ fun a mem => nomatch mem
  | cons a as ih =>
    rw [List.forall_mem_cons, ← ih]
    constructor
    · rintro ⟨_, each⟩
      obtain ⟨b, bs, first, others, -⟩ := List.forall₂_cons_left_iff.mp each
      exact ⟨⟨b, first⟩, bs, others⟩
    · rintro ⟨⟨b, first⟩, bs, others⟩
      exact ⟨b :: bs, .cons first others⟩

/-- They fail as the first one that fails. -/
theorem mapM_eq_error {f : α → Except ε β} {as : List α} {e : ε} :
    as.mapM f = .error e ↔ ∃ before a after, as = before ++ a :: after ∧
      (∀ x ∈ before, ∃ b, f x = .ok b) ∧ f a = .error e := by
  induction as with
  | nil =>
    refine iff_of_false (fun failed => nomatch failed) ?_
    rintro ⟨before, a, after, split, -⟩
    exact List.append_ne_nil_of_right_ne_nil before (List.cons_ne_nil a after) split.symm
  | cons a as ih =>
    rw [List.mapM_cons, bind_eq_error]
    constructor
    · rintro (first | ⟨b, first, failed⟩)
      · exact ⟨[], a, as, rfl, List.forall_mem_nil _, first⟩
      · rcases bind_eq_error.mp failed with others | ⟨_, _, done⟩
        · obtain ⟨before, a', after, rfl, well, failed⟩ := ih.mp others
          exact ⟨a :: before, a', after, rfl, List.forall_mem_cons.mpr ⟨⟨b, first⟩, well⟩, failed⟩
        · cases done
    · rintro ⟨before, a', after, split, well, failed⟩
      cases before with
      | nil =>
        cases split
        exact .inl failed
      | cons _ before =>
        cases split
        obtain ⟨⟨b, first⟩, well⟩ := List.forall_mem_cons.mp well
        exact .inr ⟨b, first, bind_eq_error.mpr (.inl (ih.mpr ⟨before, a', after, rfl, well, failed⟩))⟩

/-- Computations made one after the other, each of which keeps something of its argument, keep all of it. -/
theorem map_of_mapM_eq_ok {f : α → Except ε β} {g : α → γ} {h : β → γ}
    (keeps : ∀ a b, f a = .ok b → h b = g a) {as : List α} {bs : List β}
    (done : as.mapM f = .ok bs) : bs.map h = as.map g := by
  induction mapM_eq_ok.mp done with
  | nil => rfl
  | cons first others ih => rw [List.map_cons, List.map_cons, keeps _ _ first, ih (mapM_eq_ok.mpr others)]

/-- If computations made one after the other fail, one of them does, and that is the failure. -/
theorem exists_of_mapM_eq_error {f : α → Except ε β} {as : List α} {e : ε}
    (failed : as.mapM f = .error e) : ∃ a ∈ as, f a = .error e := by
  obtain ⟨before, a, after, rfl, -, failed⟩ := mapM_eq_error.mp failed
  exact ⟨a, List.mem_append_right before List.mem_cons_self, failed⟩

/-- What goes on after something is known goes on with that. -/
theorem bind_of_eq_some {x : Option α} {a : α} (known : x = some a) {f : α → Option β} : x.bind f = f a :=
  known ▸ rfl

/-- Every element leads to something where the list of all of them does. -/
theorem mapM_eq_some {f : α → Option β} {as : List α} {bs : List β} :
    as.mapM f = some bs ↔ List.Forall₂ (fun a b => f a = some b) as bs := by
  induction as generalizing bs with
  | nil =>
    constructor
    · intro done
      cases done
      exact .nil
    · intro each
      cases each
      rfl
  | cons a as ih =>
    rw [List.mapM_cons, List.forall₂_cons_left_iff]
    constructor
    · intro done
      obtain ⟨b, first, done⟩ := Option.bind_eq_some_iff.mp done
      obtain ⟨rest, others, done⟩ := Option.bind_eq_some_iff.mp done
      cases done
      exact ⟨b, rest, first, ih.mp others, rfl⟩
    · rintro ⟨b, rest, first, others, rfl⟩
      exact Option.bind_eq_some_iff.mpr ⟨b, first, Option.bind_eq_some_iff.mpr ⟨rest, ih.mpr others, rfl⟩⟩

end SyncHistory
