import SyncHistory.Inquiry

/-!
# Conversations

Whoever answers the questions of a program may answer differently each time. What a program does is
therefore said of a conversation, the questions that were asked with the answers that were given:
`Prog.Converses` relates a program to the conversations that it can have and to what it comes to in each.
Nothing but the answers is open in a conversation (`Prog.Converses.unique`), at its result it is over
(`Prog.Converses.endsIn`), and every run against somebody who answers is one
(`Prog.converses_transcript`), whatever that depends on. Who answers may in turn have to ask somebody
else (`Prog.exists_converses_of_run`).

An inquiry ends at its first failure, so a conversation of two inquiries in a row is one of the first
that fails, or one of each (`Inquiry.converses_bind_ok`, `Inquiry.converses_bind_error`).
-/

namespace SyncHistory

/-- A question with the answer that was given. -/
abbrev Exchange (I : Interface) : Type := (q : I.Query) × I.Answer q

namespace Prog

variable {I J : Interface} {α β σ : Type}

/-- In the conversation the program asks every question, in order, and comes to a result. -/
inductive Converses : Prog I α → List (Exchange I) → α → Prop
  | done (a : α) : Converses (.done a) [] a
  | ask {q : I.Query} {k : I.Answer q → Prog I α} {r : I.Answer q} {t : List (Exchange I)} {a : α}
      (rest : Converses (k r) t a) : Converses (.ask q k) (⟨q, r⟩ :: t) a

@[simp] theorem converses_done {a b : α} {t : List (Exchange I)} :
    (done a).Converses t b ↔ t = [] ∧ b = a := by
  constructor
  · rintro ⟨⟩
    exact ⟨rfl, rfl⟩
  · rintro ⟨rfl, rfl⟩
    exact .done b

theorem converses_ask {q : I.Query} {k : I.Answer q → Prog I α} {t : List (Exchange I)} {a : α} :
    (ask q k).Converses t a ↔ ∃ r t', t = ⟨q, r⟩ :: t' ∧ (k r).Converses t' a := by
  constructor
  · rintro ⟨⟩
    rename_i rest
    exact ⟨_, _, rfl, rest⟩
  · rintro ⟨r, t', rfl, rest⟩
    exact .ask rest

/-- The conversation of two programs in a row is one of each. -/
theorem converses_bind {p : Prog I α} {f : α → Prog I β} {t : List (Exchange I)} {b : β} :
    (p.bind f).Converses t b ↔
      ∃ t₁ t₂ a, t = t₁ ++ t₂ ∧ p.Converses t₁ a ∧ (f a).Converses t₂ b := by
  induction p generalizing t with
  | done a =>
    constructor
    · exact fun h => ⟨[], t, a, rfl, .done a, h⟩
    · rintro ⟨t₁, t₂, a', rfl, h₁, h₂⟩
      obtain ⟨rfl, rfl⟩ := converses_done.mp h₁
      exact h₂
  | ask q k ih =>
    rw [bind_ask, converses_ask]
    -- the question belongs to the first program, whose part of the conversation it begins
    constructor
    · rintro ⟨r, t', rfl, h⟩
      obtain ⟨t₁, t₂, a, rfl, h₁, h₂⟩ := (ih r).mp h
      exact ⟨⟨q, r⟩ :: t₁, t₂, a, rfl, .ask h₁, h₂⟩
    · rintro ⟨t₁, t₂, a, rfl, h₁, h₂⟩
      obtain ⟨r, t', rfl, rest⟩ := converses_ask.mp h₁
      exact ⟨r, t' ++ t₂, rfl, (ih r).mpr ⟨t', t₂, a, rfl, rest, h₂⟩⟩

theorem Converses.unique {p : Prog I α} {t : List (Exchange I)} {a b : α} (ha : p.Converses t a)
    (hb : p.Converses t b) : a = b := by
  induction ha with
  | done a => exact (converses_done.mp hb).2.symm
  | ask _ ih =>
    obtain ⟨r, t', same, hb⟩ := converses_ask.mp hb
    cases same
    exact ih hb

theorem converses_ask_cons {q : I.Query} {k : I.Answer q → Prog I α} {r : I.Answer q}
    {t : List (Exchange I)} {a : α} : (ask q k).Converses (⟨q, r⟩ :: t) a ↔ (k r).Converses t a := by
  constructor
  · intro comes
    cases comes with
    | ask rest => exact rest
  · exact .ask

/-- The program comes to the result in the conversation and asks nothing after it. -/
def EndsIn (p : Prog I α) (t : List (Exchange I)) (a : α) : Prop :=
  ∀ more b, p.Converses (t ++ more) b ↔ more = [] ∧ b = a

/-- A conversation that has come to a result is over. -/
theorem Converses.endsIn {p : Prog I α} {t : List (Exchange I)} {a : α} (comes : p.Converses t a) :
    p.EndsIn t a := by
  intro more b
  induction comes with
  | done a => exact converses_done
  | ask _ ih => exact converses_ask_cons.trans ih

/-- The conversation with somebody whose answers depend on a state. -/
def transcript (answer : (q : I.Query) → StateM σ (I.Answer q)) : Prog I α → σ → List (Exchange I)
  | done _, _ => []
  | ask q k, s => ⟨q, ((answer q).run s).1⟩ ::
      transcript answer (k ((answer q).run s).1) ((answer q).run s).2

theorem converses_transcript (answer : (q : I.Query) → StateM σ (I.Answer q)) (p : Prog I α) (s : σ) :
    p.Converses (p.transcript answer s) ((p.run answer).run s).1 := by
  induction p generalizing s with
  | done a => exact .done a
  | ask q k ih => exact .ask (ih _ _)

/-- A function that knows every answer gives those of a conversation. -/
theorem exists_converses_eval (answer : (q : I.Query) → I.Answer q) (p : Prog I α) :
    ∃ t, p.Converses t (p.eval answer) ∧ ∀ x ∈ t, x.2 = answer x.1 := by
  induction p with
  | done a => exact ⟨[], .done a, fun _ mem => by cases mem⟩
  | ask q k ih =>
    obtain ⟨t, h, same⟩ := ih (answer q)
    exact ⟨⟨q, answer q⟩ :: t, .ask h, List.forall_mem_cons.mpr ⟨rfl, same⟩⟩

/-- Where every question of a program is answered by a program of another interface, the first one comes
to its result in a conversation whose answers the other ones come to. -/
theorem exists_converses_of_run {answer : (q : I.Query) → Prog J (I.Answer q)} {p : Prog I α}
    {t : List (Exchange J)} {a : α} (comes : (p.run answer).Converses t a) :
    ∃ u, p.Converses u a ∧ ∀ x ∈ u, ∃ part, part.Sublist t ∧ (answer x.1).Converses part x.2 := by
  induction p generalizing t with
  | done b =>
    obtain ⟨-, rfl⟩ := converses_done.mp comes
    exact ⟨[], .done a, fun _ mem => by cases mem⟩
  | ask q k ih =>
    -- first the other program answers the question, then the rest runs on its answer
    obtain ⟨part, rest, r, rfl, answered, comes⟩ := converses_bind.mp comes
    obtain ⟨u, converses, parts⟩ := ih r comes
    refine ⟨⟨q, r⟩ :: u, .ask converses, List.forall_mem_cons.mpr ⟨?_, fun x mem => ?_⟩⟩
    · exact ⟨part, List.sublist_append_left part rest, answered⟩
    · obtain ⟨part', sub, answered'⟩ := parts x mem
      exact ⟨part', sub.trans (List.sublist_append_right part rest), answered'⟩

end Prog

namespace Inquiry

variable {α β : Type}

/-- In the conversation the inquiry comes to an outcome. -/
def Converses (p : Inquiry α) (t : List (Exchange surroundings)) (outcome : Except HistoryError α) :
    Prop :=
  (ExceptT.run p).Converses t outcome

theorem converses_pure {a : α} {t : List (Exchange surroundings)} {outcome : Except HistoryError α} :
    Converses (pure a) t outcome ↔ t = [] ∧ outcome = .ok a :=
  Prog.converses_done

theorem converses_throw {e : HistoryError} {t : List (Exchange surroundings)}
    {outcome : Except HistoryError α} :
    Converses (throw e) t outcome ↔ t = [] ∧ outcome = .error e :=
  Prog.converses_done

variable {p : Inquiry α} {f : α → Inquiry β} {t : List (Exchange surroundings)}

/-- A conversation of two inquiries in a row comes to a result where each of them does. -/
theorem converses_bind_ok {b : β} :
    Converses (p >>= f) t (.ok b) ↔
      ∃ t₁ t₂ a, t = t₁ ++ t₂ ∧ p.Converses t₁ (.ok a) ∧ (f a).Converses t₂ (.ok b) := by
  refine Prog.converses_bind.trans ?_
  constructor
  · rintro ⟨t₁, t₂, found, rfl, h₁, h₂⟩
    cases found with
    | ok a => exact ⟨t₁, t₂, a, rfl, h₁, h₂⟩
    | error e => cases (Prog.converses_done.mp h₂).2
  · rintro ⟨t₁, t₂, a, rfl, h₁, h₂⟩
    exact ⟨t₁, t₂, .ok a, rfl, h₁, h₂⟩

/-- It fails where the first of them does, or where the second does after it. -/
theorem converses_bind_error {e : HistoryError} :
    Converses (p >>= f) t (.error e) ↔ p.Converses t (.error e) ∨
      ∃ t₁ t₂ a, t = t₁ ++ t₂ ∧ p.Converses t₁ (.ok a) ∧ (f a).Converses t₂ (.error e) := by
  refine Prog.converses_bind.trans ?_
  constructor
  · rintro ⟨t₁, t₂, found, rfl, h₁, h₂⟩
    cases found with
    | ok a => exact .inr ⟨t₁, t₂, a, rfl, h₁, h₂⟩
    | error e' =>
      obtain ⟨rfl, same⟩ := Prog.converses_done.mp h₂
      cases same
      rw [List.append_nil]
      exact .inl h₁
  · rintro (h | ⟨t₁, t₂, a, rfl, h₁, h₂⟩)
    · exact ⟨t, [], .error e, (List.append_nil t).symm, h, .done _⟩
    · exact ⟨t₁, t₂, .ok a, rfl, h₁, h₂⟩

end Inquiry

end SyncHistory
