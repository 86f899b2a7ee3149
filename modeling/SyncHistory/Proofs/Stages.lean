import SyncHistory.Proofs.Conversation

/-!
# Stages of an inquiry

What an inquiry goes through is a list of stages: a question is asked and answered, or the owner of a job
is read off its scope. Which stages have failed, and with which failure, is said of each alone
(`Stage.failure?`). `Stage.Passed` and `Stage.FailsFirst` say what is asked in the course of given stages,
when all of them go well and when one of them is the first to fail: nothing is asked after that one.

`Inquiry.Follows` says that an inquiry goes through stages that are laid out for it; inquiries in a row
follow the stages of one and then those of the other (`Inquiry.Follows.bind`).
-/

namespace SyncHistory

/-- The failure that an answer amounts to, if it does. -/
def Question.failure? : (q : Question) → q.Answer → Option HistoryError
  | .jobs (.get id), .ok none => some (.notFound .job (Digits.intText id))
  | .jobs _, .ok _ => none
  | .jobs _, .error e => some e
  | .connectors _, .ok _ => none
  | .connectors q, .error (.notFound _ _) => some (.notFound q.entity q.id.text)
  | .connectors q, .error (.invalidConfiguration _ reason) =>
    some (.validation q.entity q.id.text reason)
  | .connectors q, .error (.unavailable reason) => some (.transient (.lookup q.entity reason))
  | .workflow _, .ok _ => none
  | .workflow _, .error e => some (.transient (.workflowState e.message))
  | .file _, .missing => none
  | .file _, .text _ => none
  | .file path, .fault fault => some (.transient (.logFile path fault))

/-- One stage of an inquiry. -/
inductive Stage where
  | asked (q : Question) (answer : q.Answer)
  | owner (scope : String)

namespace Stage

/-- What the stage is about: a question, or the scope of a job. -/
def subject : Stage → Question ⊕ String
  | asked q _ => .inl q
  | owner scope => .inr scope

/-- The failure of the stage, if it has failed. A scope that is no identifier is that of a connection
which does not exist. -/
def failure? : Stage → Option HistoryError
  | asked q answer => q.failure? answer
  | owner scope =>
    match Uuid.parse? scope with
    | some _ => none
    | none => some (.notFound .connection scope)

/-- What is said in the stage. -/
def exchanges : Stage → List (Exchange surroundings)
  | asked q answer => [⟨q, answer⟩]
  | owner _ => []

variable {stages s₁ s₂ : List Stage} {stage : Stage} {t : List (Exchange surroundings)}
  {e : HistoryError}

/-- All stages go well, and the conversation is what is said in them. -/
def Passed (stages : List Stage) (t : List (Exchange surroundings)) : Prop :=
  (∀ stage ∈ stages, stage.failure? = none) ∧ t = stages.flatMap exchanges

/-- One stage fails that is about the same as the one laid out in its place, all stages before it go well,
and the conversation is what is said in these and in the one that fails. -/
def FailsFirst (stages : List Stage) (t : List (Exchange surroundings)) (e : HistoryError) : Prop :=
  ∃ (passed : List Stage) (laidOut : Stage) (rest : List Stage) (failed : Stage)
      (t₁ : List (Exchange surroundings)), stages = passed ++ laidOut :: rest ∧ Passed passed t₁ ∧
    failed.subject = laidOut.subject ∧ failed.failure? = some e ∧ t = t₁ ++ failed.exchanges

@[simp] theorem passed_nil : Passed [] t ↔ t = [] :=
  and_iff_right fun _ mem => by cases mem

@[simp] theorem passed_singleton :
    Passed [stage] t ↔ stage.failure? = none ∧ t = stage.exchanges := by
  rw [Passed, List.forall_mem_singleton, List.flatMap_singleton]

theorem passed_append :
    Passed (s₁ ++ s₂) t ↔ ∃ t₁ t₂, t = t₁ ++ t₂ ∧ Passed s₁ t₁ ∧ Passed s₂ t₂ := by
  constructor
  · rintro ⟨well, rfl⟩
    refine ⟨_, _, List.flatMap_append, ⟨fun stage mem => ?_, rfl⟩, fun stage mem => ?_, rfl⟩
    · exact well stage (List.mem_append_left s₂ mem)
    · exact well stage (List.mem_append_right s₁ mem)
  · rintro ⟨_, _, rfl, ⟨well₁, rfl⟩, well₂, rfl⟩
    exact ⟨List.forall_mem_append.mpr ⟨well₁, well₂⟩, List.flatMap_append.symm⟩

/-- Every question of the stages is in the conversation. -/
theorem Passed.mem (passed : Passed stages t) {q : Question} {answer : q.Answer}
    (stage : .asked q answer ∈ stages) : (⟨q, answer⟩ : Exchange surroundings) ∈ t := by
  rw [passed.2]
  exact List.mem_flatMap.mpr ⟨_, stage, List.mem_singleton_self _⟩

@[simp] theorem failsFirst_nil : ¬ FailsFirst [] t e := by
  rintro ⟨passed, laidOut, rest, failed, t₁, same, -⟩
  exact List.append_ne_nil_of_right_ne_nil passed (List.cons_ne_nil laidOut rest) same.symm

@[simp] theorem failsFirst_singleton :
    FailsFirst [stage] t e ↔
      ∃ failed : Stage, failed.subject = stage.subject ∧ failed.failure? = some e ∧
        t = failed.exchanges := by
  constructor
  · rintro ⟨passed, laidOut, rest, failed, t₁, same, well, subject, failure, rfl⟩
    obtain ⟨rfl, rfl, rfl⟩ : passed = [] ∧ laidOut = stage ∧ rest = [] := by
      cases passed with
      | nil =>
        cases same
        exact ⟨rfl, rfl, rfl⟩
      | cons first passed =>
        exact absurd (List.cons.inj same).2.symm
          (List.append_ne_nil_of_right_ne_nil passed (List.cons_ne_nil laidOut rest))
    rw [passed_nil.mp well]
    exact ⟨failed, subject, failure, rfl⟩
  · rintro ⟨failed, subject, failure, rfl⟩
    exact ⟨[], stage, [], failed, [], rfl, passed_nil.mpr rfl, subject, failure, rfl⟩

theorem failsFirst_owner {scope : String} :
    FailsFirst [.owner scope] t e ↔ (owner scope).failure? = some e ∧ t = [] := by
  rw [failsFirst_singleton]
  constructor
  · rintro ⟨failed, subject, failure, rfl⟩
    cases failed with
    | asked q r => cases subject
    | owner scope =>
      cases subject
      exact ⟨failure, rfl⟩
  · rintro ⟨failure, rfl⟩
    exact ⟨_, rfl, failure, rfl⟩

/-- The first stage to fail is one of the first list, or one of the second when the first goes well. -/
theorem failsFirst_append :
    FailsFirst (s₁ ++ s₂) t e ↔
      FailsFirst s₁ t e ∨ ∃ t₁ t₂, t = t₁ ++ t₂ ∧ Passed s₁ t₁ ∧ FailsFirst s₂ t₂ e := by
  constructor
  · rintro ⟨passed, laidOut, rest, failed, t₁, same, well, subject, failure, rfl⟩
    rcases List.append_eq_append_iff.mp same with ⟨between, rfl, rfl⟩ | ⟨between, rfl, within⟩
    · -- the failure lies behind the first list
      obtain ⟨u₁, u₂, rfl, well₁, well₂⟩ := passed_append.mp well
      exact .inr ⟨u₁, u₂ ++ failed.exchanges, List.append_assoc .., well₁,
        between, laidOut, rest, failed, u₂, rfl, well₂, subject, failure, rfl⟩
    · cases between with
      | nil =>
        subst within
        rw [List.append_nil]
        exact .inr ⟨t₁, failed.exchanges, rfl, well, [], laidOut, rest, failed, [], rfl,
          passed_nil.mpr rfl, subject, failure, rfl⟩
      | cons first between =>
        cases within
        exact .inl ⟨passed, laidOut, between, failed, t₁, rfl, well, subject, failure, rfl⟩
  · rintro (⟨passed, laidOut, rest, failed, t₁, rfl, well, subject, failure, rfl⟩ |
      ⟨u₁, _, rfl, well₁, passed, laidOut, rest, failed, u₂, rfl, well₂, subject, failure, rfl⟩)
    · exact ⟨passed, laidOut, rest ++ s₂, failed, t₁, List.append_assoc .., well, subject, failure, rfl⟩
    · exact ⟨s₁ ++ passed, laidOut, rest, failed, u₁ ++ u₂, (List.append_assoc ..).symm,
        passed_append.mpr ⟨u₁, u₂, rfl, well₁, well₂⟩, subject, failure, (List.append_assoc ..).symm⟩

end Stage

/-- Which stages lead to which result, if all of them go well. -/
abbrev StagePlan (α : Type) : Type := List Stage → α → Prop

namespace StagePlan

variable {α β : Type}

/-- The stages of one plan and then those of another, which may depend on the first result. -/
def bind (plan : StagePlan α) (next : α → StagePlan β) : StagePlan β :=
  fun stages b => ∃ s₁ s₂ a, stages = s₁ ++ s₂ ∧ plan s₁ a ∧ next a s₂ b

end StagePlan

namespace Inquiry

variable {α β : Type}

/-- The inquiry goes through the stages of a plan. It comes to the result of stages that all go well, and
to the failure of the first one that does not. -/
structure Follows (p : Inquiry α) (plan : StagePlan α) : Prop where
  planned : ∃ stages a, plan stages a
  ok : ∀ {t a}, p.Converses t (.ok a) ↔ ∃ stages, plan stages a ∧ Stage.Passed stages t
  error : ∀ {t e}, p.Converses t (.error e) ↔ ∃ stages a, plan stages a ∧ Stage.FailsFirst stages t e

namespace Follows

theorem congr {p : Inquiry α} {plan plan' : StagePlan α} (h : p.Follows plan)
    (same : ∀ stages a, plan stages a ↔ plan' stages a) : p.Follows plan' := by
  have : plan = plan' := funext fun stages => funext fun a => propext (same stages a)
  rwa [← this]

theorem pure (a : α) : (Pure.pure a : Inquiry α).Follows fun stages b => stages = [] ∧ b = a where
  planned := ⟨[], a, rfl, rfl⟩
  ok {t b} := by
    rw [converses_pure]
    constructor
    · rintro ⟨rfl, same⟩
      cases same
      exact ⟨[], ⟨rfl, rfl⟩, Stage.passed_nil.mpr rfl⟩
    · rintro ⟨_, ⟨rfl, rfl⟩, passed⟩
      exact ⟨Stage.passed_nil.mp passed, rfl⟩
  error {t e} := by
    rw [converses_pure]
    constructor
    · rintro ⟨_, same⟩
      cases same
    · rintro ⟨_, b, ⟨rfl, rfl⟩, failed⟩
      exact absurd failed Stage.failsFirst_nil

/-- Inquiries in a row go through the stages of the first, and then of the second. -/
theorem bind {p : Inquiry α} {f : α → Inquiry β} {plan : StagePlan α} {next : α → StagePlan β}
    (first : p.Follows plan) (second : ∀ a, (f a).Follows (next a)) :
    (p >>= f).Follows (plan.bind next) where
  planned := by
    obtain ⟨s₁, a, h₁⟩ := first.planned
    obtain ⟨s₂, b, h₂⟩ := (second a).planned
    exact ⟨s₁ ++ s₂, b, s₁, s₂, a, rfl, h₁, h₂⟩
  ok {t b} := by
    rw [converses_bind_ok]
    constructor
    · rintro ⟨t₁, t₂, a, rfl, h₁, h₂⟩
      obtain ⟨s₁, planned₁, passed₁⟩ := first.ok.mp h₁
      obtain ⟨s₂, planned₂, passed₂⟩ := (second a).ok.mp h₂
      exact ⟨s₁ ++ s₂, ⟨s₁, s₂, a, rfl, planned₁, planned₂⟩,
        Stage.passed_append.mpr ⟨t₁, t₂, rfl, passed₁, passed₂⟩⟩
    · rintro ⟨_, ⟨s₁, s₂, a, rfl, planned₁, planned₂⟩, passed⟩
      obtain ⟨t₁, t₂, rfl, passed₁, passed₂⟩ := Stage.passed_append.mp passed
      exact ⟨t₁, t₂, a, rfl, first.ok.mpr ⟨s₁, planned₁, passed₁⟩,
        (second a).ok.mpr ⟨s₂, planned₂, passed₂⟩⟩
  error {t e} := by
    rw [converses_bind_error]
    constructor
    · rintro (h | ⟨t₁, t₂, a, rfl, h₁, h₂⟩)
      · -- what would have followed is laid out, although nobody gets there
        obtain ⟨s₁, a, planned₁, failed⟩ := first.error.mp h
        obtain ⟨s₂, b, planned₂⟩ := (second a).planned
        exact ⟨s₁ ++ s₂, b, ⟨s₁, s₂, a, rfl, planned₁, planned₂⟩,
          Stage.failsFirst_append.mpr (.inl failed)⟩
      · obtain ⟨s₁, planned₁, passed⟩ := first.ok.mp h₁
        obtain ⟨s₂, b, planned₂, failed⟩ := (second a).error.mp h₂
        exact ⟨s₁ ++ s₂, b, ⟨s₁, s₂, a, rfl, planned₁, planned₂⟩,
          Stage.failsFirst_append.mpr (.inr ⟨t₁, t₂, rfl, passed, failed⟩)⟩
    · rintro ⟨_, b, ⟨s₁, s₂, a, rfl, planned₁, planned₂⟩, failed⟩
      rcases Stage.failsFirst_append.mp failed with failed | ⟨t₁, t₂, rfl, passed, failed⟩
      · exact .inl (first.error.mpr ⟨s₁, a, planned₁, failed⟩)
      · exact .inr ⟨t₁, t₂, a, rfl, first.ok.mpr ⟨s₁, planned₁, passed⟩,
          (second a).error.mpr ⟨s₂, b, planned₂, failed⟩⟩

/-- An inquiry of one question follows a plan of one stage. The plan has to know what every good answer
leads to. -/
theorem question {p : Inquiry α} {q : Question} {plan : StagePlan α}
    (judge : q.Answer → Except HistoryError α) (asks : p.run = .ask q fun r => .done (judge r))
    (judged : ∀ r, match judge r with
      | .ok _ => q.failure? r = none
      | .error e => q.failure? r = some e)
    (planned : ∃ stages a, plan stages a)
    (laidOut : ∀ {stages a}, plan stages a → ∃ r, stages = [.asked q r] ∧
      ∀ b, judge r = .ok b → a = b)
    (complete : ∀ {r a}, judge r = .ok a → plan [.asked q r] a) : p.Follows plan where
  planned := planned
  ok {t a} := by
    rw [Converses, asks, Prog.converses_ask]
    constructor
    · rintro ⟨r, t', rfl, h⟩
      obtain ⟨rfl, same⟩ := Prog.converses_done.mp h
      have well := judged r
      rw [← same] at well
      exact ⟨_, complete same.symm, Stage.passed_singleton.mpr ⟨well, rfl⟩⟩
    · rintro ⟨stages, plan, passed⟩
      obtain ⟨r, rfl, result⟩ := laidOut plan
      obtain ⟨well, rfl⟩ := Stage.passed_singleton.mp passed
      refine ⟨r, [], rfl, Prog.converses_done.mpr ⟨rfl, ?_⟩⟩
      have judgement := judged r
      cases found : judge r with
      | ok b => rw [result b found]
      | error e =>
        rw [found] at judgement
        cases judgement.symm.trans well
  error {t e} := by
    rw [Converses, asks, Prog.converses_ask]
    constructor
    · rintro ⟨r, t', rfl, h⟩
      obtain ⟨rfl, same⟩ := Prog.converses_done.mp h
      have failure := judged r
      rw [← same] at failure
      -- the answer that failed lays out nothing; the question is the same in any plan
      obtain ⟨stages, a, plan⟩ := planned
      obtain ⟨r', rfl, -⟩ := laidOut plan
      exact ⟨_, a, plan, Stage.failsFirst_singleton.mpr ⟨.asked q r, rfl, failure, rfl⟩⟩
    · rintro ⟨stages, a, plan, failed⟩
      obtain ⟨r', rfl, -⟩ := laidOut plan
      obtain ⟨stage, subject, failure, rfl⟩ := Stage.failsFirst_singleton.mp failed
      cases stage with
      | owner scope => cases subject
      | asked _ r =>
        cases subject
        refine ⟨r, [], rfl, Prog.converses_done.mpr ⟨rfl, ?_⟩⟩
        have judgement := judged r
        cases found : judge r with
        | ok b =>
          rw [found] at judgement
          cases judgement.symm.trans failure
        | error e' =>
          rw [found] at judgement
          cases judgement.symm.trans failure
          rfl

/-- An inquiry of one question in which every result comes from an answer of its own. -/
theorem answered {p : Inquiry α} {q : Question} (found : α → q.Answer) (nonempty : Nonempty α)
    (judge : q.Answer → Except HistoryError α) (asks : p.run = .ask q fun r => .done (judge r))
    (judged : ∀ r, match judge r with
      | .ok _ => q.failure? r = none
      | .error e => q.failure? r = some e)
    (good : ∀ {r a}, judge r = .ok a ↔ r = found a) :
    p.Follows fun stages a => stages = [.asked q (found a)] := by
  refine question judge asks judged (nonempty.elim fun a => ⟨_, a, rfl⟩) (fun {_ a} laidOut => ?_)
    fun {r a} judgement => ?_
  · refine ⟨found a, laidOut, fun b judgement => ?_⟩
    exact Except.ok.inj ((good.mpr rfl).symm.trans judgement)
  · rw [good.mp judgement]

end Follows

end Inquiry

end SyncHistory
