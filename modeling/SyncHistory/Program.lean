/-!
# Programs of questions

What the history of jobs has to find out lies outside of it: in a job store, in records of connections,
in log files. A computation that needs to know is therefore a tree, `Prog`: it is done with a result, or
it asks one question and goes on with whatever is answered. Nothing is fixed about who answers.
`Prog.run` runs a tree against answers in any monad; `Prog.eval` against a plain function.

The questions and the types of their answers are an `Interface`.
-/

namespace SyncHistory

/-- Questions, and what kind of answer belongs to each. -/
structure Interface where
  Query : Type
  Answer : Query → Type

/-- A computation that asks questions of an interface. -/
inductive Prog (I : Interface) (α : Type) : Type where
  | done (a : α)
  | ask (q : I.Query) (k : I.Answer q → Prog I α)

namespace Prog

variable {I J : Interface} {α β : Type}

/-- Goes on with a second computation where the first one is done. -/
def bind : Prog I α → (α → Prog I β) → Prog I β
  | done a, f => f a
  | ask q k, f => ask q fun a => (k a).bind f

instance : Monad (Prog I) where
  pure := done
  bind := bind

/-- The computation of one question. -/
def query (q : I.Query) : Prog I (I.Answer q) :=
  ask q done

/-- Runs a computation against answers in a monad. -/
def run [Monad m] (answer : (q : I.Query) → m (I.Answer q)) : Prog I α → m α
  | done a => pure a
  | ask q k => do run answer (k (← answer q))

/-- Runs a computation against a function that knows every answer. -/
def eval (answer : (q : I.Query) → I.Answer q) : Prog I α → α
  | done a => a
  | ask q k => eval answer (k (answer q))

/-- The questions that are asked, in order, when a function gives the answers. -/
def asked (answer : (q : I.Query) → I.Answer q) : Prog I α → List I.Query
  | done _ => []
  | ask q k => q :: asked answer (k (answer q))

@[simp] theorem bind_done (a : α) (f : α → Prog I β) : (done a).bind f = f a := rfl

@[simp] theorem bind_ask (q : I.Query) (k : I.Answer q → Prog I α) (f : α → Prog I β) :
    (ask q k).bind f = ask q fun a => (k a).bind f := rfl

@[simp] theorem pure_eq_done (a : α) : (pure a : Prog I α) = done a := rfl

@[simp] theorem bind_eq_bind (p : Prog I α) (f : α → Prog I β) : p >>= f = p.bind f := rfl

theorem bind_pure_done (p : Prog I α) : p.bind done = p := by
  induction p with
  | done a => rfl
  | ask q k ih => simp [ih]

theorem bind_assoc {γ : Type} (p : Prog I α) (f : α → Prog I β) (g : β → Prog I γ) :
    (p.bind f).bind g = p.bind fun a => (f a).bind g := by
  induction p with
  | done a => rfl
  | ask q k ih => simp [ih]

instance : LawfulMonad (Prog I) := LawfulMonad.mk' _
  bind_pure_done (fun _ _ => rfl) bind_assoc

theorem eval_bind (answer : (q : I.Query) → I.Answer q) (p : Prog I α) (f : α → Prog I β) :
    (p.bind f).eval answer = (f (p.eval answer)).eval answer := by
  induction p with
  | done a => rfl
  | ask q k ih => simp [eval, ih]

theorem asked_bind (answer : (q : I.Query) → I.Answer q) (p : Prog I α) (f : α → Prog I β) :
    (p.bind f).asked answer = p.asked answer ++ (f (p.eval answer)).asked answer := by
  induction p with
  | done a => rfl
  | ask q k ih => simp [asked, eval, ih]

theorem run_bind [Monad m] [LawfulMonad m] (answer : (q : I.Query) → m (I.Answer q))
    (p : Prog I α) (f : α → Prog I β) :
    (p.bind f).run answer = p.run answer >>= fun a => (f a).run answer := by
  induction p with
  | done a => simp [run]
  | ask q k ih => simp [run, ih]

end Prog

end SyncHistory
