import SyncHistory.Memory.Session

/-!
# Inquiries in a session

Asking changes nothing in a session but the count of questions that its job store got, so a session has
one answer to every question (`Session.reply`), and an inquiry comes to what it would come to if all the
answers were known from the start (`Session.run_eq`). `Session.outcome` is that result; its lemmas take
an inquiry apart at its questions, as it is taken apart for any known answers (`Inquiry.eval_bind`).
-/

namespace SyncHistory

namespace Inquiry

variable (reply : (q : Question) → q.Answer)

/-- What follows is asked only if nothing failed before. -/
theorem eval_bind (p : Inquiry α) (f : α → Inquiry β) : (ExceptT.run (p >>= f)).eval reply =
    (ExceptT.run p).eval reply >>= fun a => (ExceptT.run (f a)).eval reply := by
  rw [ExceptT.run_bind]
  show ((ExceptT.run p).bind _).eval reply = _
  rw [Prog.eval_bind]
  cases (ExceptT.run p).eval reply <;> rfl

theorem eval_mapM (f : α → Inquiry β) (as : List α) : (ExceptT.run (as.mapM f)).eval reply =
    as.mapM fun a => (ExceptT.run (f a)).eval reply := by
  induction as with
  | nil => rfl
  | cons a as ih =>
    rw [List.mapM_cons, List.mapM_cons, eval_bind]
    refine congrArg ((ExceptT.run (f a)).eval reply >>= ·) (funext fun b => ?_)
    rw [eval_bind, ih]
    rfl

end Inquiry

/-- Is it the job store that gets the question? -/
def Question.isForStore : Question → Bool
  | .jobs _ => true
  | _ => false

/-- The answer of a store to a question. -/
def JobStore.reply (s : JobStore) (q : JobQuery) : Except HistoryError q.Result :=
  if s.available then .ok (s.tables.answer q) else .error (.transient .jobStore)

namespace Session

/-- The session after its job store got so many more questions. -/
def counted (s : Session) (n : Nat) : Session :=
  { s with store := { s.store with queries := s.store.queries + n } }

theorem counted_counted (s : Session) (m n : Nat) : (s.counted m).counted n = s.counted (m + n) := by
  simp only [counted, Nat.add_assoc]

variable [SchemaChecker]

/-- The answer of a session to a question. -/
def reply (s : Session) : (q : Question) → q.Answer
  | .jobs q => s.store.reply q
  | .connectors q => s.lookup q
  | .workflow id => s.workflowState id
  | .file path => s.files.read path

/-- The count has no bearing on any answer. -/
@[simp] theorem reply_counted (s : Session) (n : Nat) : (s.counted n).reply = s.reply := by
  funext q
  cases q <;> rfl

theorem ask_run (s : Session) (q : Question) :
    (ask q).run s = (s.reply q, s.counted (if q.isForStore then 1 else 0)) := by
  cases q <;> rfl

/-- Inquiring leaves a session as it was, but for one more question counted for each one that its job
store gets. -/
theorem run_eq (s : Session) (p : Prog surroundings α) :
    (Prog.run (I := surroundings) ask p).run s =
      (p.eval s.reply, s.counted ((p.asked s.reply).countP Question.isForStore)) := by
  induction p generalizing s with
  | done a => rfl
  | ask q k ih =>
    calc (Prog.run (I := surroundings) ask (.ask q k)).run s
        = (Prog.run (I := surroundings) ask (k (s.reply q))).run
            (s.counted (if q.isForStore then 1 else 0)) :=
          congrArg (fun r : surroundings.Answer q × Session =>
            (Prog.run (I := surroundings) ask (k r.1)).run r.2) (ask_run s q)
      _ = _ := by
          rw [ih, reply_counted, counted_counted]
          simp only [Prog.eval, Prog.asked, List.countP_cons, Nat.add_comm]

/-- What an inquiry comes to in a session. -/
def outcome (s : Session) (inquiry : Inquiry α) : Except HistoryError α :=
  ((answer inquiry).run s).1

theorem outcome_eq_eval (s : Session) (inquiry : Inquiry α) :
    s.outcome inquiry = inquiry.run.eval s.reply :=
  congrArg Prod.fst (run_eq s inquiry.run)

@[simp] theorem outcome_pure (s : Session) (a : α) : s.outcome (pure a) = .ok a := rfl

@[simp] theorem outcome_ofExcept (s : Session) (e : Except HistoryError α) :
    s.outcome (.ofExcept e) = e := rfl

/-- What follows is asked only if nothing failed before. -/
theorem outcome_bind (s : Session) (p : Inquiry α) (f : α → Inquiry β) :
    s.outcome (p >>= f) = s.outcome p >>= fun a => s.outcome (f a) := by
  simp only [outcome_eq_eval]
  exact Inquiry.eval_bind s.reply p f

theorem outcome_bind_ok {s : Session} {p : Inquiry α} {a : α} (h : s.outcome p = .ok a)
    (f : α → Inquiry β) : s.outcome (p >>= f) = s.outcome (f a) := by
  rw [outcome_bind, h]
  rfl

theorem outcome_jobs {s : Session} (available : s.store.available = true) (q : JobQuery) :
    s.outcome (.jobs q) = .ok (s.store.tables.answer q) := by
  show s.store.reply q = _
  rw [JobStore.reply, if_pos available]

/-- Inquiries made one after the other, none of which fails. -/
theorem outcome_mapM {s : Session} {f : α → Inquiry β} {g : α → β} {as : List α}
    (h : ∀ a ∈ as, s.outcome (f a) = .ok (g a)) : s.outcome (as.mapM f) = .ok (as.map g) := by
  induction as with
  | nil => rfl
  | cons a as ih =>
    rw [List.mapM_cons, outcome_bind_ok (h a List.mem_cons_self),
      outcome_bind_ok (ih fun b hb => h b (List.mem_cons_of_mem a hb))]
    rfl

end Session

end SyncHistory
