import SyncHistory.Proofs.QueryCount

/-!
# Operations only read

An operation leaves a session as it was, but for the count of questions (`Session.perform_run`). The count
has no bearing on any answer, so operations that are left out of a session make no difference to what else
happens in it (`Session.results_kept`).

By how much the count goes up is known exactly. Where the job store can be reached, it is the price of the
operation. Out of reach, the first question fails and is the last one (`Inquiry.AsksFirst`), so an
operation that has a price costs one question. `operations_read_only` puts this together.
-/

namespace SyncHistory

variable {α β : Type}

/-! ## A job store that is out of reach -/

namespace Inquiry

/-- The inquiry begins with a question to the job store, and fails with it. -/
def AsksFirst (p : Inquiry α) : Prop :=
  ∃ (q : JobQuery) (k : Except HistoryError q.Result → Prog surroundings (Except HistoryError α)),
    p.run = .ask (.jobs q) k ∧ ∀ e, k (.error e) = .done (.error e)

theorem jobs_asksFirst (q : JobQuery) : (jobs q).AsksFirst :=
  ⟨q, .done, rfl, fun _ => rfl⟩

theorem AsksFirst.bind {p : Inquiry α} (first : p.AsksFirst) (f : α → Inquiry β) :
    (p >>= f).AsksFirst := by
  obtain ⟨q, k, asks, ends⟩ := first
  refine ⟨q, fun r => (k r).bind (ExceptT.bindCont f), ?_, fun e => ?_⟩
  · show Prog.bind p.run _ = _
    rw [asks]
    rfl
  · show Prog.bind (k (.error e)) _ = _
    rw [ends]
    rfl

theorem listJobs_asksFirst (plan : ListingPlan) : (listJobs plan).AsksFirst := by
  unfold listJobs
  cases plan.page with
  | offset size offset => exact jobs_asksFirst _
  | includingJob id size => exact (jobs_asksFirst _).bind _

theorem job_asksFirst (id : JobId) : (job id).AsksFirst :=
  (jobs_asksFirst _).bind _

theorem newest_asksFirst (filter : JobFilter) : (newest filter).AsksFirst :=
  (jobs_asksFirst _).bind _

end Inquiry

namespace Session

variable {s : Session}

theorem fails_of_asksFirst [SchemaChecker] (unreachable : s.store.available = false) {p : Inquiry α}
    (first : p.AsksFirst) : s.outcome p = .error (.transient .jobStore) ∧ s.cost p = 1 := by
  obtain ⟨q, k, asks, ends⟩ := first
  have reply : s.reply (.jobs q) = .error (.transient .jobStore) := by
    show s.store.reply q = _
    rw [JobStore.reply, unreachable]
    rfl
  constructor
  · rw [outcome_eq_eval, asks, Prog.eval, reply, ends]
    rfl
  · rw [cost, asks, Prog.asked, reply, ends]
    rfl

/-- An operation that has a price begins with a question to the job store. -/
theorem answer_asksFirst {operation : Operation} (asks : s.price operation ≠ 0) :
    (operation.answer s.settings s.workflow.isSome).AsksFirst := by
  cases operation with
  | listJobs request =>
    cases planned : request.plan s.settings.defaultPageSize with
    | error e => simp [price, planned] at asks
    | ok plan =>
      have listing : (Inquiry.listing s.settings request).AsksFirst := by
        rw [Inquiry.listing, planned]
        exact (Inquiry.listJobs_asksFirst plan).bind _
      exact listing.bind _
  | listWorkspaces request =>
    cases planned : request.plan s.settings.defaultPageSize with
    | error e => simp [price, planned] at asks
    | ok plan =>
      have listing : (Inquiry.workspaceListing s.settings request).AsksFirst := by
        rw [Inquiry.workspaceListing, planned]
        exact (Inquiry.listJobs_asksFirst plan).bind _
      exact listing.bind _
  | info id => exact ((Inquiry.job_asksFirst id).bind _).bind _
  | infoWithoutLogs id => exact ((Inquiry.job_asksFirst id).bind _).bind _
  | infoLight id => exact ((Inquiry.job_asksFirst id).bind _).bind _
  | debug id => exact ((Inquiry.job_asksFirst id).bind _).bind _
  | lastReplication c => exact (Inquiry.newest_asksFirst _).bind _
  | latestRunning c => exact (Inquiry.newest_asksFirst _).bind _
  | latestSync c => exact (Inquiry.newest_asksFirst _).bind _
  | progress c => exact ((Inquiry.jobs_asksFirst _).bind _).bind _
  | latestSyncs connections =>
    cases connections with
    | nil => simp [price] at asks
    | cons c connections => exact (Inquiry.jobs_asksFirst _).bind _
  | runningSyncs connections =>
    cases connections with
    | nil => simp [price] at asks
    | cons c connections => exact (Inquiry.jobs_asksFirst _).bind _
  | normalization id => exact (Inquiry.jobs_asksFirst _).bind _
  | syncModes id => exact ((Inquiry.job_asksFirst id).bind _).bind _

/-- An operation without a price asks nothing. -/
theorem answer_of_free {operation : Operation} (free : s.price operation = 0) :
    ∃ outcome, (operation.answer s.settings s.workflow.isSome).run = .done outcome := by
  cases operation with
  | listJobs request =>
    cases planned : request.plan s.settings.defaultPageSize with
    | error e =>
      have refused : (Operation.listJobs request).Refused s.settings e := planned
      exact ⟨_, Operation.answer_of_refused refused⟩
    | ok plan => simp [price, planned] at free
  | listWorkspaces request =>
    cases planned : request.plan s.settings.defaultPageSize with
    | error e =>
      have refused : (Operation.listWorkspaces request).Refused s.settings e := planned
      exact ⟨_, Operation.answer_of_refused refused⟩
    | ok plan => simp [price, planned] at free
  | infoWithoutLogs id =>
    dsimp only [price] at free
    split at free <;> omega
  | latestSyncs connections =>
    cases connections with
    | nil => exact ⟨_, rfl⟩
    | cons c connections => simp [price] at free
  | runningSyncs connections =>
    cases connections with
    | nil => exact ⟨_, rfl⟩
    | cons c connections => simp [price] at free
  | _ => simp [price] at free

/-! ## Sessions -/

/-- How many questions an operation costs, whether or not the job store can be reached. -/
def charge (s : Session) (operation : Operation) : Nat :=
  if s.store.available then s.price operation else min 1 (s.price operation)

theorem perform_run [SchemaChecker] (s : Session) (operation : Operation) :
    (perform operation).run s = (s.outcome (operation.answer s.settings s.workflow.isSome),
      s.counted (s.charge operation)) := by
  have run := answer_run s (operation.answer s.settings s.workflow.isSome)
  suffices s.cost (operation.answer s.settings s.workflow.isSome) = s.charge operation by
    rw [← this]
    exact run
  -- out of reach it makes a difference whether anything is asked at all
  cases reachable : s.store.available with
  | true => rw [charge, if_pos reachable, cost_answer reachable]
  | false =>
    rw [charge, reachable, if_neg Bool.false_ne_true]
    by_cases free : s.price operation = 0
    · obtain ⟨outcome, done⟩ := answer_of_free free
      rw [cost, done, free]
      rfl
    · rw [(fails_of_asksFirst reachable (answer_asksFirst free)).2]
      omega

/-- What comes of the events of a session; only operations have answers. -/
def results [SchemaChecker] (s : Session) (events : List Event) : List (Option (Except HistoryError Json)) :=
  ((events.mapM step).run s).1

theorem results_cons [SchemaChecker] (s : Session) (event : Event) (events : List Event) :
    s.results (event :: events) =
      ((step event).run s).1 :: ((step event).run s).2.results events := by
  rw [results, List.mapM_cons]
  rfl

/-- The count has no bearing on what an event comes to, and the other way round. -/
theorem step_counted [SchemaChecker] (s : Session) (n : Nat) (event : Event) :
    (step event).run (s.counted n) =
      (((step event).run s).1, ((step event).run s).2.counted n) := by
  cases event with
  | setup setup => cases setup <;> rfl
  | perform operation =>
    have outcome (p : Inquiry Json) : (s.counted n).outcome p = s.outcome p := by
      rw [outcome_eq_eval, outcome_eq_eval, reply_counted]
    have charge : (s.counted n).charge operation = s.charge operation := rfl
    show (some ((perform operation).run (s.counted n)).1, ((perform operation).run (s.counted n)).2) =
      (some ((perform operation).run s).1, ((perform operation).run s).2.counted n)
    rw [perform_run, perform_run, outcome, charge, counted_counted, counted_counted, Nat.add_comm]
    rfl

theorem results_counted [SchemaChecker] (s : Session) (n : Nat) (events : List Event) :
    (s.counted n).results events = s.results events := by
  induction events generalizing s with
  | nil => rfl
  | cons event events ih => rw [results_cons, results_cons, step_counted, ih]

/-- The elements that are marked to be kept. -/
def kept {γ : Type} (marked : List (γ × Bool)) : List γ :=
  (marked.filter (·.2)).map (·.1)

@[simp] theorem kept_cons_true {γ : Type} (a : γ) (marked : List (γ × Bool)) :
    kept ((a, true) :: marked) = a :: kept marked := rfl

@[simp] theorem kept_cons_false {γ : Type} (a : γ) (marked : List (γ × Bool)) :
    kept ((a, false) :: marked) = kept marked := rfl

/-- Operations that are left out make no difference to the results of what is kept. -/
theorem results_kept [SchemaChecker] (s : Session) {marked : List (Event × Bool)}
    (operations : ∀ x ∈ marked, x.2 = false → ∃ operation, x.1 = .perform operation) :
    s.results (kept marked) =
      kept ((s.results (marked.map (·.1))).zip (marked.map (·.2))) := by
  induction marked generalizing s with
  | nil => rfl
  | cons x marked ih =>
    obtain ⟨event, keep⟩ := x
    have rest : ∀ x ∈ marked, x.2 = false → ∃ operation, x.1 = .perform operation :=
      fun x mem => operations x (List.mem_cons_of_mem _ mem)
    rw [List.map_cons, List.map_cons, results_cons, List.zip_cons_cons]
    cases keep with
    | true =>
      simp only [kept_cons_true]
      rw [results_cons, ih _ rest]
    | false =>
      -- an operation leaves the same session with another count, on which no later result depends
      obtain ⟨operation, performs⟩ := operations (event, false) List.mem_cons_self rfl
      have unchanged : ((step event).run s).2 = s.counted (s.charge operation) := by
        rw [show event = .perform operation from performs]
        exact congrArg Prod.snd (s.perform_run operation)
      simp only [kept_cons_false]
      rw [unchanged, results_counted, ih _ rest]

theorem outcome_free [SchemaChecker] (s : Session) {operation : Operation} (free : s.price operation = 0) :
    ((perform operation).run s).1 = ((perform operation).run (s.set (.available true))).1 := by
  obtain ⟨outcome, done⟩ := answer_of_free free
  have same : (operation.answer (s.set (.available true)).settings
      (s.set (.available true)).workflow.isSome).run = .done outcome := done
  rw [perform_run, perform_run, outcome_eq_eval, outcome_eq_eval, done, same]
  rfl

end Session

/-- **Operations only read.** After an operation a session is what it was, but for the count of questions
that its job store got. The count has gone up by the price of the operation if the store can be reached.
If not, an operation that has a price costs one question and fails with it, and any other one comes to what
it would come to in a store that can be reached. The rows that are part of a price are those of the answer.
Operations that are left out of a session make no difference to what else happens in it. -/
theorem operations_read_only [SchemaChecker] (s : Session) :
    (∀ operation, ((Session.perform operation).run s).2 = s.counted (s.charge operation) ∧
      (s.store.available = false →
        (s.price operation ≠ 0 →
          ((Session.perform operation).run s).1 = .error (.transient .jobStore)) ∧
        (s.price operation = 0 → ((Session.perform operation).run s).1 =
          ((Session.perform operation).run (s.set (.available true))).1))) ∧
    (s.store.available = true →
      (∀ (request : JobListRequest) plan, request.plan s.settings.defaultPageSize = .ok plan →
        ∃ listing, s.outcome (.listing s.settings request) = .ok listing ∧
          listing.jobs.length = (s.pageOf plan).length) ∧
      ∀ (request : WorkspaceListRequest) plan, request.plan s.settings.defaultPageSize = .ok plan →
        ∃ listing, s.outcome (.workspaceListing s.settings request) = .ok listing ∧
          listing.jobs.length = (s.pageOf plan).length) ∧
    ∀ marked : List (Session.Event × Bool),
      (∀ x ∈ marked, x.2 = false → ∃ operation, x.1 = .perform operation) →
      s.results (Session.kept marked) =
        Session.kept ((s.results (marked.map (·.1))).zip (marked.map (·.2))) := by
  refine ⟨fun operation => ⟨congrArg Prod.snd (s.perform_run operation), fun unreachable => ⟨?_, ?_⟩⟩,
    fun available => ⟨?_, ?_⟩, fun marked operations => s.results_kept operations⟩
  · intro asks
    rw [Session.perform_run]
    exact (Session.fails_of_asksFirst unreachable (Session.answer_asksFirst asks)).1
  · exact s.outcome_free
  · intro request plan planned
    have listed := Session.outcome_listJobs available plan
    exact ⟨_, Session.outcome_listing available planned listed, List.length_map ..⟩
  · intro request plan planned
    have listed := Session.outcome_listJobs available plan
    exact ⟨_, Session.outcome_workspaceListing available planned listed, List.length_map ..⟩

/-- A job of three attempts: the log of the first is there, that of the second is not, and that of the
third lies where a directory is. -/
theorem operations_read_only_three :
    let attempt (number : Int) (logPath : String) : Attempt :=
      ⟨number, .failed, some logPath, none, none, ⟨number, 0⟩, ⟨number, 0⟩, none⟩
    let job (id : JobId) : Job :=
      ⟨id, .sync, "c", none, .failed, ⟨id, 0⟩, ⟨id, 0⟩, none,
        [attempt 0 "log", attempt 1 "none", attempt 2 "logs"]⟩
    let s := Session.setUp [.insertJob (job 7), .writeFile "log" (.file (some "begin\nend\n")),
      .makeDirectory "logs"]
    let out := s.set (.available false)
    let request : JobListRequest := ⟨⟨[.sync], none, .unbounded, .unbounded, none, none, none⟩, none, none⟩
    ((Session.perform (.info 7)).run s).2 = s.counted 3 ∧
    ((Session.perform (.info 7)).run out) = (.error (.transient .jobStore), out.counted 1) ∧
    ((Session.perform (.latestSyncs [])).run out).1 = ((Session.perform (.latestSyncs [])).run s).1 ∧
    (∃ listing, s.outcome (.listing s.settings request) = .ok listing ∧
      listing.jobs.length = (s.pageOf ⟨⟨[.sync], .unscoped, none, .unbounded, .unbounded⟩,
        .newestFirst, .offset 200 0⟩).length) ∧
    ∃ stored answer left, s.results [.setup (.insertJob (job 8)), .perform (.info 8),
        .perform (.infoLight 8)] = [stored, left, answer] ∧
      s.results [.setup (.insertJob (job 8)), .perform (.infoLight 8)] = [stored, answer] := by
  intro attempt job s out request
  have available : s.store.available = true := rfl
  have planned : request.plan s.settings.defaultPageSize =
      .ok ⟨⟨[.sync], .unscoped, none, .unbounded, .unbounded⟩, .newestFirst, .offset 200 0⟩ := by decide
  obtain ⟨reads, listings, leftOut⟩ := operations_read_only s
  obtain ⟨failing, -, -⟩ := operations_read_only out
  have price : s.price (.info 7) = 3 := by decide +kernel
  have some : out.price (.info 7) ≠ 0 := by decide +kernel
  refine ⟨(reads (.info 7)).1.trans (by rw [Session.charge, if_pos available, price]), ?_, ?_, ?_, ?_⟩
  · exact Prod.ext (((failing (.info 7)).2 rfl).1 some) (failing (.info 7)).1
  · exact ((failing (.latestSyncs [])).2 rfl).2 rfl
  · exact (listings available).1 request _ planned
  · have kept := leftOut [(.setup (.insertJob (job 8)), true), (.perform (.info 8), false),
      (.perform (.infoLight 8), true)] (by simp)
    have all : ∃ stored left answer, s.results [.setup (.insertJob (job 8)), .perform (.info 8),
        .perform (.infoLight 8)] = [stored, left, answer] := by
      rw [Session.results_cons, Session.results_cons, Session.results_cons]
      exact ⟨_, _, _, rfl⟩
    obtain ⟨stored, left, answer, all⟩ := all
    refine ⟨stored, answer, left, all, kept.trans ?_⟩
    rw [List.map_cons, List.map_cons, List.map_cons, List.map_nil, all]
    rfl

end SyncHistory
