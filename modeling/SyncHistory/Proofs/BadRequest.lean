import SyncHistory.Deployment
import SyncHistory.Proofs.Plan
import SyncHistory.Proofs.UnknownToken
import SyncHistory.Schema.Checker

/-!
# Bad requests

A failure that is called a bad request should be a mistake in the request. Planning refuses such a request
before anything is asked, and it refuses nothing else (`ListingRequest.plan_onlyBadRequests`). Once
something is asked, only the job store can come to a bad request (`Operation.answer_passesOn`), and
`Deployment.bad_request_refused_or_unknown_token` says by what: a row of the database of jobs that cannot be
read for an unknown token in it. So a request with nothing wrong about it can be called a bad one
(`Deployment.stored_status_is_bad_request`).
-/

namespace SyncHistory

variable {α β : Type}

/-! ## Planning -/

/-- Every failure is a bad request. -/
def OnlyBadRequests (outcome : Except HistoryError α) : Prop :=
  ∀ e, outcome = .error e → e.isInvalidArgument = true

namespace OnlyBadRequests

theorem ok (a : α) : OnlyBadRequests (.ok a) :=
  fun _ h => by cases h

theorem error {e : HistoryError} (bad : e.isInvalidArgument = true) :
    OnlyBadRequests (.error e : Except HistoryError α) :=
  fun _ h => by cases h; exact bad

theorem bind {x : Except HistoryError α} {f : α → Except HistoryError β} (first : OnlyBadRequests x)
    (second : ∀ a, OnlyBadRequests (f a)) : OnlyBadRequests (x >>= f) := by
  intro e failed
  rcases bind_eq_error.mp failed with failed | ⟨a, -, failed⟩
  · exact first e failed
  · exact second a e failed

theorem map {x : Except HistoryError α} (first : OnlyBadRequests x) (f : α → β) :
    OnlyBadRequests (x.map f) :=
  fun e failed => first e (map_eq_error.mp failed)

theorem check {c : Prop} [Decidable c] {e : HistoryError} {x : Except HistoryError α}
    (bad : e.isInvalidArgument = true) (rest : OnlyBadRequests x) :
    OnlyBadRequests (do
      if c then throw e
      x) := by
  by_cases h : c
  · rw [if_pos h]
    exact error bad
  · rw [if_neg h]
    exact rest

end OnlyBadRequests

theorem StatusToken.parse_onlyBadRequests (token : String) : OnlyBadRequests (parse token) := by
  unfold parse
  split
  · exact .ok _
  · exact .error rfl

theorem OrderField.parse_onlyBadRequests (text : String) : OnlyBadRequests (parse text) := by
  unfold parse
  split
  · exact .ok _
  · exact .error rfl

theorem Direction.parse_onlyBadRequests (text : String) : OnlyBadRequests (parse text) := by
  unfold parse
  split
  · exact .ok _
  · exact .error rfl

namespace ListingRequest

variable (r : ListingRequest)

theorem planStatuses_onlyBadRequests : OnlyBadRequests r.planStatuses := by
  unfold planStatuses
  split
  · exact .ok none
  · exact .ok none
  · refine OnlyBadRequests.map (fun e failed => ?_) some
    obtain ⟨token, -, failed⟩ := exists_of_mapM_eq_error failed
    exact (StatusToken.parse_onlyBadRequests token).map _ e failed

theorem planFilter_onlyBadRequests (scope : ScopeSelector) : OnlyBadRequests (r.planFilter scope) :=
  .check rfl (.bind r.planStatuses_onlyBadRequests fun _ => .ok _)

theorem planOrder_onlyBadRequests : OnlyBadRequests r.planOrder := by
  unfold planOrder
  cases r.orderByMethod with
  | some word =>
    cases r.orderByField with
    | some text =>
      refine .bind (OrderField.parse_onlyBadRequests text) fun _ => ?_
      exact .bind (Direction.parse_onlyBadRequests word) fun _ => .ok _
    | none =>
      refine .bind (.ok _) fun _ => ?_
      exact .bind (Direction.parse_onlyBadRequests word) fun _ => .ok _
  | none =>
    cases r.orderByField with
    | some text => exact .bind (OrderField.parse_onlyBadRequests text) fun _ => .ok _
    | none => exact .ok _

theorem planPage_onlyBadRequests (including : Option JobId) (defaultSize : UInt32) :
    OnlyBadRequests (r.planPage including defaultSize) := by
  refine .check rfl ?_
  cases including with
  | none => exact .ok _
  | some id => exact .ok _

/-- Planning refuses a request for what is wrong with it. -/
theorem plan_onlyBadRequests (scope : ScopeSelector) (including : Option JobId) (defaultSize : UInt32) :
    OnlyBadRequests (r.plan scope including defaultSize) :=
  .bind (r.planFilter_onlyBadRequests scope) fun _ => .bind r.planOrder_onlyBadRequests fun _ =>
  .bind (r.planPage_onlyBadRequests including defaultSize) fun _ => .ok _

end ListingRequest

/-! ## Operations -/

/-- The job store came to this failure. -/
def FailedStore (x : Exchange surroundings) (e : HistoryError) : Prop :=
  ∃ q, x = ⟨.jobs q, .error e⟩

namespace Inquiry

/-- Every bad request that the inquiry comes to is one that the job store came to. -/
abbrev PassesOn (p : Inquiry α) : Prop := Blames (fun _ => False) FailedStore p

theorem passesOn_ofExcept {outcome : Except HistoryError α}
    (good : ∀ e, outcome = .error e → e.isInvalidArgument = false) : PassesOn (ofExcept outcome) :=
  .ofOutcome fun e failed bad => absurd bad (Bool.not_eq_true _ ▸ good e failed)

theorem passesOn_throw {e : HistoryError} (good : e.isInvalidArgument = false) :
    PassesOn (throw e : Inquiry α) :=
  passesOn_ofExcept fun _ failed => by cases failed; exact good

theorem passesOn_jobs (q : JobQuery) : PassesOn (jobs q) := by
  refine Blames.ask fun r => Blames.ofOutcome fun e failed _ => .inr ⟨q, ?_⟩
  rw [failed]

theorem passesOn_connectors (q : ConnectorQuery) : PassesOn (connectors q) := by
  refine Blames.ask fun r => Blames.ofOutcome fun e failed bad => ?_
  rcases r with (_ | _ | _) | _ <;> cases failed <;> cases bad

theorem passesOn_workflow (connection : Uuid) : PassesOn (workflow connection) := by
  refine Blames.ask fun r => Blames.ofOutcome fun e failed bad => ?_
  rcases r with _ | _
  · cases failed
    cases bad
  · cases failed

theorem passesOn_file (path : String) : PassesOn (file path) :=
  Blames.ask fun _ => Blames.ofOutcome fun _ failed => by cases failed

theorem passesOn_listJobs (plan : ListingPlan) : PassesOn (listJobs plan) := by
  unfold listJobs
  cases plan.page with
  | offset size offset => exact passesOn_jobs _
  | includingJob id size =>
    refine (passesOn_jobs _).bind fun position => ?_
    cases position with
    | none => exact .pure []
    | some position => exact passesOn_jobs _

theorem passesOn_job (id : JobId) : PassesOn (job id) := by
  refine (passesOn_jobs _).bind fun found => ?_
  cases found with
  | none => exact passesOn_throw rfl
  | some job => exact .pure job

theorem passesOn_newest (filter : JobFilter) : PassesOn (newest filter) :=
  (passesOn_jobs _).map _

/-- Views are made of as many jobs as there are views, so there is nothing wrong with the arguments. -/
theorem passesOn_hydratedViews (listed : List Job) (wanted : Bool) :
    PassesOn (hydratedViews listed wanted) := by
  unfold hydratedViews hydrate
  cases wanted with
  | false => exact .pure _
  | true =>
    simp only [Bool.not_true, Bool.false_eq_true, if_false, List.length_map, ne_eq, not_true_eq_false]
    exact (Blames.mapM (fun job => passesOn_jobs (.jobStats job.id)) listed).map _

theorem passesOn_logTail (count : Nat) (path : Option String) : PassesOn (logTail count path) := by
  cases path with
  | none => exact .pure []
  | some path =>
    refine (passesOn_file path).bind fun read => ?_
    cases read with
    | missing => exact .pure []
    | text contents => exact .pure _
    | fault fault => exact passesOn_throw rfl

theorem passesOn_jobInfo (logLines : Nat) (job : Job) : PassesOn (jobInfo logLines job) := by
  refine (Blames.mapM (fun attempt => ?_) job.attempts).map _
  exact (passesOn_logTail logLines attempt.logPath).bind fun _ => (passesOn_jobs _).map _

theorem passesOn_owner (job : Job) : PassesOn (owner job) := by
  unfold owner
  cases job.connectionId with
  | none => exact passesOn_throw rfl
  | some id => exact .pure id

theorem passesOn_debugInfo (logLines : Nat) (platformVersion : String) (asksWorkflow : Bool)
    (id : JobId) : PassesOn (debugInfo logLines platformVersion asksWorkflow id) := by
  refine (passesOn_job id).bind fun job => (passesOn_jobInfo logLines job).bind fun info =>
    (passesOn_owner job).bind fun owner => (passesOn_connectors _).bind fun connection =>
    (passesOn_connectors _).bind fun source => (passesOn_connectors _).bind fun destination =>
    (passesOn_connectors _).bind fun _ => (passesOn_connectors _).bind fun _ => ?_
  cases asksWorkflow with
  | false => exact .pure _
  | true => exact (passesOn_workflow _).map _

theorem passesOn_latestSyncs (connections : List Uuid) : PassesOn (latestSyncs connections) := by
  unfold latestSyncs
  split
  · exact .pure []
  · exact passesOn_jobs _

theorem passesOn_runningSyncs (connections : List Uuid) : PassesOn (runningSyncs connections) := by
  unfold runningSyncs
  split
  · exact .pure []
  · exact passesOn_jobs _

theorem passesOn_infoWithoutLogs (id : JobId) : PassesOn (infoWithoutLogs id) := by
  refine (passesOn_job id).bind fun job => (passesOn_hydratedViews [job] true).bind fun views => ?_
  rcases views with _ | ⟨view, _ | ⟨_, _⟩⟩
  · exact .pure _
  · exact .pure _
  · exact .pure _

/-- The sync modes of a job are in order or the job is invalid, which is not the caller's fault. -/
theorem passesOn_syncModes (id : JobId) : PassesOn (syncModes id) := by
  refine (passesOn_job id).bind fun job => passesOn_ofExcept fun e failed => ?_
  unfold Job.syncModes at failed
  split at failed
  · cases failed
  · cases failed
    rfl

theorem passesOn_countedListing (settings : Settings) (plan : ListingPlan) :
    PassesOn (countedListing settings plan) :=
  (passesOn_listJobs plan).bind fun jobs => (passesOn_jobs _).bind fun _ =>
    (passesOn_hydratedViews jobs _).map _

end Inquiry

namespace Operation

variable {settings : Settings} {asksWorkflow : Bool} {operation : Operation}

theorem isInvalidArgument_of_refused {e : HistoryError} (refused : operation.Refused settings e) :
    e.isInvalidArgument = true := by
  cases operation with
  | listJobs request => exact request.plan_onlyBadRequests _ _ _ e refused
  | listWorkspaces request => exact request.plan_onlyBadRequests _ _ _ e refused
  | _ => cases refused

/-- If planning has nothing against the request, a bad request is one that the job store came to. -/
theorem answer_passesOn (accepted : ∀ e, ¬ operation.Refused settings e) :
    (operation.answer settings asksWorkflow).PassesOn := by
  cases operation with
  | listJobs request =>
    have planned := Inquiry.passesOn_ofExcept fun e refused => absurd refused (accepted e)
    exact (planned.bind (Inquiry.passesOn_countedListing settings)).map _
  | listWorkspaces request =>
    have planned := Inquiry.passesOn_ofExcept fun e refused => absurd refused (accepted e)
    exact (planned.bind fun plan => (Inquiry.passesOn_listJobs plan).bind fun jobs =>
      (Inquiry.passesOn_hydratedViews jobs _).map _).map _
  | info id => exact ((Inquiry.passesOn_job id).bind fun job => Inquiry.passesOn_jobInfo _ job).map _
  | infoWithoutLogs id => exact (Inquiry.passesOn_infoWithoutLogs id).map _
  | infoLight id => exact ((Inquiry.passesOn_job id).map _).map _
  | debug id => exact (Inquiry.passesOn_debugInfo _ _ _ id).map _
  | lastReplication c => exact (Inquiry.passesOn_newest _).map _
  | latestRunning c => exact (Inquiry.passesOn_newest _).map _
  | latestSync c => exact (Inquiry.passesOn_newest _).map _
  | progress c =>
    exact ((Inquiry.passesOn_runningSyncs [c]).bind fun jobs =>
      (Inquiry.passesOn_hydratedViews jobs true).map _).map _
  | latestSyncs cs => exact (Inquiry.passesOn_latestSyncs cs).map _
  | runningSyncs cs => exact (Inquiry.passesOn_runningSyncs cs).map _
  | normalization id => exact (Inquiry.passesOn_jobs _).map _
  | syncModes id => exact (Inquiry.passesOn_syncModes id).map _

end Operation

/-! ## Deployments -/

namespace Deployment

/-- Answers a question: one about jobs from the database of jobs, another one in some other way. -/
def answerWith (others : (q : Question) → Prog outside q.Answer) : (q : Question) → Prog outside q.Answer
  | .jobs q => jobsDatabase (Postgres.answer q).run
  | .connectors q => others (.connectors q)
  | .workflow connection => others (.workflow connection)
  | .file path => others (.file path)

/-- Performs an operation whose questions about jobs go to the database of jobs. -/
def performWith (others : (q : Question) → Prog outside q.Answer) (settings : Settings)
    (asksWorkflow : Bool) (operation : Operation) : Prog outside (Except HistoryError Json) :=
  Prog.run (I := surroundings) (answerWith others) (operation.answer settings asksWorkflow).run

theorem perform_eq_performWith [SchemaChecker] (settings : Settings) (endpoint : Option WorkflowEndpoint)
    (operation : Operation) :
    perform settings endpoint operation =
      performWith (answer endpoint) settings endpoint.isSome operation := by
  have same : answerWith (answer endpoint) = answer endpoint := by
    funext q
    cases q <;> rfl
  rw [performWith, same]
  rfl

/-- The database of jobs answered a statement with a row that has an unknown token, and this is the
failure. -/
def AnswersUnknownToken (t : List (Exchange outside)) (e : HistoryError) : Prop :=
  ∃ (statement : Statement) (rows : List Row),
    (⟨.jobs statement, Except.ok rows⟩ : Exchange outside) ∈ t ∧
      ∃ row ∈ rows, Postgres.UnknownToken row e statement

theorem answersUnknownToken_of_jobsDatabase {q : JobQuery} {t : List (Exchange outside)}
    {e : HistoryError} (comes : (jobsDatabase (Postgres.answer q).run).Converses t (.error e))
    (bad : e.isInvalidArgument = true) : AnswersUnknownToken t e := by
  obtain ⟨u, comes, parts⟩ := Prog.exists_converses_of_run comes
  rcases Postgres.answer_blames q u e comes bad with none | ⟨⟨statement, r⟩, mem, rows, same, due⟩
  · cases none
  · -- a statement is sent to the outside as it is, so its answer is part of the conversation there
    obtain ⟨part, sub, asked⟩ := parts _ mem
    obtain ⟨r', t', rfl, rest⟩ := Prog.converses_ask.mp asked
    obtain ⟨rfl, rfl⟩ := Prog.converses_done.mp rest
    cases same
    exact ⟨statement, rows, sub.subset List.mem_cons_self, due⟩

/-- **Bad requests.** Planning refuses a bad request before anything is asked. If something else comes to a
bad request, the database of jobs answered a statement with a row of a job whose kind or status no job has,
or of an attempt whose status no attempt has, and the failure is that of reading this row. So nothing else
that is wrong with an answer makes a bad request of a good one. -/
theorem bad_request_refused_or_unknown_token (others : (q : Question) → Prog outside q.Answer)
    (settings : Settings) (asksWorkflow : Bool) (operation : Operation) :
    (∀ e, operation.Refused settings e → e.isInvalidArgument = true ∧ ∀ t outcome,
      (performWith others settings asksWorkflow operation).Converses t outcome ↔
        t = [] ∧ outcome = .error e) ∧
    ∀ t e, (performWith others settings asksWorkflow operation).Converses t (.error e) →
      e.isInvalidArgument = true →
      (t = [] ∧ operation.Refused settings e) ∨ AnswersUnknownToken t e := by
  have asksNothing : ∀ {e t outcome}, operation.Refused settings e →
      ((performWith others settings asksWorkflow operation).Converses t outcome ↔
        t = [] ∧ outcome = .error e) := by
    intro e t outcome refused
    rw [performWith, Operation.answer_of_refused refused]
    exact Prog.converses_done
  refine ⟨fun e refused => ⟨Operation.isInvalidArgument_of_refused refused, fun _ _ =>
    asksNothing refused⟩, fun t e comes bad => ?_⟩
  by_cases refused : ∃ e, operation.Refused settings e
  · obtain ⟨e', refused⟩ := refused
    obtain ⟨nothing, same⟩ := (asksNothing refused).mp comes
    cases same
    exact .inl ⟨nothing, refused⟩
  · -- from the failure of the operation to that of the job store, and from there to a row
    obtain ⟨u, comes, parts⟩ := Prog.exists_converses_of_run comes
    rcases Operation.answer_passesOn (not_exists.mp refused) u e comes bad with none | ⟨_, mem, q, rfl⟩
    · cases none
    · obtain ⟨part, sub, comes⟩ := parts _ mem
      obtain ⟨statement, rows, mem, due⟩ := answersUnknownToken_of_jobsDatabase comes bad
      exact .inr ⟨statement, rows, sub.subset mem, due⟩

/-- The row of a job with the given status. -/
def rowWithStatus (status : String) : Row where
  cells := [("id", .int 7), ("config_type", .text "sync"), ("scope", .text "c"), ("status", .text status),
    ("created_at", .time ⟨0, 0⟩), ("updated_at", .time ⟨0, 0⟩)]

/-- A listing of no kind of job, and a job with an attempt of a status that no attempt has. -/
theorem bad_request_refused_or_unknown_token_both :
    let request : JobListRequest := ⟨⟨[], none, ⟨none, none⟩, ⟨none, none⟩, none, none, none⟩, none, none⟩
    let attempt : Row := ⟨[("job_id", .int 7), ("attempt_number", .int 0), ("status", .text "queued")]⟩
    (perform .standard none (.listJobs request)).Converses [] (.error (.invalidArgument .noConfigType)) ∧
      AnswersUnknownToken
        [⟨.jobs (Postgres.jobStatement 7), Except.ok [rowWithStatus "running"]⟩,
          ⟨.jobs (Postgres.attemptsStatement [7]), Except.ok [attempt]⟩]
        (.unrecognizedStatus "queued") := by
  intro request attempt
  constructor
  · have refused : (Operation.listJobs request).Refused .standard (.invalidArgument .noConfigType) := rfl
    have planning := (bad_request_refused_or_unknown_token (answer none) .standard false
      (.listJobs request)).1
    rw [perform_eq_performWith]
    exact ((planning _ refused).2 [] _).mpr ⟨rfl, rfl⟩
  · have comes : (perform .standard none (.info 7)).Converses
        [⟨.jobs (Postgres.jobStatement 7), Except.ok [rowWithStatus "running"]⟩,
          ⟨.jobs (Postgres.attemptsStatement [7]), Except.ok [attempt]⟩]
        (.error (.unrecognizedStatus "queued")) := .ask (.ask (.done _))
    rw [perform_eq_performWith] at comes
    have asked := (bad_request_refused_or_unknown_token (answer none) .standard false (.info 7)).2
    exact (asked _ _ comes rfl).resolve_left fun refused => List.cons_ne_nil _ _ refused.1

/-- The caller asks for a job by its number and is told that the status in the job's row is a bad
request. -/
theorem stored_status_is_bad_request :
    ∃ t e, t = [⟨.jobs (Postgres.jobStatement 7), Except.ok [rowWithStatus "queued"]⟩] ∧
      (perform .standard none (.infoLight 7)).Converses t (.error e) ∧ e.isInvalidArgument = true :=
  ⟨_, .unrecognizedStatus "queued", rfl, .ask (.done _), rfl⟩

end Deployment

end SyncHistory
