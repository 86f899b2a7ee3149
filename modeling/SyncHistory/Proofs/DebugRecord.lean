import SyncHistory.Debug
import SyncHistory.Proofs.Failure
import SyncHistory.Proofs.Stages

/-!
# How a debug record comes about

A debug record is put together from what was found in stages: the job, of each attempt the log and the
statistics, the owner of the job, its connection, the source and the destination with their definitions,
and the state of the workflow. `DebugFindings` is all that can be found; it knows the stages that lead to
it and the record that it makes.

`debug_record_or_first_failure` says that a record is given exactly when all of these stages go well, and
that otherwise the first one that does not is the last thing that is asked, and its failure the answer.
-/

namespace SyncHistory

/-- The last lines of what was read from a file, none if it was not there. -/
def FileRead.tail (count : Nat) : FileRead → List String
  | text contents => Log.tail count contents
  | missing | fault _ => []

/-- What is found about an attempt. -/
structure AttemptFindings where
  attempt : Attempt
  /-- What came of reading its log, if it has one. -/
  log : FileRead
  stats : AttemptStats

namespace AttemptFindings

/-- First the log is read, if there is one; then the store is asked for the statistics. -/
def stages (f : AttemptFindings) (id : JobId) : List Stage :=
  f.attempt.logPath.toList.map (fun path => .asked (.file path) f.log) ++
    [.asked (.jobs (.attemptStats id f.attempt.number)) (.ok f.stats)]

/-- The attempt with its statistics and the last lines of its log. -/
def info (f : AttemptFindings) (logLines : Nat) : AttemptInfo where
  attempt := (AttemptView.ofAttempt f.attempt).hydrate f.stats
  logLines := some <| match f.attempt.logPath with
    | some _ => f.log.tail logLines
    | none => []

end AttemptFindings

/-- What is found about a job. -/
structure DebugFindings where
  job : Job
  attempts : List AttemptFindings
  attempts_eq : attempts.map (·.attempt) = job.attempts
  /-- The connection that the job belongs to. -/
  owner : Uuid
  owner_eq : ∀ id, job.connectionId = some id → owner = id
  connection : Connection
  source : Actor
  destination : Actor
  sourceDefinition : Definition
  destinationDefinition : Definition
  workflowState : Option WorkflowState

namespace DebugFindings

/-- The stages in which all this is found, in order. -/
def stages (f : DebugFindings) (asksWorkflow : Bool) (id : JobId) : List Stage :=
  [.asked (.jobs (.get id)) (.ok (some f.job))] ++
  f.attempts.flatMap (·.stages f.job.id) ++
  [.owner f.job.scope,
    .asked (.connectors (.connection f.owner)) (.ok f.connection),
    .asked (.connectors (.source f.connection.sourceId)) (.ok f.source),
    .asked (.connectors (.destination f.connection.destinationId)) (.ok f.destination),
    .asked (.connectors (.sourceDefinition f.source.definitionId)) (.ok f.sourceDefinition),
    .asked (.connectors (.destinationDefinition f.destination.definitionId))
      (.ok f.destinationDefinition)] ++
  if asksWorkflow then [.asked (.workflow f.owner) (.ok f.workflowState)] else []

/-- The record of all this. -/
def record (f : DebugFindings) (logLines : Nat) (platformVersion : String) (asksWorkflow : Bool) :
    DebugInfo where
  job := {
    id := f.job.id
    configType := f.job.configType
    configId := f.job.scope
    status := f.job.status
    platformVersion
    sourceDefinition := f.sourceDefinition
    destinationDefinition := f.destinationDefinition }
  attempts := f.attempts.map (·.info logLines)
  connection := f.connection
  source := f.source
  destination := f.destination
  workflowState := if asksWorkflow then f.workflowState else none

end DebugFindings

namespace Inquiry

/-! ## Single stages -/

theorem follows_job (id : JobId) :
    (job id).Follows fun stages job => stages = [.asked (.jobs (.get id)) (.ok (some job))] := by
  have nonempty : Nonempty Job := ⟨0, .sync, "", none, .failed, ⟨0, 0⟩, ⟨0, 0⟩, none, []⟩
  refine Follows.answered (q := .jobs (.get id)) (fun job => .ok (some job)) nonempty (fun
    | .ok (some job) => .ok job
    | .ok none => .error (.notFound .job (Digits.intText id))
    | .error e => .error e) (congrArg (Prog.ask _) (funext fun r => ?_)) (fun r => ?_) ?_
  · rcases r with _ | _ | _ <;> rfl
  · rcases r with _ | _ | _ <;> rfl
  · intro r a
    rcases r with _ | _ | _
    · exact iff_of_false (fun h => by cases h) fun h => by cases h
    · exact iff_of_false (fun h => by cases h) fun h => by cases h
    · exact ⟨fun h => by cases h; rfl, fun h => by cases h; rfl⟩

theorem follows_attemptStats (id : JobId) (number : Int) :
    (jobs (.attemptStats id number)).Follows fun stages stats =>
      stages = [.asked (.jobs (.attemptStats id number)) (.ok stats)] := by
  refine Follows.answered (q := .jobs (.attemptStats id number)) .ok ⟨.empty number⟩ (fun r => r) rfl
    (fun r => ?_) Iff.rfl
  cases r <;> rfl

theorem nonempty_record (q : ConnectorQuery) : Nonempty q.Result := by
  have id : Uuid := ⟨.replicate 32 0⟩
  cases q with
  | connection => exact ⟨⟨id, "", id, id, ""⟩⟩
  | source | destination => exact ⟨⟨id, "", id, id, .null⟩⟩
  | sourceDefinition | destinationDefinition => exact ⟨⟨id, "", "", "", .null⟩⟩

theorem follows_connectors (q : ConnectorQuery) :
    (connectors q).Follows fun stages record => stages = [.asked (.connectors q) (.ok record)] := by
  refine Follows.answered (q := .connectors q) .ok (nonempty_record q)
    (Except.mapError (LookupError.toHistoryError q.entity q.id)) rfl (fun r => ?_) mapError_eq_ok
  rcases r with (_ | _ | _) | _ <;> rfl

theorem follows_workflow (connection : Uuid) :
    (workflow connection).Follows fun stages state =>
      stages = [.asked (.workflow connection) (.ok state)] := by
  refine Follows.answered (q := .workflow connection) .ok ⟨none⟩
    (Except.mapError fun e => .transient (.workflowState e.message)) rfl (fun r => ?_) mapError_eq_ok
  cases r <;> rfl

theorem follows_logTail (count : Nat) (path : Option String) :
    (logTail count path).Follows fun stages lines => ∃ log : FileRead,
      stages = path.toList.map (fun path => .asked (.file path) log) ∧
      lines = match path with
        | some _ => log.tail count
        | none => [] := by
  cases path with
  | none =>
    refine (Follows.pure []).congr fun stages lines => ?_
    exact ⟨fun h => ⟨.missing, h⟩, fun ⟨_, h⟩ => h⟩
  | some path =>
    refine Follows.question (q := .file path) (fun
      | .missing => .ok []
      | .text contents => .ok (Log.tail count contents)
      | .fault fault => .error (.transient (.logFile path fault)))
      (congrArg (Prog.ask _) (funext fun log => ?_)) (fun log => ?_) ?_ ?_ ?_
    · cases log <;> rfl
    · cases log <;> rfl
    · exact ⟨_, _, .missing, rfl, rfl⟩
    · rintro _ _ ⟨log, rfl, rfl⟩
      refine ⟨log, rfl, fun b judged => ?_⟩
      cases log with
      | missing | text contents =>
        cases judged
        rfl
      | fault fault => cases judged
    · intro log lines judged
      refine ⟨log, rfl, ?_⟩
      cases log with
      | missing | text contents =>
        cases judged
        rfl
      | fault fault => cases judged

/-- The owner of a job is known from its scope; nothing is asked. -/
theorem follows_owner (job : Job) :
    (owner job).Follows fun stages owner =>
      stages = [.owner job.scope] ∧ ∀ id, job.connectionId = some id → owner = id := by
  cases known : job.connectionId with
  | some id =>
    have well : (Stage.owner job.scope).failure? = none := by
      rw [Stage.failure?, show Uuid.parse? job.scope = some id from known]
    rw [show owner job = pure id by rw [owner, known]]
    refine ⟨⟨_, id, rfl, fun _ h => Option.some.inj h⟩, ?_, ?_⟩
    · intro t a
      rw [converses_pure]
      constructor
      · rintro ⟨rfl, same⟩
        cases same
        exact ⟨_, ⟨rfl, fun _ h => Option.some.inj h⟩, Stage.passed_singleton.mpr ⟨well, rfl⟩⟩
      · rintro ⟨_, ⟨rfl, found⟩, passed⟩
        exact ⟨(Stage.passed_singleton.mp passed).2, congrArg _ (found id rfl)⟩
    · intro t e
      rw [converses_pure]
      refine iff_of_false (fun h => by cases h.2) ?_
      rintro ⟨_, a, ⟨rfl, -⟩, failed⟩
      cases well.symm.trans (Stage.failsFirst_owner.mp failed).1
  | none =>
    -- nobody is the owner, but a plan needs one to go on with: any will do
    have failure : (Stage.owner job.scope).failure? = some (.notFound .connection job.scope) := by
      rw [Stage.failure?, show Uuid.parse? job.scope = none from known]
    rw [show owner job = throw (.notFound .connection job.scope) by rw [owner, known]]
    refine ⟨⟨_, ⟨.replicate 32 0⟩, rfl, fun _ h => by cases h⟩, ?_, ?_⟩
    · intro t a
      rw [converses_throw]
      refine iff_of_false (fun h => by cases h.2) ?_
      rintro ⟨_, ⟨rfl, -⟩, passed⟩
      cases failure.symm.trans (Stage.passed_singleton.mp passed).1
    · intro t e
      rw [converses_throw]
      constructor
      · rintro ⟨rfl, same⟩
        cases same
        exact ⟨_, ⟨.replicate 32 0⟩, ⟨rfl, fun _ h => by cases h⟩,
          Stage.failsFirst_owner.mpr ⟨failure, rfl⟩⟩
      · rintro ⟨_, a, ⟨rfl, -⟩, failed⟩
        obtain ⟨failure', rfl⟩ := Stage.failsFirst_owner.mp failed
        cases failure.symm.trans failure'
        exact ⟨rfl, rfl⟩

/-! ## The whole record -/

theorem follows_attemptInfo (logLines : Nat) (id : JobId) (attempt : Attempt) :
    (attemptInfo logLines id attempt).Follows fun stages info => ∃ f : AttemptFindings,
      f.attempt = attempt ∧ stages = f.stages id ∧ info = f.info logLines := by
  refine (Follows.bind (follows_logTail logLines attempt.logPath) fun lines =>
    Follows.bind (follows_attemptStats id attempt.number) fun stats =>
      Follows.pure _).congr fun stages info => ?_
  constructor
  · rintro ⟨_, _, _, rfl, ⟨log, rfl, rfl⟩, _, _, stats, rfl, rfl, rfl, rfl⟩
    exact ⟨⟨attempt, log, stats⟩, rfl, rfl, rfl⟩
  · rintro ⟨⟨_, log, stats⟩, rfl, rfl, rfl⟩
    exact ⟨_, _, _, rfl, ⟨log, rfl, rfl⟩, _, _, stats, rfl, rfl, rfl, rfl⟩

theorem follows_attempts (logLines : Nat) (id : JobId) (attempts : List Attempt) :
    (attempts.mapM (attemptInfo logLines id)).Follows fun stages infos =>
      ∃ fs : List AttemptFindings, fs.map (·.attempt) = attempts ∧
        stages = fs.flatMap (·.stages id) ∧ infos = fs.map (·.info logLines) := by
  induction attempts with
  | nil =>
    refine (Follows.pure []).congr fun stages infos => ?_
    constructor
    · rintro ⟨rfl, rfl⟩
      exact ⟨[], rfl, rfl, rfl⟩
    · rintro ⟨fs, none, rfl, rfl⟩
      rw [List.map_eq_nil_iff.mp none]
      exact ⟨rfl, rfl⟩
  | cons attempt attempts ih =>
    rw [List.mapM_cons]
    refine (Follows.bind (follows_attemptInfo logLines id attempt) fun info =>
      Follows.bind ih fun infos => Follows.pure _).congr fun stages infos => ?_
    constructor
    · rintro ⟨_, _, _, rfl, ⟨f, rfl, rfl, rfl⟩, _, _, _, rfl, ⟨fs, rfl, rfl, rfl⟩, rfl, rfl⟩
      exact ⟨f :: fs, rfl, by rw [List.append_nil, List.flatMap_cons], rfl⟩
    · rintro ⟨fs, same, rfl, rfl⟩
      -- findings are about as many attempts as there are
      cases fs with
      | nil => cases same
      | cons f fs =>
        cases same
        exact ⟨_, _, _, List.flatMap_cons, ⟨f, rfl, rfl, rfl⟩,
          _, _, _, (List.append_nil _).symm, ⟨fs, rfl, rfl, rfl⟩, rfl, rfl⟩

theorem follows_jobInfo (logLines : Nat) (job : Job) :
    (jobInfo logLines job).Follows fun stages info =>
      ∃ fs : List AttemptFindings, fs.map (·.attempt) = job.attempts ∧
        stages = fs.flatMap (·.stages job.id) ∧
        info = ⟨.ofJob job, fs.map (·.info logLines)⟩ := by
  refine (Follows.bind (follows_attempts logLines job.id job.attempts) fun infos =>
    Follows.pure _).congr fun stages info => ?_
  constructor
  · rintro ⟨_, _, _, rfl, ⟨fs, same, rfl, rfl⟩, rfl, rfl⟩
    exact ⟨fs, same, List.append_nil _, rfl⟩
  · rintro ⟨fs, same, rfl, rfl⟩
    exact ⟨_, _, _, (List.append_nil _).symm, ⟨fs, same, rfl, rfl⟩, rfl, rfl⟩

/-- The last stage, which is only there if there is anyone to ask. -/
theorem follows_workflow_if {asksWorkflow : Bool} {connection : Uuid}
    {f : Option WorkflowState → DebugInfo} :
    (if asksWorkflow then workflow connection >>= fun state => pure (f state)
      else pure none >>= fun state => pure (f state) : Inquiry DebugInfo).Follows
      fun stages info => ∃ state,
        stages = (if asksWorkflow then [.asked (.workflow connection) (.ok state)] else []) ∧
        info = f (if asksWorkflow then state else none) := by
  cases asksWorkflow with
  | true =>
    refine (Follows.bind (follows_workflow connection) fun state =>
      Follows.pure (f state)).congr fun stages info => ?_
    constructor
    · rintro ⟨_, _, state, rfl, rfl, rfl, rfl⟩
      exact ⟨state, rfl, rfl⟩
    · rintro ⟨state, rfl, rfl⟩
      exact ⟨_, _, state, rfl, rfl, rfl, rfl⟩
  | false =>
    refine (Follows.pure (f none)).congr fun stages info => ?_
    exact ⟨fun h => ⟨none, h⟩, fun ⟨_, h⟩ => h⟩

theorem follows_debugInfo (logLines : Nat) (platformVersion : String) (asksWorkflow : Bool) (id : JobId) :
    (debugInfo logLines platformVersion asksWorkflow id).Follows fun stages info =>
      ∃ f : DebugFindings, stages = f.stages asksWorkflow id ∧
        info = f.record logLines platformVersion asksWorkflow := by
  refine (Follows.bind (follows_job id) fun job =>
    Follows.bind (follows_jobInfo logLines job) fun info =>
    Follows.bind (follows_owner job) fun owner =>
    Follows.bind (follows_connectors (.connection owner)) fun connection =>
    Follows.bind (follows_connectors (.source connection.sourceId)) fun source =>
    Follows.bind (follows_connectors (.destination connection.destinationId)) fun destination =>
    Follows.bind (follows_connectors (.sourceDefinition source.definitionId)) fun sourceDefinition =>
    Follows.bind (follows_connectors (.destinationDefinition destination.definitionId))
      fun destinationDefinition => follows_workflow_if).congr fun stages info => ?_
  constructor
  · rintro ⟨_, _, job, rfl, rfl, _, _, _, rfl, ⟨attempts, attempts_eq, rfl, rfl⟩,
      _, _, owner, rfl, ⟨rfl, owner_eq⟩, _, _, connection, rfl, rfl, _, _, source, rfl, rfl,
      _, _, destination, rfl, rfl, _, _, sourceDefinition, rfl, rfl,
      _, _, destinationDefinition, rfl, rfl, workflowState, rfl, rfl⟩
    refine ⟨⟨job, attempts, attempts_eq, owner, owner_eq, connection, source, destination,
      sourceDefinition, destinationDefinition, workflowState⟩, ?_, rfl⟩
    simp only [DebugFindings.stages, List.append_assoc, List.cons_append, List.nil_append]
  · rintro ⟨⟨job, attempts, attempts_eq, owner, owner_eq, connection, source, destination,
      sourceDefinition, destinationDefinition, workflowState⟩, rfl, rfl⟩
    refine ⟨_, _, job, ?_, rfl, _, _, _, rfl, ⟨attempts, attempts_eq, rfl, rfl⟩,
      _, _, owner, rfl, ⟨rfl, owner_eq⟩, _, _, connection, rfl, rfl, _, _, source, rfl, rfl,
      _, _, destination, rfl, rfl, _, _, sourceDefinition, rfl, rfl,
      _, _, destinationDefinition, rfl, rfl, workflowState, rfl, rfl⟩
    simp only [DebugFindings.stages, List.append_assoc, List.cons_append, List.nil_append]

end Inquiry

/-- **First failures of debug records.** Whatever is answered, a conversation comes to a debug record
exactly when it consists of the stages of some findings, all of which go well, and then the record is the
one of these findings; it comes to a failure exactly when that is the failure of the first stage not to go
well, after which nothing is asked. Every run is such a conversation, also against somebody whose answers
depend on what was asked before. -/
theorem debug_record_or_first_failure (logLines : Nat) (platformVersion : String) (asksWorkflow : Bool)
    (id : JobId) :
    (∀ t info, (Inquiry.debugInfo logLines platformVersion asksWorkflow id).Converses t (.ok info) ↔
      ∃ f : DebugFindings, Stage.Passed (f.stages asksWorkflow id) t ∧
        info = f.record logLines platformVersion asksWorkflow) ∧
    (∀ t e, (Inquiry.debugInfo logLines platformVersion asksWorkflow id).Converses t (.error e) ↔
      ∃ f : DebugFindings, Stage.FailsFirst (f.stages asksWorkflow id) t e) ∧
    ∀ (σ : Type) (answer : (q : Question) → StateM σ q.Answer) (s : σ),
      (Inquiry.debugInfo logLines platformVersion asksWorkflow id).Converses
        ((Inquiry.debugInfo logLines platformVersion asksWorkflow id).run.transcript answer s)
        (((Inquiry.debugInfo logLines platformVersion asksWorkflow id).run.run answer).run s).1 := by
  have follows := Inquiry.follows_debugInfo logLines platformVersion asksWorkflow id
  refine ⟨fun t info => ?_, fun t e => ?_, fun σ answer s =>
    Prog.converses_transcript (I := surroundings) answer _ s⟩
  · rw [follows.ok]
    constructor
    · rintro ⟨_, ⟨f, rfl, rfl⟩, passed⟩
      exact ⟨f, passed, rfl⟩
    · rintro ⟨f, passed, rfl⟩
      exact ⟨_, ⟨f, rfl, rfl⟩, passed⟩
  · rw [follows.error]
    constructor
    · rintro ⟨_, _, ⟨f, rfl, rfl⟩, failed⟩
      exact ⟨f, failed⟩
    · rintro ⟨f, failed⟩
      exact ⟨_, _, ⟨f, rfl, rfl⟩, failed⟩

end SyncHistory
