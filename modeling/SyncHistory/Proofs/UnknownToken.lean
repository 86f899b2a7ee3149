import SyncHistory.Postgres.Jobs
import SyncHistory.Proofs.Conversation
import SyncHistory.Proofs.Failure

/-!
# Unknown tokens in a database

The readers of rows report an unknown token as requests with one are reported, so a row of a job with a kind
or a status that no job has comes out as a bad request, and so does a row of an attempt with a status that
no attempt has. `Postgres.UnknownToken` says that such a row answers a statement; whether a token is known
depends on what the rows of the statement are read as. Nothing else in a row makes a bad request:
`Postgres.answer_blames` finds the unknown token to each one that the answer to a question comes to.

`Blames` follows bad requests through a program: each is known from the start, or one of the answers is to
blame for it. Programs that are put together from such programs are such programs, so there is one short
lemma for each transaction, and one for each reader of rows (`Excused`).
-/

namespace SyncHistory

variable {α β : Type}

/-- The token in a column of the row is unknown to its reader, and this is the failure. -/
def Row.HasUnknown (row : Row) (column : String) (parse : String → Except HistoryError α)
    (e : HistoryError) : Prop :=
  ∃ token, row.get column = .text token ∧ parse token = .error e

/-- The kind or the status in the row of a job is one that no job has. -/
def Row.UnknownJobToken (row : Row) (e : HistoryError) : Prop :=
  row.HasUnknown "config_type" ConfigType.parse e ∨ row.HasUnknown "status" JobStatus.parse e

/-- The status in the row of an attempt is one that no attempt has. -/
def Row.UnknownAttemptToken (row : Row) (e : HistoryError) : Prop :=
  row.HasUnknown "status" AttemptStatus.parse e

/-- A row that answers the statement cannot be read for an unknown token in it, and this is the failure. -/
inductive Postgres.UnknownToken (row : Row) (e : HistoryError) : Statement → Prop
  | listed {filter : JobFilter} {order : JobOrder} {window : Option Window}
      (failed : job row = .error e) (unknown : row.UnknownJobToken e) :
      UnknownToken row e (listStatement filter order window)
  | single {id : JobId} (failed : job row = .error e) (unknown : row.UnknownJobToken e) :
      UnknownToken row e (jobStatement id)
  /-- The kind of a latest job is not read. -/
  | latest {scopes : List String} {configTypes : List ConfigType} (failed : summary row = .error e)
      (unknown : row.HasUnknown "status" JobStatus.parse e) :
      UnknownToken row e (latestStatement scopes configTypes)
  | attempt {ids : List JobId} (failed : ownedAttempt row = .error e)
      (unknown : row.UnknownAttemptToken e) : UnknownToken row e (attemptsStatement ids)

/-! ## Outcomes -/

/-- The outcome is no bad request, or one that is known. -/
def Excused (known : HistoryError → Prop) (outcome : Except HistoryError α) : Prop :=
  ∀ e, outcome = .error e → e.isInvalidArgument = true → known e

namespace Excused

variable {known known' : HistoryError → Prop}

theorem ok (a : α) : Excused known (.ok a) :=
  fun _ h => by cases h

theorem imp {outcome : Except HistoryError α} (excused : Excused known outcome)
    (weaker : ∀ e, known e → known' e) : Excused known' outcome :=
  fun e failed bad => weaker e (excused e failed bad)

theorem bind {x : Except HistoryError α} {f : α → Except HistoryError β} (first : Excused known x)
    (second : ∀ a, x = .ok a → Excused known (f a)) : Excused known (x >>= f) := by
  intro e failed bad
  rcases bind_eq_error.mp failed with failed | ⟨a, read, failed⟩
  · exact first e failed bad
  · exact second a read e failed bad

theorem mapM {read : α → Except HistoryError β} {as : List α}
    (each : ∀ a ∈ as, Excused known (read a)) : Excused known (as.mapM read) := by
  intro e failed bad
  obtain ⟨a, mem, failed⟩ := exists_of_mapM_eq_error failed
  exact each a mem e failed bad

/-- A value of another type than expected is a fault of the database. -/
theorem fault (outcome : Except DatabaseFault α) :
    Excused known (outcome.mapError fun fault => HistoryError.transient (.database fault)) := by
  intro e failed bad
  cases outcome with
  | ok a => cases failed
  | error fault =>
    cases failed
    cases bad

theorem read {c : Columns} {row : Row} {name : String} {decode : SqlValue → Option α} :
    Excused known (Postgres.read c row name decode) :=
  fault _

end Excused

/-! ## Following bad requests -/

/-- Every bad request that the program comes to is known, or one of the answers is to blame for it. -/
def Blames {I : Interface} (known : HistoryError → Prop) (blame : Exchange I → HistoryError → Prop)
    (p : ExceptT HistoryError (Prog I) α) : Prop :=
  ∀ t e, p.run.Converses t (.error e) → e.isInvalidArgument = true → known e ∨ ∃ x ∈ t, blame x e

namespace Blames

variable {I : Interface} {known : HistoryError → Prop} {blame : Exchange I → HistoryError → Prop}

theorem ofOutcome {outcome : Except HistoryError α} (excused : Excused known outcome) :
    Blames known blame (ExceptT.mk (.done outcome)) := by
  intro t e comes bad
  obtain ⟨-, same⟩ := Prog.converses_done.mp comes
  exact .inl (excused e same.symm bad)

theorem pure (a : α) : Blames known blame (Pure.pure a) :=
  ofOutcome (.ok a)

theorem imp {known' : HistoryError → Prop} {p : ExceptT HistoryError (Prog I) α}
    (blames : Blames known blame p) (weaker : ∀ e, known e → known' e) : Blames known' blame p :=
  fun t e comes bad => (blames t e comes bad).imp_left (weaker e)

/-- An answer is known to what is done with it. -/
theorem ask {q : I.Query} {k : I.Answer q → Prog I (Except HistoryError α)}
    (answered : ∀ r, Blames (fun e => known e ∨ blame ⟨q, r⟩ e) blame (ExceptT.mk (k r))) :
    Blames known blame (ExceptT.mk (.ask q k)) := by
  intro t e comes bad
  obtain ⟨r, rest, rfl, goesOn⟩ := Prog.converses_ask.mp comes
  rcases answered r rest e goesOn bad with (excused | first) | ⟨x, mem, later⟩
  · exact .inl excused
  · exact .inr ⟨_, List.mem_cons_self, first⟩
  · exact .inr ⟨x, List.mem_cons_of_mem _ mem, later⟩

theorem bind {p : ExceptT HistoryError (Prog I) α} {f : α → ExceptT HistoryError (Prog I) β}
    (first : Blames known blame p) (second : ∀ a, Blames known blame (f a)) :
    Blames known blame (p >>= f) := by
  intro t e comes bad
  obtain ⟨t₁, t₂, outcome, rfl, comes₁, comes₂⟩ := Prog.converses_bind.mp comes
  cases outcome with
  | error e' =>
    -- the second program is not run
    obtain ⟨rfl, same⟩ := Prog.converses_done.mp comes₂
    cases same
    rw [List.append_nil]
    exact first t₁ e comes₁ bad
  | ok a =>
    refine (second a t₂ e comes₂ bad).imp_right fun ⟨x, mem, due⟩ => ?_
    exact ⟨x, List.mem_append_right t₁ mem, due⟩

theorem map {p : ExceptT HistoryError (Prog I) α} (first : Blames known blame p) (f : α → β) :
    Blames known blame (p >>= fun a => Pure.pure (f a)) :=
  first.bind fun a => pure (f a)

theorem mapM {f : α → ExceptT HistoryError (Prog I) β} (each : ∀ a, Blames known blame (f a))
    (as : List α) : Blames known blame (as.mapM f) := by
  induction as with
  | nil => exact pure []
  | cons a as ih =>
    rw [List.mapM_cons]
    exact (each a).bind fun b => ih.bind fun bs => pure (b :: bs)

end Blames

/-! ## Rows -/

namespace Postgres

variable {known : HistoryError → Prop} {row : Row}

theorem text_of_read {c : Columns} {name token : String} (found : read c row name SqlValue.text? = .ok token) :
    row.get name = .text token := by
  rw [read, mapError_eq_ok, Columns.read] at found
  cases value : row.get name with
  | text s =>
    rw [value] at found
    cases found
    rfl
  | _ =>
    rw [value] at found
    cases found

/-- A token from a row is known to its reader, or the row has an unknown one. -/
theorem token_excused {c : Columns} {column token : String} (parse : String → Except HistoryError α)
    (found : read c row column SqlValue.text? = .ok token) :
    Excused (row.HasUnknown column parse) (parse token) :=
  fun _ unknown _ => ⟨token, text_of_read found, unknown⟩

theorem job_excused (row : Row) : Excused row.UnknownJobToken (job row) :=
  .bind .read fun _ _ => .bind .read fun _ status => .bind .read fun _ configType => .bind .read fun _ _ =>
  .bind ((token_excused ConfigType.parse configType).imp fun _ => .inl) fun _ _ =>
  .bind .read fun _ _ => .bind ((token_excused JobStatus.parse status).imp fun _ => .inr) fun _ _ =>
  .bind .read fun _ _ => .bind .read fun _ _ => .bind .read fun _ _ => .ok _

theorem summary_excused (row : Row) :
    Excused (row.HasUnknown "status" JobStatus.parse) (summary row) :=
  .bind .read fun _ status => .bind .read fun _ _ => .bind .read fun _ _ => .bind .read fun _ _ =>
  .bind (token_excused JobStatus.parse status) fun _ _ => .ok _

theorem attempt_excused (row : Row) : Excused row.UnknownAttemptToken (attempt row) :=
  .bind .read fun _ status => .bind .read fun _ _ => .bind .read fun _ _ =>
  .bind (token_excused AttemptStatus.parse status) fun _ _ => .bind .read fun _ _ =>
  .bind .read fun _ _ => .bind .read fun _ _ => .bind .read fun _ _ => .bind .read fun _ _ => .ok _

theorem ownedAttempt_excused (row : Row) : Excused row.UnknownAttemptToken (ownedAttempt row) :=
  .bind .read fun _ _ => .bind (attempt_excused row) fun _ _ => .ok _

/-! Rows without tokens make no bad requests. -/

theorem counters_excused (c : Columns) (row : Row) : Excused known (counters c row) :=
  have counter {name : String} : Excused known (counter c row name) := .bind .read fun _ _ => .ok _
  .bind counter fun _ _ => .bind counter fun _ _ => .bind counter fun _ _ => .bind counter fun _ _ => .ok _

theorem totals_excused (row : Row) : Excused known (totals row) :=
  .bind .read fun _ _ => .bind (counters_excused _ row) fun _ _ => .ok _

theorem stream_excused (row : Row) : Excused known (stream row) :=
  .bind .read fun _ _ => .bind .read fun _ _ => .bind .read fun _ _ =>
  .bind (counters_excused _ row) fun _ _ => .ok _

theorem normalization_excused (row : Row) : Excused known (normalization row) :=
  .bind .read fun _ _ => .bind .read fun _ _ => .bind .read fun _ _ => .ok _

/-! ## Answers from a database -/

/-- The answer to a statement has a row with an unknown token. -/
def HasUnknownToken (x : Exchange database) (e : HistoryError) : Prop :=
  ∃ rows, x.2 = Except.ok rows ∧ ∃ row ∈ rows, UnknownToken row e x.1

/-- Every bad request that the transaction comes to is known, or due to a row that the database answers. -/
abbrev TransactionBlames (known : HistoryError → Prop) (p : Transaction α) : Prop :=
  Blames known HasUnknownToken p

theorem ofExcept_blames {outcome : Except HistoryError α} (excused : Excused known outcome) :
    TransactionBlames known (ofExcept outcome) :=
  .ofOutcome excused

theorem ofFault_blames (outcome : Except DatabaseFault α) : TransactionBlames known (ofFault outcome) :=
  ofExcept_blames (.fault outcome)

/-- The rows that answer a statement are known from then on. -/
theorem rows_blames {statement : Statement} {f : List Row → Transaction α}
    (answered : ∀ found, TransactionBlames
      (fun e => known e ∨ ∃ row ∈ found, UnknownToken row e statement) (f found)) :
    TransactionBlames known (rows statement >>= f) := by
  refine Blames.ask fun r => ?_
  cases r with
  | error fault =>
    -- a failed statement ends the transaction, and is no bad request
    refine Blames.ofOutcome fun e failed bad => ?_
    cases failed
    cases bad
  | ok found => exact (answered found).imp fun e => .imp_right fun due => ⟨found, rfl, due⟩

/-- Reading a row fails for an unknown token if it is a bad request. -/
theorem mapM_blames {statement : Statement} {read : Row → Except HistoryError α}
    (each : ∀ row, Excused (fun e => UnknownToken row e statement) (read row)) (found : List Row) :
    TransactionBlames (fun e => known e ∨ ∃ row ∈ found, UnknownToken row e statement)
      (ofExcept (found.mapM read)) :=
  ofExcept_blames (.mapM fun row mem => (each row).imp fun _ unknown => .inr ⟨row, mem, unknown⟩)

theorem withAttempts_blames (jobs : List Job) : TransactionBlames known (withAttempts jobs) := by
  unfold withAttempts
  split
  · exact .pure []
  · refine rows_blames fun found => (mapM_blames (fun row e failed bad => ?_) found).map _
    exact .attempt failed (ownedAttempt_excused row e failed bad)

theorem listJobs_blames (filter : JobFilter) (order : JobOrder) (window : Option Window) :
    TransactionBlames known (listJobs filter order window) := by
  refine rows_blames fun found => (mapM_blames (fun row e failed bad => ?_) found).bind withAttempts_blames
  exact .listed failed (job_excused row e failed bad)

theorem countJobs_blames (filter : JobFilter) : TransactionBlames known (countJobs filter) :=
  rows_blames fun found => (ofFault_blames (Row.one found)).bind fun _ => (ofExcept_blames .read).map _

theorem position_blames (filter : JobFilter) (order : JobOrder) (id : JobId) :
    TransactionBlames known (position filter order id) := by
  refine rows_blames fun found => (ofFault_blames (Row.atMostOne found)).bind fun row => ?_
  cases row with
  | none => exact .pure none
  | some row => exact (ofExcept_blames .read).map _

theorem getJob_blames (id : JobId) : TransactionBlames known (getJob id) := by
  refine rows_blames fun found => ?_
  rcases found with _ | ⟨row, _ | ⟨_, _⟩⟩
  · exact .pure none
  · have only : Excused (fun e => known e ∨ ∃ row' ∈ [row], UnknownToken row' e (jobStatement id)) (job row) :=
      fun e failed bad =>
        .inr ⟨row, List.mem_singleton_self row, .single failed (job_excused row e failed bad)⟩
    exact (ofExcept_blames only).bind fun job => (withAttempts_blames [job]).map _
  · exact ofFault_blames (.error .unexpectedRowCount)

theorem latest_blames (scopes : List String) (configTypes : List ConfigType) :
    TransactionBlames known (latest scopes configTypes) := by
  unfold latest
  split
  · exact .pure []
  · refine rows_blames (mapM_blames fun row e failed bad => ?_)
    exact .latest failed (summary_excused row e failed bad)

theorem stats_blames (id : JobId) (number : Option Int) : TransactionBlames known (stats id number) :=
  rows_blames fun _ => rows_blames fun _ =>
    (ofExcept_blames (.mapM fun row _ => totals_excused row)).bind fun _ =>
    (ofExcept_blames (.mapM fun row _ => stream_excused row)).map _

theorem normalizationStatuses_blames (id : JobId) : TransactionBlames known (normalizationStatuses id) :=
  rows_blames fun _ => ofExcept_blames (.mapM fun row _ => normalization_excused row)

/-- A bad request that comes out of a question about jobs is due to a row with an unknown token. -/
theorem answer_blames (q : JobQuery) : TransactionBlames (fun _ => False) (answer q) := by
  cases q with
  | list filter order window => exact listJobs_blames filter order window
  | count filter => exact countJobs_blames filter
  | position filter order id => exact position_blames filter order id
  | get id => exact getJob_blames id
  | latest scopes configTypes => exact latest_blames scopes configTypes
  | jobStats id => exact stats_blames id none
  | attemptStats id number => exact (stats_blames id (some number)).map _
  | normalization id => exact normalizationStatuses_blames id

end Postgres

end SyncHistory
