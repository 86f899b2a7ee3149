import SyncHistory.Connector
import SyncHistory.JobQuery
import SyncHistory.Program

/-!
# Inquiries

The questions that the history of jobs asks its surroundings: a job store, records of connections and
connectors, the workflows of connections, and files of log lines. An `Inquiry` is a program of such
questions that may fail; its first failure ends it, and nothing is asked after that.
-/

namespace SyncHistory

/-- What came of reading a file. -/
inductive FileRead where
  | missing
  | text (contents : String)
  | fault (fault : FileFault)
deriving DecidableEq

/-- What comes of reading a file with the given bytes, which have to be valid UTF-8. -/
def FileRead.ofBytes (bytes : ByteArray) : FileRead :=
  match String.fromUTF8? bytes with
  | some contents => .text contents
  | none => .fault .notText

/-- A question to the surroundings. -/
inductive Question where
  | jobs (q : JobQuery)
  | connectors (q : ConnectorQuery)
  | workflow (connection : Uuid)
  | file (path : String)
deriving DecidableEq

/-- What the surroundings may answer. -/
abbrev Question.Answer : Question → Type
  | .jobs q => Except HistoryError q.Result
  | .connectors q => Except LookupError q.Result
  | .workflow _ => Except LookupError (Option WorkflowState)
  | .file _ => FileRead

/-- The surroundings of the history of jobs. -/
abbrev surroundings : Interface := ⟨Question, Question.Answer⟩

/-- A computation that asks the surroundings and may fail. -/
abbrev Inquiry := ExceptT HistoryError (Prog surroundings)

namespace Inquiry

/-- An outcome that is known already; nothing is asked. -/
def ofExcept (outcome : Except HistoryError α) : Inquiry α :=
  ExceptT.mk (pure outcome)

/-- Asks the job store; its failure is a failure of the inquiry. -/
def jobs (q : JobQuery) : Inquiry q.Result :=
  ExceptT.mk (Prog.query (I := surroundings) (.jobs q))

/-- Asks for a record; a failed look-up names the entity that was asked for. -/
def connectors (q : ConnectorQuery) : Inquiry q.Result :=
  ExceptT.mk do
    let answer : Except LookupError q.Result ← Prog.query (I := surroundings) (.connectors q)
    return answer.mapError (LookupError.toHistoryError q.entity q.id)

/-- Asks for the state of a connection's workflow. -/
def workflow (connection : Uuid) : Inquiry (Option WorkflowState) :=
  ExceptT.mk do
    let answer : Except LookupError (Option WorkflowState) ←
      Prog.query (I := surroundings) (.workflow connection)
    return answer.mapError fun e => .transient (.workflowState e.message)

/-- Asks for the file at a path. -/
def file (path : String) : Inquiry FileRead :=
  ExceptT.lift (Prog.query (I := surroundings) (.file path))

end Inquiry

end SyncHistory
