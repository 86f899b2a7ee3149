import SyncHistory.Error
import SyncHistory.Json.Record

/-!
# Statuses

A job is in one of six statuses, an attempt in one of three. Each status has a name; who may write the
name in which letter case differs: a stored job status is read exactly, an attempt status and the
status token of a request are read without regard to ASCII case.
-/

namespace SyncHistory

inductive JobStatus where
  | pending
  | running
  | incomplete
  | failed
  | succeeded
  | cancelled
deriving DecidableEq

namespace JobStatus

def all : List JobStatus := [pending, running, incomplete, failed, succeeded, cancelled]

/-- The statuses of jobs that may still make progress. -/
def nonTerminal : List JobStatus := [pending, running, incomplete]

def name : JobStatus → String
  | pending => "pending"
  | running => "running"
  | incomplete => "incomplete"
  | failed => "failed"
  | succeeded => "succeeded"
  | cancelled => "cancelled"

/-- Is the job over? -/
def isTerminal (s : JobStatus) : Bool :=
  !nonTerminal.contains s

/-- Reads the exact name. -/
def parse (token : String) : Except HistoryError JobStatus :=
  match all.find? fun s => s.name == token with
  | some s => .ok s
  | none => .error (.unrecognizedStatus token)

def toJson (s : JobStatus) : Json := .str s.name

def ofJson? : Json → Option JobStatus := Json.oneOf? all name

end JobStatus

/-- A status as callers name it. -/
inductive StatusToken where
  | pending
  | running
  | incomplete
  | failed
  | succeeded
  | cancelled
deriving DecidableEq

namespace StatusToken

def all : List StatusToken := [pending, running, incomplete, failed, succeeded, cancelled]

def name : StatusToken → String
  | pending => "pending"
  | running => "running"
  | incomplete => "incomplete"
  | failed => "failed"
  | succeeded => "succeeded"
  | cancelled => "cancelled"

/-- Reads a name without regard to letter case. -/
def parse (token : String) : Except HistoryError StatusToken :=
  match all.find? fun s => Text.sameLetters s.name token with
  | some s => .ok s
  | none => .error (.unrecognizedStatus token)

/-- The status of stored jobs that the token stands for. -/
def toJobStatus : StatusToken → JobStatus
  | pending => .pending
  | running => .running
  | incomplete => .incomplete
  | failed => .failed
  | succeeded => .succeeded
  | cancelled => .cancelled

def toJson (s : StatusToken) : Json := .str s.name

def ofJson? : Json → Option StatusToken := Json.oneOf? all name

end StatusToken

/-- The statuses that tokens stand for, in the order of the tokens; the first unknown token is the
failure. -/
def JobStatus.ofTokens (tokens : List String) : Except HistoryError (List JobStatus) :=
  tokens.mapM fun token => (StatusToken.parse token).map StatusToken.toJobStatus

/-- The status of one attempt at a job. -/
inductive AttemptStatus where
  | running
  | failed
  | succeeded
deriving DecidableEq

namespace AttemptStatus

def all : List AttemptStatus := [running, failed, succeeded]

def name : AttemptStatus → String
  | running => "running"
  | failed => "failed"
  | succeeded => "succeeded"

/-- Reads a name without regard to letter case; an unknown one is reported in lower case. -/
def parse (token : String) : Except HistoryError AttemptStatus :=
  let token := Text.lower token
  match all.find? fun s => s.name == token with
  | some s => .ok s
  | none => .error (.unrecognizedStatus token)

def toJson (s : AttemptStatus) : Json := .str s.name

def ofJson? : Json → Option AttemptStatus := Json.oneOf? all name

end AttemptStatus

end SyncHistory
