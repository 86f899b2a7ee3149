import SyncHistory.CommandLine.Commands
import SyncHistory.Deployment
import SyncHistory.Json.Writer
import SyncHistory.Postgres.ConnectionString
import SyncHistory.Schema.Checker

/-!
# Running a command line

A command line is run as a program of errands: the configuration is read, both databases are connected
to, and then the operation is performed. What comes out is an exit code and two texts. A result is a
document over several lines; a failure is told from the outermost cause to the innermost. A command
line that cannot be read ends with the exit code 2 before anything is asked.
-/

namespace SyncHistory.CommandLine

/-- Something that a run asks of the outside. -/
inductive Errand where
  /-- To connect to the database that a connection string leads to. -/
  | connect (connectionString : String)
  | demand (d : Demand)
deriving DecidableEq

/-- What the outside may answer to a run. -/
def Errand.Answer : Errand → Type
  | connect _ => Except DatabaseFault Unit
  | .demand d => d.Answer

/-- The outside of a run. -/
def errands : Interface := ⟨Errand, Errand.Answer⟩

/-- What comes out of a run. -/
structure Output where
  code : UInt8
  stdout : String
  stderr : String
deriving DecidableEq

namespace Output

/-- The column in which the text of a numbered cause starts. -/
def numberWidth : Nat := 5

/-- A text with the further lines of it indented. -/
def indented (first rest : String) (text : String) : String :=
  first ++ Text.joinWith ("\n" ++ rest)
    ((Text.splitAtAll (· == '\n') text.toList).map String.ofList)

/-- Causes on lines of their own, numbered from the given number on. -/
def numberedCauses : (next : Nat) → List String → String
  | _, [] => ""
  | next, text :: rest =>
    let number := String.ofList (List.leftpad numberWidth ' ' (Digits.ofNat next))
    "\n" ++ indented (number ++ ": ") "       " text ++ numberedCauses (next + 1) rest

/-- Causes in words; a single one has no number. -/
def causes : List String → String
  | [] => ""
  | [text] => "\n\nCaused by:\n" ++ indented "    " "    " text
  | texts => "\n\nCaused by:" ++ numberedCauses 0 texts

/-- The output of a failure, told by a chain of causes. -/
def failure : List String → Output
  | [] => ⟨1, "", ""⟩
  | text :: rest => ⟨1, "", "Error: " ++ text ++ causes rest ++ "\n"⟩

def result (j : Json) : Output := ⟨0, j.pretty ++ "\n", ""⟩

def programName : String := "job-history"

/-- How the program is used, in short. -/
def usage : String :=
  "Usage: " ++ programName ++ " [--config <PATH>] <COMMAND>\n\nCommands: " ++
    Text.joinWith ", " (Command.all.map Command.name) ++ "\n"

/-- The output when there is no command to perform. -/
def stop : Stop → Output
  | .refused => ⟨2, "", usage⟩
  | .help => ⟨0, usage, ""⟩
  | .version => ⟨0, programName ++ " " ++ Config.version ++ "\n", ""⟩

end Output

/-- A run that may fail with a chain of causes. -/
abbrev Run := ExceptT (List String) (Prog errands)

namespace Run

/-- Asks something of the outside. -/
def errand (e : Errand) : Run e.Answer :=
  ExceptT.lift (Prog.query (I := errands) e)

/-- Runs a program of demands. -/
def demands (p : Prog outside α) : Run α :=
  ExceptT.lift (Prog.run (fun d => Prog.query (I := errands) (.demand d)) p)

/-- A value that is known already, or a failure of the configuration. -/
def ofConfig (outcome : Except ConfigError α) : Run α :=
  ExceptT.mk (pure (outcome.mapError ConfigError.chain))

/-- Connects to a database; the failure names its purpose. A connection string that says too little is
not tried. -/
def connect (connectionString purpose : String) : Run Unit := do
  let answer : Except DatabaseFault Unit ← match ConnectionString.check connectionString with
    | .ok () => errand (.connect connectionString)
    | .error fault => pure (.error fault)
  match answer with
  | .ok () => pure ()
  | .error fault =>
    throw ["Failed to connect to the " ++ purpose ++ " database",
      (HistoryError.transient (.database fault)).message]

/-- Performs an invocation under what the environment says. -/
def perform (overrides : Overrides) (i : Invocation) : Run Json := do
  let file : FileRead ← errand (.demand (.file i.configPath))
  let config ← ofConfig (Config.load i.configPath file overrides)
  connect (← ofConfig config.jobsUrl) "jobs"
  connect (← ofConfig config.connectorsUrl) "config"
  match ← demands (Deployment.perform config.settings config.workflow i.operation) with
  | .ok result => return result
  | .error e => throw [e.message]

end Run

/-- Runs a command line under what the environment says. -/
def run (overrides : Overrides) (words : List String) : Prog errands Output :=
  match Invocation.read words with
  | .error stop => return .stop stop
  | .ok i => do
    match ← (Run.perform overrides i).run with
    | .ok j => return .result j
    | .error chain => return .failure chain

end SyncHistory.CommandLine
