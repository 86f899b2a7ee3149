import SyncHistory.CommandLine.Arguments
import SyncHistory.Config

/-!
# Commands

Each command of the command line performs one operation. `Command.signature` says what may stand behind a
command, and `Command.operation?` which operation it performs with what was given.
`Invocation.read` reads a whole command line, whose first words may be about all commands.
-/

namespace SyncHistory.CommandLine

inductive Command where
  | list
  | listWorkspaces
  | info
  | infoLight
  | debug
  | lastReplication
  | latestRunning
  | latestSync
  | progress
  | latestSyncs
  | runningSyncs
  | normalization
  | syncModes
deriving DecidableEq

namespace Command

def all : List Command :=
  [list, listWorkspaces, info, infoLight, debug, lastReplication, latestRunning, latestSync, progress,
    latestSyncs, runningSyncs, normalization, syncModes]

def name : Command → String
  | list => "list"
  | listWorkspaces => "list-workspaces"
  | info => "info"
  | infoLight => "info-light"
  | debug => "debug"
  | lastReplication => "last-replication"
  | latestRunning => "latest-running"
  | latestSync => "latest-sync"
  | progress => "progress"
  | latestSyncs => "latest-syncs"
  | runningSyncs => "running-syncs"
  | normalization => "normalization"
  | syncModes => "sync-modes"

def ofName? (name : String) : Option Command :=
  all.find? fun c => c.name == name

end Command

/-- The option for the path of the configuration, which every command has. -/
def configOption : OptionRule := ⟨"config", .single, .path, false⟩

/-- The options of listings. -/
def listingOptions : List OptionRule :=
  [⟨"config-type", .several, .configType, true⟩, ⟨"status", .repeated, .text, false⟩,
    ⟨"created-after", .single, .instant, false⟩, ⟨"created-before", .single, .instant, false⟩,
    ⟨"updated-after", .single, .instant, false⟩, ⟨"updated-before", .single, .instant, false⟩,
    ⟨"page-size", .single, .count, false⟩, ⟨"row-offset", .single, .count, false⟩,
    ⟨"order-by", .single, .text, false⟩, ⟨"order", .single, .text, false⟩]

namespace Command

/-- The options of a command, apart from those of every command. -/
def options : Command → List OptionRule
  | list =>
    ⟨"config-id", .single, .text, false⟩ :: ⟨"including-job-id", .single, .jobId, false⟩ :: listingOptions
  | listWorkspaces => ⟨"workspace-id", .several, .uuid, true⟩ :: listingOptions
  | info => [⟨"without-logs", .flag, .text, false⟩]
  | _ => []

def operands : Command → OperandRule
  | list | listWorkspaces => .nothing
  | info | infoLight | debug | normalization | syncModes => .one .jobId
  | lastReplication | latestRunning | latestSync | progress => .one .uuid
  | latestSyncs | runningSyncs => .many .uuid

/-- What may stand behind a command. -/
def signature (c : Command) : Signature :=
  ⟨configOption :: c.options, c.operands⟩

end Command

namespace Given

/-- The page that is asked for, if anything is said about it. -/
def pagination (g : Given) : Option Pagination :=
  let page : Pagination := ⟨(g.valueOf? "page-size").bind count?, (g.valueOf? "row-offset").bind count?⟩
  if page.pageSize.isSome || page.rowOffset.isSome then some page else none

/-- The kinds of jobs that are asked for. -/
def configTypes (g : Given) : List ConfigType :=
  (g.valuesOf "config-type").filterMap fun s => (ConfigType.parse s).toOption

def listingRequest (g : Given) : ListingRequest :=
  let statuses := g.valuesOf "status"
  let time (name : String) : Option Instant := (g.valueOf? name).bind Instant.parse?
  { configTypes := g.configTypes
    statuses := if statuses.isEmpty then none else some statuses
    createdAt := ⟨time "created-after", time "created-before"⟩
    updatedAt := ⟨time "updated-after", time "updated-before"⟩
    pagination := g.pagination
    orderByField := g.valueOf? "order-by"
    orderByMethod := g.valueOf? "order" }

/-- The request for a listing of one scope, or of all scopes. -/
def jobListRequest (g : Given) : JobListRequest :=
  { g.listingRequest with
    configId := g.valueOf? "config-id"
    includingJobId := (g.valueOf? "including-job-id").bind integer? }

/-- The request for a listing of workspaces. -/
def workspaceListRequest (g : Given) : WorkspaceListRequest :=
  { g.listingRequest with
    workspaceIds := (g.valuesOf "workspace-id").filterMap Uuid.parse? }

/-- The job that is meant. -/
def jobId? (g : Given) : Option JobId :=
  g.operands.head?.bind integer?

/-- The connections that are meant. -/
def connections (g : Given) : List Uuid :=
  g.operands.filterMap Uuid.parse?

end Given

/-- The operation that a command performs with what was given. -/
def Command.operation? (g : Given) : Command → Option Operation
  | list => some (.listJobs g.jobListRequest)
  | listWorkspaces => some (.listWorkspaces g.workspaceListRequest)
  | info => g.jobId?.map fun id => if g.has "without-logs" then .infoWithoutLogs id else .info id
  | infoLight => g.jobId?.map .infoLight
  | debug => g.jobId?.map .debug
  | lastReplication => g.connections.head?.map .lastReplication
  | latestRunning => g.connections.head?.map .latestRunning
  | latestSync => g.connections.head?.map .latestSync
  | progress => g.connections.head?.map .progress
  | latestSyncs => some (.latestSyncs g.connections)
  | runningSyncs => some (.runningSyncs g.connections)
  | normalization => g.jobId?.map .normalization
  | syncModes => g.jobId?.map .syncModes

/-- What to do: an operation under the configuration at a path. -/
structure Invocation where
  configPath : String
  operation : Operation
deriving DecidableEq

namespace Invocation

/-- Reads a command and the words behind it. A path that is given there comes before one that was given
in front of the command. -/
def ofCommand (configPath : Option String) (c : Command) (words : List String) :
    Except Stop Invocation := do
  let g ← c.signature.read words
  match c.operation? g with
  | some operation =>
    return ⟨((g.valueOf? "config").or configPath).getD Config.defaultPath, operation⟩
  | none => throw .refused

/-- What a request for help about the named commands comes to: at most one command can be named. -/
def helpAbout : List String → Stop
  | [] => .help
  | [name] => if (Command.ofName? name).isSome || name = "help" then .help else .refused
  | _ => .refused

/-- The stop that a short option in front of the command stands for. -/
def shortStop : List Char → Stop
  | 'h' :: _ => .help
  | 'V' :: _ => .version
  | _ => .refused

/-- Reads a command line after its first words, which may have given a path. -/
def readFrom : (configPath : Option String) → List String → Except Stop Invocation
  | _, [] => .error .refused
  | configPath, word :: rest =>
    match Word.of word with
    | .value =>
      match Command.ofName? word with
      | some c => ofCommand configPath c rest
      | none => .error (if word = "help" then helpAbout rest else .refused)
    | .separator => .error .refused
    | .short letters => .error (shortStop letters)
    | .option "help" none => .error .help
    | .option "version" none => .error .version
    | .option "config" (some path) =>
      if configPath.isNone && configOption.kind.accepts path then readFrom (some path) rest
      else .error .refused
    | .option "config" none =>
      match rest with
      | path :: rest =>
        if configPath.isNone && Word.of path == .value && configOption.kind.accepts path then
          readFrom (some path) rest
        else .error .refused
      | [] => .error .refused
    | .option .. => .error .refused

/-- Reads a command line. -/
def read (words : List String) : Except Stop Invocation := readFrom none words

end Invocation

end SyncHistory.CommandLine
