import SyncHistory.History
import SyncHistory.Toml.Reader

/-!
# Configuration

Where the databases are, how the history of jobs answers, and whom to ask about workflows. A
configuration is read from a TOML document, if there is one, and then overridden by the environment. Keys
that are not known are ignored; what is missing has a default, save the address of the workflows where
that section is given.

A section is a table. An array stands for the table with its items as values, in the order of the keys,
and a date or time for a table without known keys.
-/

namespace SyncHistory

/-- Why there is no configuration. -/
inductive ConfigError where
  /-- A document is no TOML, or some of its values are of the wrong type. -/
  | malformed
  /-- The file at a path holds such a document. -/
  | malformedFile (path : String)
  | unreadable (path : String) (fault : FileFault)
  | zeroPageSize
  | noDatabase
deriving DecidableEq

/-- What is wrong with a malformed document, in words. -/
def malformedChain : List String :=
  ["Invalid TOML configuration", "a key or its value is not as expected"]

/-- The failure in words, from the outermost cause to the innermost. -/
def ConfigError.chain : ConfigError → List String
  | malformed => malformedChain
  | malformedFile path => ("Failed to parse config file " ++ path) :: malformedChain
  | unreadable path fault => ["Failed to read config file " ++ path, fault.message]
  | zeroPageSize => ["history.default_page_size must be greater than zero"]
  | noDatabase => ["No jobs database configured. Set database.url or JOB_HISTORY_DATABASE_URL"]

/-- Whom to ask about workflows, and how long to wait for the answer. -/
structure WorkflowEndpoint where
  baseUrl : String
  timeoutSeconds : Nat
deriving DecidableEq

/-- How long to wait for an answer about a workflow unless something else is said. -/
def defaultTimeout : Nat := 30

/-- A configuration. -/
structure Config where
  databaseUrl : Option String
  /-- Where connections and connectors are kept, if not with the jobs. -/
  connectorDatabaseUrl : Option String
  settings : Settings
  workflow : Option WorkflowEndpoint
deriving DecidableEq

/-- What the environment says, which comes before what a document says. -/
structure Overrides where
  databaseUrl : Option String
  connectorDatabaseUrl : Option String
  workflowUrl : Option String
deriving DecidableEq

namespace Config

/-- The version that is reported unless something else is said. -/
def version : String := "0.1.0"

/-- The settings that are used unless something else is said. -/
def defaultSettings : Settings := ⟨SyncHistory.defaultPageSize, false, 1000, version⟩

/-- The configuration that says nothing. -/
def default : Config := ⟨none, none, defaultSettings, none⟩

/-! ## Reading -/

/-- The values of a section under its known keys. -/
def sectionOf? (keys : List String) : Toml → Option (List (String × Toml))
  | .table fields => some fields
  | .time _ => some []
  | .array items => some (keys.zip items)
  | _ => none

/-- Is the section given by an array? -/
def isByPlace : Toml → Bool
  | .array _ => true
  | _ => false

def text? : Toml → Option String
  | .string s => some s
  | _ => none

/-- A truth value. -/
def flag? : Toml → Option Bool
  | .boolean b => some b
  | _ => none

/-- A number of at most so many bits that is not negative. -/
def count? (bits : Nat) : Toml → Option Nat
  | .integer n => if Digits.fitsUnsigned bits n then some n.toNat else none
  | _ => none

/-- A value that may be missing and then has a default. -/
def valueOr? (fields : List (String × Toml)) (key : String) (default : α) (read : Toml → Option α) :
    Option α :=
  match fields.lookup key with
  | some v => read v
  | none => some default

/-- The addresses of the databases. In an array both must be there. -/
def databases? (v : Toml) : Option (Option String × Option String) := do
  let fields ← sectionOf? ["url", "config_url"] v
  guard (!isByPlace v || fields.length == 2)
  let url ← valueOr? fields "url" none fun v => (text? v).map some
  let configUrl ← valueOr? fields "config_url" none fun v => (text? v).map some
  some (url, configUrl)

def settings? (v : Toml) : Option Settings := do
  let fields ← sectionOf?
    ["default_page_size", "hydrate_aggregated_stats", "log_tail_lines", "platform_version"] v
  let pageSize ← valueOr? fields "default_page_size" defaultSettings.defaultPageSize fun v =>
    (count? 32 v).map UInt32.ofNat
  let hydrate ← valueOr? fields "hydrate_aggregated_stats" defaultSettings.hydrateAggregatedStats flag?
  let logLines ← valueOr? fields "log_tail_lines" defaultSettings.logTailLines (count? 64)
  let platform ← valueOr? fields "platform_version" defaultSettings.platformVersion text?
  some ⟨pageSize, hydrate, logLines, platform⟩

/-- Whom to ask about workflows. -/
def workflow? (v : Toml) : Option WorkflowEndpoint := do
  let fields ← sectionOf? ["api_base_url", "timeout_secs"] v
  let baseUrl ← (fields.lookup "api_base_url").bind text?
  let timeout ← valueOr? fields "timeout_secs" defaultTimeout (count? 64)
  some ⟨baseUrl, timeout⟩

/-- The configuration that a table holds. -/
def ofToml? (v : Toml) : Option Config := do
  let fields ← sectionOf? ["database", "history", "workflow"] v
  let (databaseUrl, connectorDatabaseUrl) ← valueOr? fields "database" (none, none) databases?
  let settings ← valueOr? fields "history" defaultSettings settings?
  let workflow ← valueOr? fields "workflow" none fun v => (workflow? v).map some
  some ⟨databaseUrl, connectorDatabaseUrl, settings, workflow⟩

/-- Reads a document. -/
def parse (contents : String) : Except ConfigError Config :=
  match (Toml.read? contents).bind ofToml? with
  | some config => .ok config
  | none => .error .malformed

/-! ## Loading -/

/-- The path of the file unless another one is given. -/
def defaultPath : String := "job-history.toml"

/-- The configuration in what came of reading the file at a path. A path that leads nowhere says
nothing. -/
def ofFile (path : String) : FileRead → Except ConfigError Config
  | .missing | .fault .notDirectory => .ok default
  | .text contents => (parse contents).mapError fun _ => .malformedFile path
  | .fault fault => .error (.unreadable path fault)

/-- The configuration with everything that the environment overrides. -/
def override (c : Config) (o : Overrides) : Config where
  databaseUrl := o.databaseUrl.or c.databaseUrl
  connectorDatabaseUrl := o.connectorDatabaseUrl.or c.connectorDatabaseUrl
  settings := c.settings
  workflow := match o.workflowUrl with
    | some url => some ⟨url, (c.workflow.map (·.timeoutSeconds)).getD defaultTimeout⟩
    | none => c.workflow

/-- Refuses a configuration under which listings would have no rows. -/
def checked (c : Config) : Except ConfigError Config :=
  if c.settings.defaultPageSize = 0 then .error .zeroPageSize else .ok c

/-- The configuration for a file and an environment. -/
def load (path : String) (file : FileRead) (o : Overrides) : Except ConfigError Config := do
  checked ((← ofFile path file).override o)

/-- Where the jobs are kept. -/
def jobsUrl (c : Config) : Except ConfigError String :=
  match c.databaseUrl with
  | some url => .ok url
  | none => .error .noDatabase

/-- Where connections and connectors are kept; with the jobs, unless something else is said. -/
def connectorsUrl (c : Config) : Except ConfigError String :=
  match c.connectorDatabaseUrl with
  | some url => .ok url
  | none => c.jobsUrl

end Config

/-- The overrides that environment variables give, which can be looked up by their names. -/
def Overrides.ofEnvironment [Monad m] (lookup : String → m (Option String)) : m Overrides := do
  let databaseUrl ← lookup "JOB_HISTORY_DATABASE_URL"
  let connectorDatabaseUrl ← lookup "JOB_HISTORY_CONFIG_DATABASE_URL"
  let workflowUrl ← lookup "JOB_HISTORY_WORKFLOW_API_URL"
  return { databaseUrl, connectorDatabaseUrl, workflowUrl }

end SyncHistory
