import SyncHistory.Attempt

/-!
# Connections and connectors

A connection leads from a source to a destination. Both are actors: configured instances of a connector
definition, whose specification says which configurations are valid. The configuration of an actor and
the specification of a definition are never written to a document, as they may hold secrets.
-/

namespace SyncHistory

/-- A connection from a source to a destination. -/
structure Connection where
  id : Uuid
  name : String
  sourceId : Uuid
  destinationId : Uuid
  status : String
deriving DecidableEq

namespace Connection

/-- The connection as a document. -/
def toJson (c : Connection) : Json :=
  .obj [("connectionId", c.id.toJson), ("name", .str c.name), ("sourceId", c.sourceId.toJson),
    ("destinationId", c.destinationId.toJson), ("status", .str c.status)]

/-- Reads a connection from a document. -/
def ofJson? (j : Json) : Option Connection := do
  let r ← Json.Record.ofJson? ["connectionId", "name", "sourceId", "destinationId", "status"] j
  let id ← r.required? "connectionId" Uuid.ofJson?
  let name ← r.required? "name" Json.string?
  let sourceId ← r.required? "sourceId" Uuid.ofJson?
  let destinationId ← r.required? "destinationId" Uuid.ofJson?
  let status ← r.required? "status" Json.string?
  some ⟨id, name, sourceId, destinationId, status⟩

end Connection

/-- A configured source or destination. -/
structure Actor where
  id : Uuid
  name : String
  definitionId : Uuid
  workspaceId : Uuid
  configuration : Json
deriving DecidableEq

namespace Actor

/-- The actor as a document, without its configuration. -/
def toJson (a : Actor) : Json :=
  .obj [("id", a.id.toJson), ("name", .str a.name), ("definitionId", a.definitionId.toJson),
    ("workspaceId", a.workspaceId.toJson)]

/-- Reads an actor from a document; a missing configuration is `null`. -/
def ofJson? (j : Json) : Option Actor := do
  let r ← Json.Record.ofJson? ["id", "name", "definitionId", "workspaceId", "configuration"] j
  let id ← r.required? "id" Uuid.ofJson?
  let name ← r.required? "name" Json.string?
  let definitionId ← r.required? "definitionId" Uuid.ofJson?
  let workspaceId ← r.required? "workspaceId" Uuid.ofJson?
  let configuration ← r.withDefault? "configuration" Json.null some
  some ⟨id, name, definitionId, workspaceId, configuration⟩

end Actor

/-- A connector: what sources or destinations of a kind run on. -/
structure Definition where
  id : Uuid
  name : String
  dockerRepository : String
  dockerImageTag : String
  spec : Json
deriving DecidableEq

namespace Definition

/-- The definition as a document, without its specification. -/
def toJson (d : Definition) : Json :=
  .obj [("id", d.id.toJson), ("name", .str d.name),
    ("dockerRepository", .str d.dockerRepository), ("dockerImageTag", .str d.dockerImageTag)]

/-- Reads a definition from a document; a missing specification is `null`. -/
def ofJson? (j : Json) : Option Definition := do
  let r ← Json.Record.ofJson? ["id", "name", "dockerRepository", "dockerImageTag", "spec"] j
  let id ← r.required? "id" Uuid.ofJson?
  let name ← r.required? "name" Json.string?
  let dockerRepository ← r.required? "dockerRepository" Json.string?
  let dockerImageTag ← r.required? "dockerImageTag" Json.string?
  let spec ← r.withDefault? "spec" Json.null some
  some ⟨id, name, dockerRepository, dockerImageTag, spec⟩

end Definition

/-- Whether the workflow of a connection runs, and whether it is paused. -/
structure WorkflowState where
  running : Bool
  paused : Bool
deriving DecidableEq

namespace WorkflowState

/-- The state as a document. -/
def toJson (s : WorkflowState) : Json :=
  .obj [("running", .bool s.running), ("paused", .bool s.paused)]

/-- Reads a state from a document; what is not said to be paused is not. -/
def ofJson? (j : Json) : Option WorkflowState := do
  let r ← Json.Record.ofJson? ["running", "paused"] j
  let running ← r.required? "running" Json.bool?
  let paused ← r.withDefault? "paused" false Json.bool?
  some ⟨running, paused⟩

end WorkflowState

/-- A question about connections and connectors. -/
inductive ConnectorQuery where
  | connection (id : Uuid)
  | source (id : Uuid)
  | destination (id : Uuid)
  | sourceDefinition (id : Uuid)
  | destinationDefinition (id : Uuid)
deriving DecidableEq

namespace ConnectorQuery

/-- The record that is asked for. -/
abbrev Result : ConnectorQuery → Type
  | connection _ => Connection
  | source _ | destination _ => Actor
  | sourceDefinition _ | destinationDefinition _ => Definition

/-- The kind of record that is asked for. -/
def entity : ConnectorQuery → Entity
  | connection _ => .connection
  | source _ => .source
  | destination _ => .destination
  | sourceDefinition _ => .sourceDefinition
  | destinationDefinition _ => .destinationDefinition

/-- The identifier of the record that is asked for. -/
def id : ConnectorQuery → Uuid
  | connection id | source id | destination id | sourceDefinition id | destinationDefinition id => id

/-- The failure of a question whose record does not exist. -/
def missing (q : ConnectorQuery) : LookupError :=
  .notFound q.entity.word q.id.text

end ConnectorQuery

end SyncHistory
