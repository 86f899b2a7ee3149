import SyncHistory.Sql.Row
import SyncHistory.Validation

/-!
# Connections and connectors in a relational database

The answers to questions about connections and connectors, found by one SQL statement each. The record of
an actor is only given if its configuration is valid under the specification that is selected with it;
without a specification nothing is checked. There is no record of the definition then either, unless its
current version has no specification.
-/

namespace SyncHistory

/-- A program of statements for a record. -/
abbrev RecordSearch := ExceptT LookupError (Prog database)

namespace Postgres

/-- The columns of a connection. -/
def connectionColumns : Columns where
  list := [("id", "id"), ("name", "name"), ("source_id", "source_id"),
    ("destination_id", "destination_id"), ("CAST(status AS VARCHAR) AS status", "status")]

/-- The columns of an actor and of the specification of its definition. -/
def actorColumns : Columns where
  list := [("actor.id", "id"), ("actor.name", "name"),
    ("actor.actor_definition_id", "actor_definition_id"), ("actor.workspace_id", "workspace_id"),
    ("actor.configuration", "configuration"), ("actor_definition_version.spec", "spec")]

/-- The columns of a definition in its current version. -/
def definitionColumns : Columns where
  list := [("actor_definition.id", "id"), ("actor_definition.name", "name"),
    ("actor_definition_version.docker_repository", "docker_repository"),
    ("actor_definition_version.docker_image_tag", "docker_image_tag"),
    ("actor_definition_version.spec", "spec")]

/-- One connection. -/
def connectionStatement (id : Uuid) : Statement :=
  .ofFragments
    [.literal ("SELECT " ++ connectionColumns.text ++ " FROM connection WHERE id = "),
      .param (.uuid id)]

/-- One source or destination, as the kind says, that has not been removed. -/
def actorStatement (id : Uuid) (kind : String) : Statement :=
  .ofFragments
    [.literal ("SELECT " ++ actorColumns.text ++ " FROM actor " ++
        "LEFT JOIN actor_definition ON actor_definition.id = actor.actor_definition_id " ++
        "LEFT JOIN actor_definition_version " ++
        "ON actor_definition_version.id = actor_definition.default_version_id WHERE actor.id = "),
      .param (.uuid id), .literal " AND CAST(actor.actor_type AS VARCHAR) = ", .param (.text kind),
      .literal " AND actor.tombstone = FALSE"]

/-- The definition of sources or of destinations, as the kind says. -/
def definitionStatement (id : Uuid) (kind : String) : Statement :=
  .ofFragments
    [.literal ("SELECT " ++ definitionColumns.text ++ " FROM actor_definition " ++
        "JOIN actor_definition_version " ++
        "ON actor_definition_version.id = actor_definition.default_version_id " ++
        "WHERE actor_definition.id = "), .param (.uuid id),
      .literal " AND CAST(actor_definition.actor_type AS VARCHAR) = ", .param (.text kind)]

/-- Reads a column; a value that cannot be read makes the record unavailable. -/
def readField (c : Columns) (row : Row) (name : String) (decode : SqlValue → Option α) :
    Except LookupError α :=
  (c.read row name decode).mapError fun fault => .unavailable fault.message

/-- The connection in a row. -/
def connection (row : Row) : Except LookupError Connection := do
  let id ← readField connectionColumns row "id" SqlValue.uuid?
  let name ← readField connectionColumns row "name" SqlValue.text?
  let sourceId ← readField connectionColumns row "source_id" SqlValue.uuid?
  let destinationId ← readField connectionColumns row "destination_id" SqlValue.uuid?
  let status ← readField connectionColumns row "status" SqlValue.text?
  return { id, name, sourceId, destinationId, status }

/-- The actor in a row, checked under the specification beside it if there is one. -/
def actor [SchemaChecker] (row : Row) : Except LookupError Actor := do
  let id ← readField actorColumns row "id" SqlValue.uuid?
  let name ← readField actorColumns row "name" SqlValue.text?
  let definitionId ← readField actorColumns row "actor_definition_id" SqlValue.uuid?
  let workspaceId ← readField actorColumns row "workspace_id" SqlValue.uuid?
  let configuration ← readField actorColumns row "configuration" SqlValue.json?
  match ← readField actorColumns row "spec" (SqlValue.nullable? SqlValue.json?) with
  | some spec => validateConfiguration id configuration spec
  | none => pure ()
  return { id, name, definitionId, workspaceId, configuration }

/-- The definition in a row; a missing specification is `null`. -/
def definition (row : Row) : Except LookupError Definition := do
  let spec ← readField definitionColumns row "spec" (SqlValue.nullable? SqlValue.json?)
  let id ← readField definitionColumns row "id" SqlValue.uuid?
  let name ← readField definitionColumns row "name" SqlValue.text?
  let dockerRepository ← readField definitionColumns row "docker_repository" SqlValue.text?
  let dockerImageTag ← readField definitionColumns row "docker_image_tag" SqlValue.text?
  return { id, name, dockerRepository, dockerImageTag, spec := spec.getD .null }

/-- The record in the one row that answers a statement. -/
def record (missing : LookupError) (statement : Statement) (read : Row → Except LookupError α) :
    RecordSearch α :=
  ExceptT.mk do
    let answer : Except DatabaseFault (List Row) ← Prog.query (I := database) statement
    return do
      let row ← (answer.bind Row.atMostOne).mapError fun fault => .unavailable fault.message
      match row with
      | some row => read row
      | none => .error missing

/-- The answer to a question. -/
def recordFor [SchemaChecker] : (q : ConnectorQuery) → RecordSearch q.Result
  | .connection id =>
    record (ConnectorQuery.connection id).missing (connectionStatement id) connection
  | .source id => record (ConnectorQuery.source id).missing (actorStatement id "source") actor
  | .destination id =>
    record (ConnectorQuery.destination id).missing (actorStatement id "destination") actor
  | .sourceDefinition id =>
    record (ConnectorQuery.sourceDefinition id).missing (definitionStatement id "source") definition
  | .destinationDefinition id =>
    record (ConnectorQuery.destinationDefinition id).missing
      (definitionStatement id "destination") definition

end Postgres

end SyncHistory
