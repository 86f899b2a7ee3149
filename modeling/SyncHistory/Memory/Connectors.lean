import SyncHistory.Validation

/-!
# Connections and connectors in memory

Records of connections, actors and definitions by their identifiers. A record that is stored replaces the
one with its identifier. The record of an actor is only given if its configuration is valid under the
definition that it names, if that definition is stored.
-/

namespace SyncHistory

/-- Everything that is stored about connections and connectors; of records with the same identifier the
first counts. -/
structure ConnectorTables where
  connections : List Connection
  sources : List Actor
  destinations : List Actor
  sourceDefinitions : List Definition
  destinationDefinitions : List Definition
deriving DecidableEq

/-- A change of the stored records. -/
inductive ConnectorChange where
  | insertConnection (record : Connection)
  | removeConnection (id : Uuid)
  | insertSource (record : Actor)
  | insertDestination (record : Actor)
  | insertSourceDefinition (record : Definition)
  | insertDestinationDefinition (record : Definition)
deriving DecidableEq

namespace ConnectorTables

/-- Nothing is stored. -/
def empty : ConnectorTables := ⟨[], [], [], [], []⟩

/-- The tables after a change. -/
def change (t : ConnectorTables) : ConnectorChange → ConnectorTables
  | .insertConnection record => { t with connections := record :: t.connections }
  | .removeConnection id => { t with connections := t.connections.filter fun c => c.id != id }
  | .insertSource record => { t with sources := record :: t.sources }
  | .insertDestination record => { t with destinations := record :: t.destinations }
  | .insertSourceDefinition record => { t with sourceDefinitions := record :: t.sourceDefinitions }
  | .insertDestinationDefinition record =>
    { t with destinationDefinitions := record :: t.destinationDefinitions }

/-- The actor with an identifier, checked under its definition where that is known. -/
def actor [SchemaChecker] (actors : List Actor) (definitions : List Definition) (id : Uuid)
    (missing : LookupError) : Except LookupError Actor :=
  match actors.find? fun a => a.id == id with
  | none => .error missing
  | some actor =>
    match definitions.find? fun d => d.id == actor.definitionId with
    | none => .ok actor
    | some definition =>
      (validateConfiguration actor.id actor.configuration definition.spec).map fun _ => actor

/-- The record that was found, if there is one. -/
def found (missing : LookupError) : Option α → Except LookupError α
  | some a => .ok a
  | none => .error missing

/-- The answer to a question. -/
def answer [SchemaChecker] (t : ConnectorTables) : (q : ConnectorQuery) → Except LookupError q.Result
  | .connection id =>
    found (ConnectorQuery.connection id).missing (t.connections.find? fun c => c.id == id)
  | .source id => actor t.sources t.sourceDefinitions id (ConnectorQuery.source id).missing
  | .destination id =>
    actor t.destinations t.destinationDefinitions id (ConnectorQuery.destination id).missing
  | .sourceDefinition id =>
    found (ConnectorQuery.sourceDefinition id).missing (t.sourceDefinitions.find? fun d => d.id == id)
  | .destinationDefinition id =>
    found (ConnectorQuery.destinationDefinition id).missing
      (t.destinationDefinitions.find? fun d => d.id == id)

end ConnectorTables

end SyncHistory
