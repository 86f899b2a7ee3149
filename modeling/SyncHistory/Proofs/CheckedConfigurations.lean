import SyncHistory.Proofs.ConnectorRow
import SyncHistory.Proofs.ConnectorSql
import SyncHistory.Proofs.DebugRecord
import SyncHistory.Proofs.Listing

/-!
# Checked configurations

An actor is read together with the specification of its definition, and its configuration is checked
under it; where no specification is selected, nothing is checked. A specification is selected from outer
joins, and the definition itself from an inner one. If each of them has one row, both rows come from the
same version of the definition (`ConnectorSql.spec_of_actorRow`), so the specification that an actor was
checked under is the one that a debug record has for it.

There remain versions that have no specification. An actor of one of these is not checked at all, and its
definition is found nevertheless, so all that `debug_configurations_checked` can say of such an actor is
what it would take for its configuration to be valid.
-/

namespace SyncHistory

open ConnectorSql

/-! ## Rows of actors and rows of definitions -/

namespace ConnectorSql

variable {db : Content} {params : List SqlValue} {row : Row}

theorem mem_rows {s : Select} :
    row ∈ s.rows db params ↔
      ∃ c ∈ s.combinations db, s.tests.all (Test.holds params c) = true ∧ s.row c = row := by
  simp only [Select.rows, List.mem_map, List.mem_filter, and_assoc]

theorem mem_combinations_definition {c : Combination} :
    c ∈ definitionSelect.combinations db ↔ ∃ definition ∈ db.definitions,
      c ∈ (versionJoin false).extend db (Combination.empty.add .definition definition) := by
  simp only [Select.combinations, definitionSelect, List.foldl_cons, List.foldl_nil, List.mem_flatMap,
    List.mem_map, exists_exists_and_eq_and, Content.rows]

theorem mem_combinations_actor {c : Combination} :
    c ∈ actorSelect.combinations db ↔ ∃ actor ∈ db.actors,
      ∃ c₁ ∈ definitionJoin.extend db (Combination.empty.add .actor actor),
        c ∈ (versionJoin true).extend db c₁ := by
  simp only [Select.combinations, actorSelect, List.foldl_cons, List.foldl_nil, List.mem_flatMap,
    List.mem_map, exists_exists_and_eq_and, Content.rows]
  constructor
  · rintro ⟨c₁, ⟨actor, stored, joined⟩, mem⟩
    exact ⟨actor, stored, c₁, joined, mem⟩
  · rintro ⟨actor, stored, c₁, joined, mem⟩
    exact ⟨c₁, ⟨actor, stored, joined⟩, mem⟩

/-- Which actors are selected depends on nothing that is joined to them. -/
theorem holds_actor {c c' : Combination} (same : c.row? .actor = c'.row? .actor) :
    actorSelect.tests.all (Test.holds params c) = actorSelect.tests.all (Test.holds params c') := by
  simp only [actorSelect, List.all_cons, List.all_nil, Test.holds, Combination.get, Combination.flag?,
    same]

/-- A definition is selected together with a version of its own. -/
theorem exists_of_mem_definitionRows (mem : row ∈ definitionSelect.rows db params) :
    ∃ definition ∈ db.definitions, ∃ version ∈ db.versions,
      definition.get "id" = Sql.paramAt params 1 ∧ definition.get "actor_type" = Sql.paramAt params 2 ∧
      version.get "id" = definition.get "default_version_id" ∧ version.get "id" ≠ .null ∧
      row.get "spec" = version.get "spec" := by
  obtain ⟨c, combined, holds, rfl⟩ := mem_rows.mp mem
  obtain ⟨definition, stored, joined⟩ := mem_combinations_definition.mp combined
  obtain ⟨version, partner, rfl⟩ := Join.exists_of_mem_extend rfl joined
  obtain ⟨current, same, known⟩ := Join.mem_partners.mp partner
  simp only [definitionSelect, List.all_cons, List.all_nil, Test.holds, Bool.and_true, Bool.and_eq_true,
    equal_iff] at holds
  exact ⟨definition, stored, version, current, holds.1.1, holds.2.1, same, known, rfl⟩

/-- If one row answers the query for an actor, the specification in it is that of whatever definition the
actor refers to, in whatever version is its current one. -/
theorem spec_of_actorRow (only : actorSelect.rows db params = [row]) {definition version : TableRow}
    (stored : definition ∈ db.definitions) (current : version ∈ db.versions)
    (refers : definition.get "id" = row.get "actor_definition_id") (known : definition.get "id" ≠ .null)
    (same : version.get "id" = definition.get "default_version_id") (known' : version.get "id" ≠ .null) :
    row.get "spec" = version.get "spec" := by
  obtain ⟨c, combined, holds, rfl⟩ := mem_rows.mp (only ▸ List.mem_singleton_self row)
  obtain ⟨actor, mem, c₁, joined₁, joined⟩ := mem_combinations_actor.mp combined
  have own : c.row? .actor = some actor := by
    rw [Join.row?_of_mem_extend (by decide) joined, Join.row?_of_mem_extend (by decide) joined₁]
    rfl
  -- the definition and its version make a combination with the actor, which is selected as well
  have partner : definition ∈ definitionJoin.partners db (Combination.empty.add .actor actor) := by
    refine Join.mem_partners.mpr ⟨stored, refers.trans ?_, known⟩
    show c.get ⟨.actor, "actor_definition_id"⟩ = _
    rw [Combination.get, own]
    rfl
  have partner' : version ∈ (versionJoin true).partners db
      ((Combination.empty.add .actor actor).add .definition definition) :=
    Join.mem_partners.mpr ⟨current, same, known'⟩
  have selected : actorSelect.row
      (((Combination.empty.add .actor actor).add .definition definition).add .version version) ∈
        actorSelect.rows db params := by
    refine mem_rows.mpr ⟨_, mem_combinations_actor.mpr ⟨actor, mem, _,
      Join.mem_extend_of_partner partner, Join.mem_extend_of_partner partner'⟩, ?_, rfl⟩
    rw [← holds]
    exact holds_actor own.symm
  rw [only] at selected
  exact congrArg (·.get "spec") (List.mem_singleton.mp selected).symm

/-! ## Finding records in a content -/

/-- In the conversation every statement is answered from the content: rows come in any order, and a
database may fail. -/
def Content.Answers (db : Content) (t : List (Exchange database)) : Prop :=
  ∀ (statement : Statement) (rows : List Row),
    (⟨statement, .ok rows⟩ : Exchange database) ∈ t → rows.Perm (db.reply statement)

/-- Looking for a record comes to an outcome, with answers from the content. -/
def Content.Finds [SchemaChecker] (db : Content) (q : ConnectorQuery)
    (outcome : Except LookupError q.Result) : Prop :=
  ∃ t, (Postgres.recordFor q).run.Converses t outcome ∧ db.Answers t

/-- The current version of a definition of a kind is stored. -/
structure Content.Defines (db : Content) (kind : String) (id : Uuid) (version : TableRow) : Prop where
  stored : version ∈ db.versions
  definition : ∃ definition ∈ db.definitions, definition.get "id" = .uuid id ∧
    definition.get "actor_type" = .text kind ∧
    version.get "id" = definition.get "default_version_id" ∧ version.get "id" ≠ .null

/-- The record of a definition is that of a stored version. The configuration of the actor is valid under
the specification in it, if there is one, and otherwise nothing is known but what it takes to be valid. -/
def Content.Backs [SchemaChecker] (db : Content) (kind : String) (actor : Actor)
    (definition : Definition) : Prop :=
  ∃ version, db.Defines kind actor.definitionId version ∧
    (version.get "spec" = .json definition.spec ∧
        validateConfiguration actor.id actor.configuration definition.spec = .ok () ∨
      version.get "spec" = .null ∧ definition.spec = .null ∧
        (validateConfiguration actor.id actor.configuration definition.spec = .ok () ↔
          actor.configuration.isObject = true))

end ConnectorSql

namespace ConnectorSql

variable {db : Content} {missing : LookupError} {t : List (Exchange database)} {kind : String}

/-- A record that is found is in the one row that the content has for the statement. -/
theorem row_of_found {α : Type} {statement : Statement} {read : Row → Except LookupError α} {a : α}
    (found : (Postgres.record missing statement read).run.Converses t (.ok a))
    (answers : db.Answers t) : ∃ row, db.reply statement = [row] ∧ read row = .ok a := by
  obtain ⟨row, rfl, read⟩ := Postgres.record_converses_ok found
  exact ⟨row, (List.singleton_perm.mp (answers _ _ (List.mem_singleton_self _))).symm, read⟩

/-- An actor and its definition that are both found. -/
theorem backs_of_found [SchemaChecker] {missing' : LookupError} {t' : List (Exchange database)} {id : Uuid}
    {a : Actor} {d : Definition}
    (actor : (Postgres.record missing (Postgres.actorStatement id kind) Postgres.actor).run.Converses
      t (.ok a)) (answers : db.Answers t)
    (definition : (Postgres.record missing' (Postgres.definitionStatement a.definitionId kind)
      Postgres.definition).run.Converses t' (.ok d)) (answers' : db.Answers t') : db.Backs kind a d := by
  obtain ⟨row, only, read⟩ := row_of_found actor answers
  obtain ⟨row', only', read'⟩ := row_of_found definition answers'
  rw [reply_actor] at only
  rw [reply_definition] at only'
  obtain ⟨definition, stored, version, current, isId, isKind, same, known, spec⟩ :=
    exists_of_mem_definitionRows (only' ▸ List.mem_singleton_self row')
  obtain ⟨refers, checked⟩ := Postgres.actor_eq_ok read
  -- both statements join the current version, so the row of the actor has its specification
  have isId : definition.get "id" = .uuid a.definitionId := isId
  have beside : row.get "spec" = version.get "spec" :=
    spec_of_actorRow only stored current (isId.trans refers.symm) (isId ▸ fun h => by cases h) same known
  refine ⟨version, ⟨current, definition, stored, isId, isKind, same, known⟩, ?_⟩
  rw [beside] at checked
  rcases Postgres.definition_eq_ok read' with ⟨null, unspecified⟩ | specified
  · rw [unspecified]
    exact .inr ⟨spec.symm.trans null, rfl, validateConfiguration_null a.id a.configuration⟩
  · rw [spec] at specified
    refine .inl ⟨specified, ?_⟩
    rcases checked with null | ⟨spec', specified', valid⟩
    · cases null.symm.trans specified
    · cases specified'.symm.trans specified
      exact valid

/-- Where no version of a definition is stored, the definition is not found. -/
theorem missing_of_undefined {id : Uuid} {outcome : Except LookupError Definition}
    (undefined : ∀ version, ¬ db.Defines kind id version)
    (found : (Postgres.record missing (Postgres.definitionStatement id kind)
      Postgres.definition).run.Converses t outcome) (answers : db.Answers t) :
    outcome = .error missing ∨ ∃ fault : DatabaseFault, outcome = .error (.unavailable fault.message) := by
  obtain ⟨answer, t', rfl, ends⟩ := Prog.converses_ask.mp found
  obtain ⟨rfl, rfl⟩ := Prog.converses_done.mp ends
  rcases answer with fault | rows
  · exact .inr ⟨fault, rfl⟩
  · have same := answers _ _ (List.mem_singleton_self _)
    have none : definitionSelect.rows db [.uuid id, .text kind] = [] := by
      refine List.eq_nil_iff_forall_not_mem.mpr fun row mem => ?_
      obtain ⟨definition, stored, version, current, isId, isKind, refers, known, -⟩ :=
        exists_of_mem_definitionRows mem
      exact undefined version ⟨current, definition, stored, isId, isKind, refers, known⟩
    rw [reply_definition, none, List.perm_nil] at same
    rw [same]
    exact .inl rfl

end ConnectorSql

/-! ## Surroundings with a content -/

/-- The answer of a database that never fails. -/
def ConnectorSql.Content.answer (db : Content) (statement : Statement) : database.Answer statement :=
  Except.ok (db.reply statement)

/-- A session whose records of connections and connectors are in such a database. -/
def ConnectorSql.Content.surround [SchemaChecker] (db : Content) (s : Session) : (q : Question) → q.Answer
  | .connectors q => (Postgres.recordFor q).run.eval db.answer
  | .jobs q => s.reply (.jobs q)
  | .workflow connection => s.reply (.workflow connection)
  | .file path => s.reply (.file path)

/-- The database finds what it is asked for. -/
theorem ConnectorSql.Content.finds_eval [SchemaChecker] (db : Content) (q : ConnectorQuery) :
    db.Finds q ((Postgres.recordFor q).run.eval db.answer) := by
  obtain ⟨t, converses, same⟩ := Prog.exists_converses_eval db.answer (Postgres.recordFor q).run
  refine ⟨t, converses, fun statement rows mem => ?_⟩
  have answered : Except.ok rows = Except.ok (db.reply statement) := same _ mem
  rw [Except.ok.inj answered]

theorem ConnectorSql.Content.exists_converses_surround [SchemaChecker] (db : Content) (s : Session)
    (p : Inquiry α) : ∃ t, p.Converses t (p.run.eval (db.surround s)) ∧
      ∀ (q : ConnectorQuery) (outcome : Except LookupError q.Result),
        (⟨.connectors q, outcome⟩ : Exchange surroundings) ∈ t → db.Finds q outcome := by
  obtain ⟨t, converses, same⟩ := Prog.exists_converses_eval (I := surroundings) (db.surround s) p.run
  refine ⟨t, converses, fun q outcome mem => ?_⟩
  have answered : outcome = (Postgres.recordFor q).run.eval db.answer := same _ mem
  rw [answered]
  exact db.finds_eval q

/-- **Checked configurations.** Whatever a database holds about connections and connectors, and whoever
checks configurations under schemas: if a debug record comes about with records that are found in the
database, the definition of the source and that of the destination are in it, each in its current version,
and the source and the destination are valid under the specifications of these versions, save where a
version has none. Where no current version of a definition is in it, the definition is not found. -/
theorem debug_configurations_checked [SchemaChecker] (db : Content) (logLines : Nat)
    (platformVersion : String) (asksWorkflow : Bool) (id : JobId) {t : List (Exchange surroundings)}
    {info : DebugInfo}
    (comes : (Inquiry.debugInfo logLines platformVersion asksWorkflow id).Converses t (.ok info))
    (found : ∀ (q : ConnectorQuery) (outcome : Except LookupError q.Result),
      (⟨.connectors q, outcome⟩ : Exchange surroundings) ∈ t → db.Finds q outcome) :
    db.Backs "source" info.source info.job.sourceDefinition ∧
    db.Backs "destination" info.destination info.job.destinationDefinition ∧
    ∀ (definitionId : Uuid) (outcome : Except LookupError Definition),
      ((∀ version, ¬ db.Defines "source" definitionId version) →
        db.Finds (.sourceDefinition definitionId) outcome →
        outcome = .error (.notFound "source_definition" definitionId.text) ∨
        ∃ fault : DatabaseFault, outcome = .error (.unavailable fault.message)) ∧
      ((∀ version, ¬ db.Defines "destination" definitionId version) →
        db.Finds (.destinationDefinition definitionId) outcome →
        outcome = .error (.notFound "destination_definition" definitionId.text) ∨
        ∃ fault : DatabaseFault, outcome = .error (.unavailable fault.message)) := by
  obtain ⟨_, ⟨f, rfl, rfl⟩, passed⟩ :=
    (Inquiry.follows_debugInfo logLines platformVersion asksWorkflow id).ok.mp comes
  have finds {q : ConnectorQuery} {record : q.Result}
      (stage : .asked (.connectors q) (.ok record) ∈ f.stages asksWorkflow id) :
      db.Finds q (.ok record) := found q (.ok record) (passed.mem stage)
  refine ⟨?_, ?_, fun definitionId outcome => ⟨fun undefined finds => ?_, fun undefined finds => ?_⟩⟩
  · obtain ⟨t₁, actor, answers₁⟩ : db.Finds (.source f.connection.sourceId) (.ok f.source) :=
      finds (by simp [DebugFindings.stages])
    obtain ⟨t₂, definition, answers₂⟩ :
        db.Finds (.sourceDefinition f.source.definitionId) (.ok f.sourceDefinition) :=
      finds (by simp [DebugFindings.stages])
    exact backs_of_found actor answers₁ definition answers₂
  · obtain ⟨t₁, actor, answers₁⟩ : db.Finds (.destination f.connection.destinationId) (.ok f.destination) :=
      finds (by simp [DebugFindings.stages])
    obtain ⟨t₂, definition, answers₂⟩ :
        db.Finds (.destinationDefinition f.destination.definitionId) (.ok f.destinationDefinition) :=
      finds (by simp [DebugFindings.stages])
    exact backs_of_found actor answers₁ definition answers₂
  · obtain ⟨t₁, converses, answers⟩ := finds
    exact missing_of_undefined undefined converses answers
  · obtain ⟨t₁, converses, answers⟩ := finds
    exact missing_of_undefined undefined converses answers

/-- A connection whose source has a configuration, and whose source definition has a specification. -/
def ConnectorSql.Content.ofSource (configuration : Json) (spec : SqlValue) : Content :=
  let uuid (digit : Fin 16) : SqlValue := .uuid ⟨.replicate 32 digit⟩
  let actor (id definition : Fin 16) (kind : String) (configuration : Json) : TableRow :=
    ⟨⟨[("id", uuid id), ("name", .text kind), ("actor_definition_id", uuid definition),
      ("workspace_id", uuid 9), ("configuration", .json configuration), ("actor_type", .text kind)]⟩,
      [("tombstone", false)]⟩
  let definition (id version : Fin 16) (kind : String) : TableRow :=
    ⟨⟨[("id", uuid id), ("name", .text kind), ("actor_type", .text kind),
      ("default_version_id", uuid version)]⟩, []⟩
  let version (id : Fin 16) (spec : SqlValue) : TableRow :=
    ⟨⟨[("id", uuid id), ("docker_repository", .text "repository"), ("docker_image_tag", .text "tag"),
      ("spec", spec)]⟩, []⟩
  { connections := [⟨⟨[("id", uuid 1), ("name", .text "connection"), ("source_id", uuid 2),
      ("destination_id", uuid 3), ("status", .text "active")]⟩, []⟩]
    actors := [actor 2 4 "source" configuration, actor 3 5 "destination" (.obj [])]
    definitions := [definition 4 6 "source", definition 5 7 "destination"]
    versions := [version 6 spec, version 7 (.json (.obj []))] }

/-- A session with a job of this connection. -/
def Session.ofConnection : Session :=
  Session.setUp [.insertJob ⟨7, .sync, (Uuid.mk (.replicate 32 1)).text, none, .succeeded,
    ⟨0, 0⟩, ⟨0, 0⟩, none, []⟩]

/-- A source that has to name a host, and does. -/
theorem debug_configurations_checked_host :
    let spec := Json.obj [("connectionSpecification", .obj [("required", .arr [.str "host"])])]
    let db := Content.ofSource (.obj [("host", .str "db")]) (.json spec)
    ∃ t info, (Inquiry.debugInfo 1000 "dev" false 7).Converses t (.ok info) ∧
      (∀ (q : ConnectorQuery) (outcome : Except LookupError q.Result),
        (⟨.connectors q, outcome⟩ : Exchange surroundings) ∈ t → db.Finds q outcome) ∧
      db.Backs "source" info.source info.job.sourceDefinition ∧
      db.Backs "destination" info.destination info.job.destinationDefinition := by
  intro spec db
  obtain ⟨t, comes, found⟩ :=
    db.exists_converses_surround Session.ofConnection (Inquiry.debugInfo 1000 "dev" false 7)
  have assembled : ((Inquiry.debugInfo 1000 "dev" false 7).run.eval
      (db.surround Session.ofConnection)).toBool = true := by decide +kernel
  cases answered : (Inquiry.debugInfo 1000 "dev" false 7).run.eval (db.surround Session.ofConnection) with
  | error e =>
    rw [answered] at assembled
    cases assembled
  | ok info =>
    rw [answered] at comes
    obtain ⟨source, destination, -⟩ := debug_configurations_checked db 1000 "dev" false 7 comes found
    exact ⟨t, info, comes, found, source, destination⟩

/-- The version of the source's definition has no specification, and the configuration of the source,
which is no object, gets into a debug record. There is no schema in this database to check anything under.
-/
theorem debug_configuration_unchecked :
    let db := Content.ofSource (.arr []) .null
    ∃ t info, (Inquiry.debugInfo 1000 "dev" false 7).Converses t (.ok info) ∧
      (∀ (q : ConnectorQuery) (outcome : Except LookupError q.Result),
        (⟨.connectors q, outcome⟩ : Exchange surroundings) ∈ t → db.Finds q outcome) ∧
      ¬ validateConfiguration info.source.id info.source.configuration info.job.sourceDefinition.spec =
        .ok () := by
  intro db
  obtain ⟨t, comes, found⟩ :=
    db.exists_converses_surround Session.ofConnection (Inquiry.debugInfo 1000 "dev" false 7)
  have judged : ((Inquiry.debugInfo 1000 "dev" false 7).run.eval
      (db.surround Session.ofConnection)).toOption.map (fun info =>
        (validateConfiguration info.source.id info.source.configuration
          info.job.sourceDefinition.spec).toBool) = some false := by decide +kernel
  cases answered : (Inquiry.debugInfo 1000 "dev" false 7).run.eval (db.surround Session.ofConnection) with
  | error e =>
    rw [answered] at judged
    cases judged
  | ok info =>
    rw [answered] at comes judged
    refine ⟨t, info, comes, found, fun valid => ?_⟩
    rw [Except.toOption, Option.map_some, valid] at judged
    cases judged

end SyncHistory
