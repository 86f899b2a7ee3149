import SyncHistory.Postgres.Connectors
import SyncHistory.Proofs.Conversation
import SyncHistory.Proofs.Failure

/-!
# Rows of connectors

What is known when a record of a connector could be given: one row answered the statement
(`Postgres.record_converses_ok`), and its columns have what the record says. The configuration of an actor
is valid under the specification beside it, unless this is null (`Postgres.actor_eq_ok`); a definition is
given in either case, a null becoming an empty specification (`Postgres.definition_eq_ok`). What it takes
for a configuration to be valid is up to the checker of schemas where there is one
(`validateConfiguration_eq_ok`).
-/

namespace SyncHistory

namespace Postgres

/-- A record is found where one row answers the statement, and it is the record in this row. -/
theorem record_converses_ok {missing : LookupError} {statement : Statement}
    {read : Row → Except LookupError α} {t : List (Exchange database)} {a : α}
    (found : (record missing statement read).run.Converses t (.ok a)) :
    ∃ row, t = [⟨statement, .ok [row]⟩] ∧ read row = .ok a := by
  obtain ⟨answer, t', rfl, ends⟩ := Prog.converses_ask.mp found
  obtain ⟨rfl, same⟩ := Prog.converses_done.mp ends
  rcases answer with fault | _ | ⟨row, _ | ⟨row', rows⟩⟩
  · cases same
  · cases same
  · exact ⟨row, rfl, same.symm⟩
  · cases same

theorem readField_eq_ok {α : Type} {c : Columns} {row : Row} {name : String}
    {decode : SqlValue → Option α} {a : α} :
    readField c row name decode = .ok a ↔ decode (row.get name) = some a := by
  rw [readField, mapError_eq_ok, Columns.read]
  cases decode (row.get name) with
  | some b => exact ⟨fun h => by cases h; rfl, fun h => by cases h; rfl⟩
  | none => exact iff_of_false (fun h => by cases h) fun h => by cases h

theorem uuid?_eq_some {v : SqlValue} {id : Uuid} (h : v.uuid? = some id) : v = .uuid id := by
  cases v with
  | uuid id' =>
    cases h
    rfl
  | _ => cases h

theorem nullable_json_eq_some {v : SqlValue} {j : Option Json}
    (h : SqlValue.nullable? SqlValue.json? v = some j) :
    (v = .null ∧ j = none) ∨ ∃ document, v = .json document ∧ j = some document := by
  cases v with
  | null =>
    cases h
    exact .inl ⟨rfl, rfl⟩
  | json document =>
    cases h
    exact .inr ⟨document, rfl, rfl⟩
  | _ => cases h

/-- An actor is read from a row where its configuration is valid under the specification in this row, or
where there is none. -/
theorem actor_eq_ok [SchemaChecker] {row : Row} {a : Actor} (h : actor row = .ok a) :
    row.get "actor_definition_id" = .uuid a.definitionId ∧ (row.get "spec" = .null ∨
      ∃ spec, row.get "spec" = .json spec ∧ validateConfiguration a.id a.configuration spec = .ok ()) := by
  obtain ⟨id, -, h⟩ := bind_eq_ok.mp h
  obtain ⟨name, -, h⟩ := bind_eq_ok.mp h
  obtain ⟨definitionId, refers, h⟩ := bind_eq_ok.mp h
  obtain ⟨workspaceId, -, h⟩ := bind_eq_ok.mp h
  obtain ⟨configuration, -, h⟩ := bind_eq_ok.mp h
  obtain ⟨spec, selected, h⟩ := bind_eq_ok.mp h
  have refers := uuid?_eq_some (readField_eq_ok.mp refers)
  rcases nullable_json_eq_some (readField_eq_ok.mp selected) with ⟨null, rfl⟩ | ⟨spec, known, rfl⟩
  · cases h
    exact ⟨refers, .inl null⟩
  · obtain ⟨⟨⟩, valid, h⟩ := bind_eq_ok.mp h
    cases h
    exact ⟨refers, .inr ⟨spec, known, valid⟩⟩

/-- A definition without a specification is read all the same. -/
theorem definition_eq_ok {row : Row} {d : Definition} (h : definition row = .ok d) :
    (row.get "spec" = .null ∧ d.spec = .null) ∨ row.get "spec" = .json d.spec := by
  obtain ⟨spec, selected, h⟩ := bind_eq_ok.mp h
  obtain ⟨id, -, h⟩ := bind_eq_ok.mp h
  obtain ⟨name, -, h⟩ := bind_eq_ok.mp h
  obtain ⟨dockerRepository, -, h⟩ := bind_eq_ok.mp h
  obtain ⟨dockerImageTag, -, h⟩ := bind_eq_ok.mp h
  cases h
  rcases nullable_json_eq_some (readField_eq_ok.mp selected) with ⟨null, rfl⟩ | ⟨spec, known, rfl⟩
  · exact .inl ⟨null, rfl⟩
  · exact .inr known

end Postgres

/-- A configuration is valid if it is an object and the checker, where there is a schema to ask it about,
finds nothing wrong. -/
theorem validateConfiguration_eq_ok [SchemaChecker] {actor : Uuid} {configuration spec : Json} :
    validateConfiguration actor configuration spec = .ok () ↔ configuration.isObject = true ∧
      ∀ schema, connectionSchema? spec = some schema →
        SchemaChecker.check schema configuration.canonical = .ok [] := by
  rw [validateConfiguration, mapError_eq_ok, checkConfiguration]
  cases configuration.isObject with
  | false => exact iff_of_false (fun h => by cases h) fun h => Bool.false_ne_true h.1
  | true =>
    cases connectionSchema? spec with
    | none => exact iff_of_true rfl ⟨rfl, fun schema h => by cases h⟩
    | some schema =>
      cases found : SchemaChecker.check schema configuration.canonical with
      | error reason => simp [found]
      | ok failures => cases failures <;> simp [found]

/-- Under no specification a configuration only has to be an object. -/
theorem validateConfiguration_null [SchemaChecker] (actor : Uuid) (configuration : Json) :
    validateConfiguration actor configuration .null = .ok () ↔ configuration.isObject = true :=
  validateConfiguration_eq_ok.trans (and_iff_left fun schema h => by cases h)

end SyncHistory
