import Mathlib.Logic.Function.Basic
import SyncHistory.Postgres.Connectors
import SyncHistory.Proofs.Conversation
import SyncHistory.Proofs.Statement

/-!
# Queries on the tables of connectors

The part of SQL that questions about connections and connectors are asked in: columns of a table and of
tables joined to it by the value of a column, and conditions that compare a column with a parameter or
with `FALSE`. All of it is data. `Select.text` is how a query is written, and `Select.rows` are the rows
that answer it, given the content of a database and a list of parameters. About the content nothing is
supposed: every column may be null, and no column has to be different in different rows.

The statements about connections and connectors are the texts of three such queries, so a content has an
answer to each of them (`Content.reply`): those about an actor and about a definition are answered by the
rows of their queries (`reply_actor`, `reply_definition`).
-/

namespace SyncHistory

namespace ConnectorSql

/-! ## Content -/

/-- A table of connections or connectors. -/
inductive Table where
  | connection
  | actor
  | definition
  | version
deriving DecidableEq

/-- The table as it is written. -/
def Table.text : Table → String
  | connection => "connection"
  | actor => "actor"
  | definition => "actor_definition"
  | version => "actor_definition_version"

/-- A row of a table: values and truth values under the names of columns, those of enumerations as texts.
A column that is not there is null. -/
structure TableRow where
  cells : Row
  flags : List (String × Bool)

/-- The value in a column. -/
abbrev TableRow.get (r : TableRow) (name : String) : SqlValue := r.cells.get name

/-- What a database holds. -/
structure Content where
  connections : List TableRow
  actors : List TableRow
  definitions : List TableRow
  versions : List TableRow

/-- The rows of a table. -/
def Content.rows (db : Content) : Table → List TableRow
  | .connection => db.connections
  | .actor => db.actors
  | .definition => db.definitions
  | .version => db.versions

/-! ## Columns -/

/-- A column of a table. -/
structure Column where
  table : Table
  name : String

/-- The column as it is written, with its table or without. -/
def Column.text (qualified : Bool) (c : Column) : String :=
  if qualified then c.table.text ++ "." ++ c.name else c.name

/-- An expression as it is written when it may have to be made a text. Values of enumerations are texts
already, so this has no bearing on the value. -/
def castText (cast : Bool) (text : String) : String :=
  if cast then "CAST(" ++ text ++ " AS VARCHAR)" else text

/-- A row of each table that has been joined so far. -/
structure Combination where
  row? : Table → Option TableRow

namespace Combination

/-- The combination of no rows. -/
def empty : Combination := ⟨fun _ => none⟩

/-- The combination with a row of one more table. -/
def add (c : Combination) (table : Table) (row : TableRow) : Combination :=
  ⟨Function.update c.row? table (some row)⟩

/-- The value in a column, null if the table has no row in the combination. -/
def get (c : Combination) (column : Column) : SqlValue :=
  match c.row? column.table with
  | some row => row.get column.name
  | none => .null

/-- The truth value in a column, if it is not null. -/
def flag? (c : Combination) (column : Column) : Option Bool := do
  (← c.row? column.table).flags.lookup column.name

end Combination

/-- Are two values equal? Null is equal to nothing. -/
def equal (a b : SqlValue) : Bool := a != .null && a == b

theorem equal_iff {a b : SqlValue} : equal a b = true ↔ a = b ∧ a ≠ .null := by
  rw [equal, Bool.and_eq_true, bne_iff_ne, beq_iff_eq, and_comm]

/-! ## Joins -/

/-- A table that is joined by a column of its own, which has to be equal to one of the tables before. -/
structure Join where
  /-- Does a combination stay that has no partner in the table? -/
  outer : Bool
  key : Column
  target : Column

namespace Join

/-- The join as it is written. -/
def text (j : Join) : String :=
  (if j.outer then " LEFT JOIN " else " JOIN ") ++ j.key.table.text ++ " ON " ++ j.key.text true ++
    " = " ++ j.target.text true

/-- The rows of the table that a combination is joined to. -/
def partners (db : Content) (j : Join) (c : Combination) : List TableRow :=
  (db.rows j.key.table).filter fun row => equal (row.get j.key.name) (c.get j.target)

/-- What becomes of a combination. -/
def extend (db : Content) (j : Join) (c : Combination) : List Combination :=
  if j.outer && (j.partners db c).isEmpty then [c]
  else (j.partners db c).map (c.add j.key.table)

variable {db : Content} {j : Join} {c c' : Combination} {row : TableRow}

theorem mem_partners :
    row ∈ j.partners db c ↔ row ∈ db.rows j.key.table ∧ row.get j.key.name = c.get j.target ∧
      row.get j.key.name ≠ .null := by
  rw [partners, List.mem_filter, equal_iff]

/-- A partner is never lost. -/
theorem mem_extend_of_partner (partner : row ∈ j.partners db c) :
    c.add j.key.table row ∈ j.extend db c := by
  have some : (j.partners db c).isEmpty = false := by
    rw [List.isEmpty_eq_false_iff]
    exact List.ne_nil_of_mem partner
  rw [extend, some, Bool.and_false, if_neg Bool.false_ne_true]
  exact List.mem_map_of_mem partner

/-- An inner join keeps nothing but combinations with a partner. -/
theorem exists_of_mem_extend (inner : j.outer = false) (mem : c' ∈ j.extend db c) :
    ∃ row ∈ j.partners db c, c' = c.add j.key.table row := by
  rw [extend, inner, Bool.false_and, if_neg Bool.false_ne_true] at mem
  obtain ⟨row, partner, rfl⟩ := List.mem_map.mp mem
  exact ⟨row, partner, rfl⟩

/-- What was combined before stays as it is. -/
theorem row?_of_mem_extend {table : Table} (other : table ≠ j.key.table) (mem : c' ∈ j.extend db c) :
    c'.row? table = c.row? table := by
  rw [extend] at mem
  split at mem
  · rw [List.mem_singleton.mp mem]
  · obtain ⟨row, -, rfl⟩ := List.mem_map.mp mem
    exact Function.update_of_ne other _ _

end Join

/-! ## Queries -/

/-- A condition on a combination. -/
inductive Test where
  /-- The column is equal to the parameter at a place. -/
  | isParam (column : Column) (cast : Bool) (place : Nat)
  | isFalse (column : Column)

namespace Test

/-- The condition as it is written. -/
def text (qualified : Bool) : Test → String
  | isParam column cast place =>
    castText cast (column.text qualified) ++ " = " ++ Fragment.placeholder place
  | isFalse column => column.text qualified ++ " = FALSE"

/-- Does the condition hold of a combination? -/
def holds (params : List SqlValue) (c : Combination) : Test → Bool
  | isParam column _ place => equal (c.get column) (Sql.paramAt params place)
  | isFalse column => c.flag? column == some false

end Test

/-- A query. -/
structure Select where
  /-- Are columns written with their tables? -/
  qualified : Bool
  /-- The columns, and whether each has to be made a text. -/
  columns : List (Column × Bool)
  source : Table
  joins : List Join
  tests : List Test

namespace Select

/-- A column as it is written among those selected; one that is made a text keeps its name. -/
def columnText (s : Select) (column : Column) (cast : Bool) : String :=
  castText cast (column.text s.qualified) ++ if cast then " AS " ++ column.name else ""

/-- The query as it is written. -/
def text (s : Select) : String :=
  "SELECT " ++ Text.joinWith ", " (s.columns.map fun (column, cast) => s.columnText column cast) ++
    " FROM " ++ s.source.text ++ String.join (s.joins.map Join.text) ++
    " WHERE " ++ Text.joinWith " AND " (s.tests.map (Test.text s.qualified))

/-- All combinations of the joined tables. -/
def combinations (db : Content) (s : Select) : List Combination :=
  s.joins.foldl (fun cs j => cs.flatMap (j.extend db))
    ((db.rows s.source).map (Combination.empty.add s.source))

/-- The selected columns of a combination. -/
def row (s : Select) (c : Combination) : Row where
  cells := s.columns.map fun (column, _) => (column.name, c.get column)

/-- The rows that answer the query. -/
def rows (db : Content) (params : List SqlValue) (s : Select) : List Row :=
  ((s.combinations db).filter fun c => s.tests.all (Test.holds params c)).map s.row

end Select

/-- Connections by identifier. -/
def connectionSelect : Select where
  qualified := false
  columns := [(⟨.connection, "id"⟩, false), (⟨.connection, "name"⟩, false),
    (⟨.connection, "source_id"⟩, false), (⟨.connection, "destination_id"⟩, false),
    (⟨.connection, "status"⟩, true)]
  source := .connection
  joins := []
  tests := [.isParam ⟨.connection, "id"⟩ false 1]

/-- Actors are joined to their definitions, and are kept without. -/
def definitionJoin : Join :=
  ⟨true, ⟨.definition, "id"⟩, ⟨.actor, "actor_definition_id"⟩⟩

/-- Definitions are joined to their current versions. -/
def versionJoin (outer : Bool) : Join :=
  ⟨outer, ⟨.version, "id"⟩, ⟨.definition, "default_version_id"⟩⟩

/-- Actors that have not been removed, by identifier and kind, with the specification of the definition
if there is one. -/
def actorSelect : Select where
  qualified := true
  columns := [(⟨.actor, "id"⟩, false), (⟨.actor, "name"⟩, false),
    (⟨.actor, "actor_definition_id"⟩, false), (⟨.actor, "workspace_id"⟩, false),
    (⟨.actor, "configuration"⟩, false), (⟨.version, "spec"⟩, false)]
  source := .actor
  joins := [definitionJoin, versionJoin true]
  tests := [.isParam ⟨.actor, "id"⟩ false 1, .isParam ⟨.actor, "actor_type"⟩ true 2,
    .isFalse ⟨.actor, "tombstone"⟩]

/-- Definitions in their current versions, by identifier and kind. -/
def definitionSelect : Select where
  qualified := true
  columns := [(⟨.definition, "id"⟩, false), (⟨.definition, "name"⟩, false),
    (⟨.version, "docker_repository"⟩, false), (⟨.version, "docker_image_tag"⟩, false),
    (⟨.version, "spec"⟩, false)]
  source := .definition
  joins := [versionJoin false]
  tests := [.isParam ⟨.definition, "id"⟩ false 1, .isParam ⟨.definition, "actor_type"⟩ true 2]

/-- The query that is written like this. -/
def select? (text : String) : Option Select :=
  [connectionSelect, actorSelect, definitionSelect].find? fun select => select.text == text

theorem select?_actor : select? actorSelect.text = some actorSelect := by
  have other : (connectionSelect.text == actorSelect.text) = false := by decide +kernel
  simp only [select?, List.find?_cons, other, beq_self_eq_true]

theorem select?_definition : select? definitionSelect.text = some definitionSelect := by
  have other₁ : (connectionSelect.text == definitionSelect.text) = false := by decide +kernel
  have other₂ : (actorSelect.text == definitionSelect.text) = false := by decide +kernel
  simp only [select?, List.find?_cons, other₁, other₂, beq_self_eq_true]

/-- The rows that answer a statement; there are none to a statement that is no query. -/
def Content.reply (db : Content) (s : Statement) : List Row :=
  match select? s.text with
  | some select => select.rows db s.params
  | none => []

end ConnectorSql

open ConnectorSql

namespace Postgres

theorem actorStatement_eq (id : Uuid) (kind : String) :
    actorStatement id kind = ⟨actorSelect.text, [.uuid id, .text kind]⟩ := by
  -- the text is the same for all values
  have text : (actorStatement ⟨.replicate 32 0⟩ "").text = actorSelect.text := by decide +kernel
  exact congrArg (Statement.mk · [.uuid id, .text kind]) text

theorem definitionStatement_eq (id : Uuid) (kind : String) :
    definitionStatement id kind = ⟨definitionSelect.text, [.uuid id, .text kind]⟩ := by
  have text : (definitionStatement ⟨.replicate 32 0⟩ "").text = definitionSelect.text := by
    decide +kernel
  exact congrArg (Statement.mk · [.uuid id, .text kind]) text

end Postgres

namespace ConnectorSql

theorem reply_actor (db : Content) (id : Uuid) (kind : String) :
    db.reply (Postgres.actorStatement id kind) = actorSelect.rows db [.uuid id, .text kind] := by
  rw [Postgres.actorStatement_eq, Content.reply, select?_actor]

theorem reply_definition (db : Content) (id : Uuid) (kind : String) :
    db.reply (Postgres.definitionStatement id kind) =
      definitionSelect.rows db [.uuid id, .text kind] := by
  rw [Postgres.definitionStatement_eq, Content.reply, select?_definition]

end ConnectorSql

end SyncHistory
