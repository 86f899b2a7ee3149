import SyncHistory.Connector
import SyncHistory.Postgres.Jobs

/-!
# Queries on the table of jobs

The part of SQL that questions about jobs are asked in: conditions that compare a column with a
parameter, an order by columns, and three shapes of queries. All of it is data. `Query.text` is how a
query is written; `Query.Answers` says which rows answer it, given the content of a database and a list of
parameters. A condition knows its parameter by the number of its place and by nothing else.

A database may list rows in any order that an `ORDER BY` allows, so a query may have several answers.
-/

namespace SyncHistory

namespace Sql

/-! ## Content -/

/-- A row of the table of jobs; only the configuration and the start may be null. -/
structure JobRow where
  id : Int
  configType : String
  scope : String
  config : Option Json
  status : String
  startedAt : Option Instant
  createdAt : Instant
  updatedAt : Instant
deriving DecidableEq

/-- What a database holds. -/
structure Content where
  jobs : List JobRow
  connections : List Connection
  actors : List Actor

/-- The row of an answer that has all columns of a job. -/
def JobRow.selected (r : JobRow) : Row where
  cells := [("id", .int r.id), ("config_type", .text r.configType), ("scope", .text r.scope),
    ("config", (r.config.map SqlValue.json).getD .null), ("status", .text r.status),
    ("started_at", (r.startedAt.map SqlValue.time).getD .null), ("created_at", .time r.createdAt),
    ("updated_at", .time r.updatedAt)]

/-- A column that conditions and orders are about. -/
inductive Column where
  | id
  | configType
  | scope
  | status
  | createdAt
  | updatedAt
deriving DecidableEq

namespace Column

/-- The column as it is written. -/
def text : Column → String
  | id => "jobs.id"
  | configType => "CAST(jobs.config_type AS VARCHAR)"
  | scope => "jobs.scope"
  | status => "CAST(jobs.status AS VARCHAR)"
  | createdAt => "jobs.created_at"
  | updatedAt => "jobs.updated_at"

/-- The value of a row in the column. -/
def value (r : JobRow) : Column → SqlValue
  | id => .int r.id
  | configType => .text r.configType
  | scope => .text r.scope
  | status => .text r.status
  | createdAt => .time r.createdAt
  | updatedAt => .time r.updatedAt

end Column

/-! ## Values -/

/-- The value for a place; places are counted from one. -/
def paramAt (params : List SqlValue) : (place : Nat) → SqlValue
  | 0 => .null
  | index + 1 => (params[index]?).getD .null

/-- The elements of a list. -/
def elements : SqlValue → List SqlValue
  | .ints ns => ns.map .int
  | .texts ss => ss.map .text
  | .uuids ids => ids.map .uuid
  | _ => []

/-- Is one number or time at most another one? -/
def atMost : SqlValue → SqlValue → Bool
  | .int a, .int b => decide (a ≤ b)
  | .time a, .time b => decide (a ≤ b)
  | _, _ => false

/-! ## Conditions -/

/-- A comparison of two values. -/
inductive Comparison where
  | equal
  | atLeast
  | atMost
deriving DecidableEq

namespace Comparison

/-- The comparison as it is written. -/
def symbol : Comparison → String
  | equal => " = "
  | atLeast => " >= "
  | atMost => " <= "

/-- Does the comparison hold of a value and a parameter? -/
def holds : Comparison → (value param : SqlValue) → Bool
  | equal, value, param => value == param
  | atLeast, value, param => Sql.atMost param value
  | atMost, value, param => Sql.atMost value param

end Comparison

/-- A condition on a row, with the place of its parameter. -/
inductive Test where
  | compare (column : Column) (comparison : Comparison) (place : Nat)
  | isAnyOf (column : Column) (place : Nat)
  /-- The scope is that of a connection whose source is in one of the workspaces. -/
  | inWorkspace (place : Nat)
deriving DecidableEq

namespace Test

/-- The condition as it is written. -/
def text : Test → String
  | compare column comparison place =>
    column.text ++ comparison.symbol ++ Fragment.placeholder place
  | isAnyOf column place => column.text ++ " = ANY(" ++ Fragment.placeholder place ++ ")"
  | inWorkspace place =>
    "jobs.scope IN (SELECT CAST(connection.id AS VARCHAR) FROM connection " ++
      "JOIN actor ON actor.id = connection.source_id WHERE actor.workspace_id = ANY(" ++
      Fragment.placeholder place ++ "))"

theorem text_compare (column : Column) (comparison : Comparison) (place : Nat) :
    (compare column comparison place).text =
      column.text ++ comparison.symbol ++ Fragment.placeholder place := rfl

theorem text_isAnyOf (column : Column) (place : Nat) :
    (isAnyOf column place).text = column.text ++ " = ANY(" ++ Fragment.placeholder place ++ ")" := rfl

theorem text_inWorkspace (place : Nat) :
    (inWorkspace place).text =
      "jobs.scope IN (SELECT CAST(connection.id AS VARCHAR) FROM connection " ++
        "JOIN actor ON actor.id = connection.source_id WHERE actor.workspace_id = ANY(" ++
        Fragment.placeholder place ++ "))" := rfl

/-- Does the condition hold of a row? -/
def holds (db : Content) (params : List SqlValue) (r : JobRow) : Test → Bool
  | compare column comparison place => comparison.holds (column.value r) (paramAt params place)
  | isAnyOf column place => (elements (paramAt params place)).contains (column.value r)
  | inWorkspace place =>
    db.connections.any fun (connection : Connection) => r.scope == connection.id.text &&
      db.actors.any fun (actor : Actor) => actor.id == connection.sourceId &&
        (elements (paramAt params place)).contains (.uuid actor.workspaceId)

end Test

/-- Do all conditions hold of a row? -/
def allHold (db : Content) (params : List SqlValue) (tests : List Test) (r : JobRow) : Bool :=
  tests.all fun test => test.holds db params r

/-- The conjunction of conditions as it is written. -/
def whereText (tests : List Test) : String :=
  Text.joinWith " AND " (tests.map Test.text)

/-! ## Orders -/

/-- A column that rows are ordered by. -/
structure SortKey where
  column : Column
  direction : Direction
deriving DecidableEq

/-- Columns to order by as they are written. -/
def orderText (keys : List SortKey) : String :=
  Text.joinWith ", " (keys.map fun key => key.column.text ++ " " ++ key.direction.keyword)

/-- Does a direction put one value before another, different one? -/
def puts : Direction → (first second : SqlValue) → Bool
  | .ascending, first, second => atMost first second && first != second
  | .descending, first, second => atMost second first && first != second

/-- Does the first row have to stand before the second? The first column in which they differ decides. -/
def sortsBefore : List SortKey → (first second : JobRow) → Bool
  | [], _, _ => false
  | key :: rest, a, b =>
    puts key.direction (key.column.value a) (key.column.value b) ||
      (key.column.value a == key.column.value b && sortsBefore rest a b)

/-! ## Queries -/

/-- A query on the table of jobs. -/
inductive Query where
  /-- The rows of which conditions hold, in order, and of these at most as many as the parameter at one
  place says, after those that the parameter at another place says to leave out. -/
  | list (tests : List Test) (keys : List SortKey) (window : Option (Nat × Nat))
  /-- The number of rows of which conditions hold. -/
  | count (tests : List Test)
  /-- The place, counted from one, of the row with the identifier at a place of the statement, among the
  rows of which conditions hold. -/
  | position (tests : List Test) (keys : List SortKey) (place : Nat)

/-- The rows of which conditions hold, in an order that is allowed. -/
structure Listed (db : Content) (params : List SqlValue) (tests : List Test) (keys : List SortKey)
    (rows : List JobRow) : Prop where
  perm : rows.Perm (db.jobs.filter (allHold db params tests))
  sorted : rows.Pairwise fun a b => sortsBefore keys b a = false

namespace Query

/-- The section of a listing as it is written. -/
def windowText : Option (Nat × Nat) → String
  | some (limit, offset) =>
    " LIMIT " ++ Fragment.placeholder limit ++ " OFFSET " ++ Fragment.placeholder offset
  | none => ""

/-- The query as it is written. -/
def text : Query → String
  | list tests keys window =>
    "SELECT " ++ Postgres.jobColumns.text ++ " FROM jobs WHERE " ++ whereText tests ++ " ORDER BY " ++
      orderText keys ++ windowText window
  | count tests => "SELECT " ++ Postgres.countColumns.text ++ " FROM jobs WHERE " ++ whereText tests
  | position tests keys place =>
    "SELECT " ++ Postgres.positionColumns.text ++ " FROM (SELECT jobs.id, ROW_NUMBER() OVER " ++
      "(ORDER BY " ++ orderText keys ++ ") AS position FROM jobs WHERE " ++ whereText tests ++
      ") ranked WHERE ranked.id = " ++ Fragment.placeholder place

theorem text_list (tests : List Test) (keys : List SortKey) (window : Option (Nat × Nat)) :
    (list tests keys window).text = "SELECT " ++ Postgres.jobColumns.text ++ " FROM jobs WHERE " ++
      whereText tests ++ " ORDER BY " ++ orderText keys ++ windowText window := rfl

theorem text_count (tests : List Test) :
    (count tests).text = "SELECT " ++ Postgres.countColumns.text ++ " FROM jobs WHERE " ++
      whereText tests := rfl

theorem text_position (tests : List Test) (keys : List SortKey) (place : Nat) :
    (position tests keys place).text = "SELECT " ++ Postgres.positionColumns.text ++
      " FROM (SELECT jobs.id, ROW_NUMBER() OVER " ++ "(ORDER BY " ++ orderText keys ++
      ") AS position FROM jobs WHERE " ++ whereText tests ++ ") ranked WHERE ranked.id = " ++
      Fragment.placeholder place := rfl

/-- The section of rows, if its limit and offset are numbers. -/
def Section (params : List SqlValue) (rows : List JobRow) : Option (Nat × Nat) → List JobRow → Prop
  | none, found => found = rows
  | some (limitPlace, offsetPlace), found => ∃ limit offset : Nat,
    paramAt params limitPlace = .int limit ∧ paramAt params offsetPlace = .int offset ∧
      found = (rows.drop offset).take limit

/-- The rows answer the query. -/
def Answers (db : Content) (params : List SqlValue) : Query → List Row → Prop
  | list tests keys window, answer => ∃ rows found, Listed db params tests keys rows ∧
    Section params rows window found ∧ answer = found.map JobRow.selected
  | count tests, answer =>
    answer = [⟨[("count", .int (db.jobs.filter (allHold db params tests)).length)]⟩]
  | position tests keys place, answer => ∃ rows, Listed db params tests keys rows ∧
    answer = ((rows.zipIdx 1).filter fun ranked => SqlValue.int ranked.1.id == paramAt params place).map
      fun ranked => ⟨[("position", .int ranked.2)]⟩

end Query

end Sql

end SyncHistory
