import SyncHistory.Error
import SyncHistory.Program
import SyncHistory.Sql.Statement

/-!
# Rows of an answer

What a database answers to a statement: rows, each of which has a value under the name of every selected
column. `Columns.read` reads one value; if the value is not of the type that is expected, the fault names
the column by its index in the list of selected columns. `database` is the interface of whoever answers
statements.
-/

namespace SyncHistory

/-- A row: values under the names of columns. A column that is not there is null. -/
structure Row where
  cells : List (String × SqlValue)
deriving DecidableEq

/-- The value in a column. -/
def Row.get (r : Row) (name : String) : SqlValue :=
  (r.cells.lookup name).getD .null

namespace SqlValue

/-- A whole number. -/
def int? : SqlValue → Option Int
  | int n => some n
  | _ => none

def text? : SqlValue → Option String
  | text s => some s
  | _ => none

/-- A point in time. -/
def time? : SqlValue → Option Instant
  | time t => some t
  | _ => none

/-- An identifier. -/
def uuid? : SqlValue → Option Uuid
  | uuid id => some id
  | _ => none

def json? : SqlValue → Option Json
  | json j => some j
  | _ => none

/-- Null, or a value. -/
def nullable? (read : SqlValue → Option α) : SqlValue → Option (Option α)
  | null => some none
  | v => (read v).map some

end SqlValue

/-- The selected columns of a statement: how each is computed, and the name it has. -/
structure Columns where
  list : List (String × String)
deriving DecidableEq

namespace Columns

/-- The columns as they are written in a statement. -/
def text (c : Columns) : String :=
  Text.joinWith ", " (c.list.map (·.1))

def index (c : Columns) (name : String) : Nat :=
  (c.list.map (·.2)).idxOf name

def read (c : Columns) (row : Row) (name : String) (decode : SqlValue → Option α) :
    Except DatabaseFault α :=
  match decode (row.get name) with
  | some a => .ok a
  | none => .error (.undecodable (c.index name))

end Columns

/-- Statements, and the rows that answer them. -/
def database : Interface := ⟨Statement, fun _ => Except DatabaseFault (List Row)⟩

/-- The one row of an answer. -/
def Row.one : List Row → Except DatabaseFault Row
  | [row] => .ok row
  | _ => .error .unexpectedRowCount

/-- The one row of an answer that may have none. -/
def Row.atMostOne : List Row → Except DatabaseFault (Option Row)
  | [] => .ok none
  | [row] => .ok (some row)
  | _ => .error .unexpectedRowCount

end SyncHistory
