import SyncHistory.Instant
import SyncHistory.Json.Basic
import SyncHistory.Uuid

/-!
# SQL statements with parameters

A statement is text with places for parameters, and a value for each place. It is written as a list of
fragments in which a parameter stands where its place is. `Statement.push` writes one of them: a value
takes the place after those that are taken (`Statement.nextPlace`), so that the n-th value belongs to the
n-th place. No value ever becomes part of the text.
-/

namespace SyncHistory

/-- A value that is sent to a database or comes from it. -/
inductive SqlValue where
  | null
  | int (n : Int)
  | text (s : String)
  | time (t : Instant)
  | uuid (id : Uuid)
  | json (j : Json)
  | ints (ns : List Int)
  | texts (ss : List String)
  | uuids (ids : List Uuid)
deriving DecidableEq

/-- A statement as it is sent. -/
structure Statement where
  text : String
  params : List SqlValue
deriving DecidableEq

/-- A part of a statement. -/
inductive Fragment where
  | literal (text : String)
  | param (value : SqlValue)
deriving DecidableEq

namespace Fragment

/-- The mark of the n-th place. -/
def placeholder (n : Nat) : String := "$" ++ Digits.natText n

/-- Fragments with a separator between neighbours. -/
def join (separator : String) : List (List Fragment) → List Fragment
  | [] => []
  | [part] => part
  | part :: rest => part ++ literal separator :: join separator rest

end Fragment

namespace Statement

def empty : Statement := ⟨"", []⟩

/-- The number of the next place; as many are taken as there are values. -/
def nextPlace (s : Statement) : Nat := s.params.length + 1

/-- The statement with one more part behind it. -/
def push (s : Statement) : Fragment → Statement
  | .literal text => ⟨s.text ++ text, s.params⟩
  | .param value => ⟨s.text ++ Fragment.placeholder s.nextPlace, s.params ++ [value]⟩

/-- The statement that fragments make up. -/
def ofFragments (fragments : List Fragment) : Statement :=
  fragments.foldl push empty

end Statement

end SyncHistory
