import SyncHistory.Proofs.Sql

/-!
# Statements are queries

The statements about jobs are the texts of queries: the n-th condition of a filter is a `Sql.Test` whose
place is n (`JobFilter.tests`), an order is a list of columns (`JobOrder.keys`), and what follows the
conditions takes the places after them. A statement that has some values already takes up one more
condition with the next place (`Condition.push_fragments`), and so all of them in a row
(`Condition.push_join`). The values of a statement are those of the conditions in order, then the others,
so that every place gets its own value (`paramAt_of_length`).
-/

namespace SyncHistory

open Sql

/-! ## Fragments -/

namespace Statement

theorem push_behind (s : Statement) (text : String) (value : SqlValue) :
    [Fragment.literal text, .param value].foldl push s =
      ⟨s.text ++ (text ++ Fragment.placeholder s.nextPlace), s.params ++ [value]⟩ := by
  rw [← String.append_assoc]
  rfl

theorem push_inside (s : Statement) (text after : String) (value : SqlValue) :
    [Fragment.literal text, .param value, .literal after].foldl push s =
      ⟨s.text ++ (text ++ Fragment.placeholder s.nextPlace ++ after), s.params ++ [value]⟩ := by
  rw [← String.append_assoc, ← String.append_assoc]
  rfl

end Statement

/-- The value after so many others. -/
theorem Sql.paramAt_of_length {front : List SqlValue} {value : SqlValue} {back : List SqlValue}
    {place : Nat} (length : place = front.length + 1) :
    paramAt (front ++ value :: back) place = value := by
  rw [length, paramAt, List.getElem?_append_right (Nat.le_refl _), Nat.sub_self]
  rfl

/-! ## Conditions -/

/-- The separator is only written between two conditions. -/
theorem Sql.whereText_cons (test next : Test) (rest : List Test) :
    whereText (test :: next :: rest) = test.text ++ (" AND " ++ whereText (next :: rest)) :=
  String.append_assoc

/-- The column of a time. -/
def OrderField.sqlColumn : OrderField → Column
  | createdAt => .createdAt
  | updatedAt => .updatedAt

namespace Condition

/-- The condition with its parameter in a place. -/
def test (place : Nat) : Condition → Test
  | configTypeIn _ => .isAnyOf .configType place
  | scopeIs _ => .compare .scope .equal place
  | scopeIn _ => .isAnyOf .scope place
  | workspaceIn _ => .inWorkspace place
  | statusIn _ => .isAnyOf .status place
  | notBefore field _ => .compare field.sqlColumn .atLeast place
  | notAfter field _ => .compare field.sqlColumn .atMost place

/-- The value that a condition compares with. -/
def value : Condition → SqlValue
  | configTypeIn names => .texts names
  | scopeIs scope => .text scope
  | scopeIn scopes => .texts scopes
  | workspaceIn ids => .uuids ids
  | statusIn names => .texts names
  | notBefore _ t => .time t
  | notAfter _ t => .time t

/-- A condition takes the next place. -/
theorem push_fragments (c : Condition) (s : Statement) :
    c.fragments.foldl Statement.push s =
      ⟨s.text ++ (c.test s.nextPlace).text, s.params ++ [c.value]⟩ := by
  cases c with
  | configTypeIn | scopeIn | statusIn | workspaceIn => exact s.push_inside _ _ _
  | scopeIs => exact s.push_behind _ _
  | notBefore field _ | notAfter field _ => cases field <;> exact s.push_behind _ _

/-- Conditions with their parameters in places that follow each other. -/
def testsFrom : (place : Nat) → List Condition → List Test
  | _, [] => []
  | place, c :: rest => c.test place :: testsFrom (place + 1) rest

/-- Conditions take the next places, in order. -/
theorem push_join (cs : List Condition) (s : Statement) :
    (Fragment.join " AND " (cs.map fragments)).foldl Statement.push s =
      ⟨s.text ++ whereText (testsFrom s.nextPlace cs), s.params ++ cs.map value⟩ := by
  induction cs generalizing s with
  | nil =>
    show s = ⟨s.text ++ "", s.params ++ []⟩
    rw [String.append_empty, List.append_nil]
  | cons c cs ih =>
    cases cs with
    | nil => exact push_fragments c s
    | cons d cs =>
      let next : Statement := ⟨s.text ++ (c.test s.nextPlace).text ++ " AND ", s.params ++ [c.value]⟩
      have place : next.nextPlace = s.nextPlace + 1 := by
        rw [Statement.nextPlace, List.length_append]
        rfl
      have text : whereText (testsFrom s.nextPlace (c :: d :: cs)) = (c.test s.nextPlace).text ++
          (" AND " ++ whereText (testsFrom (s.nextPlace + 1) (d :: cs))) := whereText_cons _ _ _
      calc (Fragment.join " AND " ((c :: d :: cs).map fragments)).foldl Statement.push s
          = (Fragment.join " AND " ((d :: cs).map fragments)).foldl Statement.push
              ((c.fragments.foldl Statement.push s).push (.literal " AND ")) :=
            List.foldl_append
        _ = (Fragment.join " AND " ((d :: cs).map fragments)).foldl Statement.push next := by
            rw [push_fragments]
            rfl
        _ = ⟨s.text ++ whereText (testsFrom s.nextPlace (c :: d :: cs)),
              s.params ++ (c :: d :: cs).map value⟩ := by
            rw [ih, place, text, String.append_assoc, String.append_assoc, List.append_assoc]
            rfl

end Condition

namespace JobFilter

/-- The conditions of a filter, each with the place of its parameter. -/
def tests (f : JobFilter) : List Test := Condition.testsFrom 1 f.conditions

/-- The values for the places of a filter. -/
def values (f : JobFilter) : List SqlValue := f.conditions.map Condition.value

/-- The conjunction of a filter as a statement of its own. -/
theorem clause_eq (f : JobFilter) : Statement.ofFragments f.clause = ⟨whereText f.tests, f.values⟩ := by
  refine (Condition.push_join f.conditions .empty).trans ?_
  rw [Statement.empty, String.empty_append, List.nil_append]
  rfl

theorem predicate_eq (f : JobFilter) : f.predicate = ⟨whereText f.tests, f.values⟩ :=
  f.clause_eq

end JobFilter

/-! ## Orders -/

/-- The columns that jobs are ordered by. -/
def JobOrder.keys (o : JobOrder) : List SortKey :=
  [⟨o.field.sqlColumn, o.direction⟩, ⟨.id, o.direction⟩]

theorem JobOrder.orderText_keys (o : JobOrder) : orderText o.keys = o.clause := by
  obtain ⟨field, direction⟩ := o
  cases field <;> cases direction <;> rfl

/-! ## Statements -/

namespace Postgres

/-- The query for jobs that pass a filter, in order, or a section of them. -/
def listQuery (filter : JobFilter) (order : JobOrder) (window : Option Window) : Query :=
  .list filter.tests order.keys
    (window.map fun _ => (filter.values.length + 1, filter.values.length + 2))

/-- The query for the number of jobs that pass a filter. -/
def countQuery (filter : JobFilter) : Query := .count filter.tests

/-- The query for the place of a job in the listing of a filter. -/
def positionQuery (filter : JobFilter) (order : JobOrder) : Query :=
  .position filter.tests order.keys (filter.values.length + 1)

/-- The values for a section. -/
def windowValues : Option Window → List SqlValue
  | some window => [.int window.limit.toNat, .int window.offset.toNat]
  | none => []

theorem listStatement_eq (filter : JobFilter) (order : JobOrder) (window : Option Window) :
    listStatement filter order window =
      ⟨(listQuery filter order window).text, filter.values ++ windowValues window⟩ := by
  rw [listStatement, JobFilter.predicate_eq, ← JobOrder.orderText_keys, listQuery, Query.text_list]
  cases window with
  | none =>
    show _ = Statement.mk (_ ++ "") (_ ++ [])
    rw [String.append_empty, List.append_nil]
    rfl
  | some window => rfl

theorem countStatement_eq (filter : JobFilter) :
    countStatement filter = ⟨(countQuery filter).text, filter.values⟩ := by
  rw [countStatement, JobFilter.predicate_eq, countQuery, Query.text_count]

theorem positionStatement_eq (filter : JobFilter) (order : JobOrder) (id : JobId) :
    positionStatement filter order id =
      ⟨(positionQuery filter order).text, filter.values ++ [SqlValue.int id]⟩ := by
  rw [positionQuery, Query.text_position, JobOrder.orderText_keys]
  delta positionStatement
  rw [JobFilter.predicate_eq]
  rfl

end Postgres

end SyncHistory
