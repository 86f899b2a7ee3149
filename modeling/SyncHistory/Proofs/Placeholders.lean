import SyncHistory.Proofs.Digits
import SyncHistory.Proofs.Statement

/-!
# Places of a statement

The places of a statement are found in its text (`Sql.places`): each mark with the number behind it. A text
that does not begin with a digit may follow any other without changing a number (`Sql.places_append`), and
all parts of a statement are such texts, so its places are those of its conditions, which are numbered in
order, and then those of what follows (`Statement.binds`).

The value in the place of a condition is that of the field that the condition is about
(`JobFilter.fieldValue`). The text has no other trace of a value: filters of the same shape have the same
conditions (`JobFilter.SameShape.tests`). `job_statements_bound` puts all of it together.
-/

namespace SyncHistory

open Sql

namespace Sql

/-! ## Places in a text -/

/-- The numbers behind the marks in a text, in order; a mark without a number is none. -/
def placesOf : List Char → List (Option Nat)
  | [] => []
  | c :: cs =>
    if c = '$' then Digits.nat? 10 (cs.takeWhile Digits.isDecimal) :: placesOf cs else placesOf cs

/-- The places in a text, in order. -/
def places (text : String) : List (Option Nat) := placesOf text.toList

/-- The text may follow a number: it does not go on with a digit. -/
def detached (text : String) : Bool :=
  text.toList.head?.all fun c => !Digits.isDecimal c

theorem places_ofList {cs : List Char} {found : List (Option Nat)} (h : placesOf cs = found) :
    places (String.ofList cs) = found := by
  rw [places, String.toList_ofList, h]

theorem detached_ofList {c : Char} (cs : List Char) (h : Digits.isDecimal c = false) :
    detached (String.ofList (c :: cs)) := by
  rw [detached, String.toList_ofList, List.head?_cons, Option.all_some, h]
  rfl

theorem takeWhile_of_detached {text : String} (h : detached text) :
    text.toList.takeWhile Digits.isDecimal = [] := by
  unfold detached at h
  cases chars : text.toList with
  | nil => rfl
  | cons c cs =>
    rw [chars, List.head?_cons, Option.all_some, Bool.not_eq_true'] at h
    rw [List.takeWhile_cons, h]
    rfl

theorem detached_append {a b : String} (ha : detached a) (hb : detached b) : detached (a ++ b) := by
  unfold detached at *
  rw [String.toList_append]
  cases chars : a.toList with
  | nil => exact hb
  | cons c cs => rwa [chars] at ha

theorem placesOf_append (xs : List Char) {ys : List Char}
    (apart : ys.takeWhile Digits.isDecimal = []) : placesOf (xs ++ ys) = placesOf xs ++ placesOf ys := by
  have run (cs : List Char) :
      (cs ++ ys).takeWhile Digits.isDecimal = cs.takeWhile Digits.isDecimal := by
    induction cs with
    | nil => exact apart
    | cons c cs ih => rw [List.cons_append, List.takeWhile_cons, List.takeWhile_cons, ih]
  induction xs with
  | nil => rfl
  | cons x xs ih =>
    rw [List.cons_append, placesOf, placesOf, run, ih]
    by_cases mark : x = '$'
    · rw [if_pos mark, if_pos mark, List.cons_append]
    · rw [if_neg mark, if_neg mark]

theorem places_append (a : String) {b : String} (apart : detached b) :
    places (a ++ b) = places a ++ places b := by
  rw [places, String.toList_append, placesOf_append _ (takeWhile_of_detached apart)]
  rfl

theorem detached_placeholder (n : Nat) : detached (Fragment.placeholder n) := by
  rw [detached, Fragment.placeholder, String.toList_append]
  rfl

/-- A mark is the place that it is the mark of. -/
theorem places_placeholder (n : Nat) : places (Fragment.placeholder n) = [some n] := by
  have digits {cs : List Char} (decimal : ∀ c ∈ cs, Digits.isDecimal c = true) : placesOf cs = [] := by
    induction cs with
    | nil => rfl
    | cons c cs ih =>
      have noMark : c ≠ '$' := by
        rintro rfl
        exact absurd (decimal _ List.mem_cons_self) (by decide)
      rw [placesOf, if_neg noMark, ih fun d mem => decimal d (List.mem_cons_of_mem c mem)]
  have chars : (Fragment.placeholder n).toList = '$' :: Digits.ofNat n := by
    rw [Fragment.placeholder, String.toList_append]
    exact congrArg (['$'] ++ ·) String.toList_ofList
  rw [places, chars, placesOf, if_pos rfl, Digits.takeWhile_ofNat, Digits.nat?_ofNat,
    digits Digits.isDecimal_of_mem_ofNat]

/-! ## Places of conditions -/

theorem Column.places_text (column : Column) : places column.text = [] := by
  cases column <;> exact places_ofList (by decide)

theorem Column.detached_text (column : Column) : detached column.text := by
  cases column <;> exact detached_ofList _ (by decide)

theorem Comparison.places_symbol (comparison : Comparison) : places comparison.symbol = [] := by
  cases comparison <;> exact places_ofList (by decide)

theorem Comparison.detached_symbol (comparison : Comparison) : detached comparison.symbol := by
  cases comparison <;> exact detached_ofList _ (by decide)

namespace Test

/-- The place that a condition has its parameter in. -/
def place : Test → Nat
  | compare _ _ place | isAnyOf _ place | inWorkspace place => place

theorem detached_text (test : Test) : detached test.text := by
  cases test with
  | compare column comparison place =>
    rw [text_compare]
    exact detached_append (detached_append column.detached_text comparison.detached_symbol)
      (detached_placeholder place)
  | isAnyOf column place =>
    rw [text_isAnyOf]
    exact detached_append (detached_append (detached_append column.detached_text
      (detached_ofList _ (by decide))) (detached_placeholder place)) (detached_ofList _ (by decide))
  | inWorkspace place =>
    rw [text_inWorkspace]
    exact detached_append (detached_append (detached_append (detached_ofList _ (by decide))
      (detached_ofList _ (by decide))) (detached_placeholder place)) (detached_ofList _ (by decide))

/-- A condition has one place. -/
theorem places_text (test : Test) : places test.text = [some test.place] := by
  cases test with
  | compare column comparison place =>
    rw [text_compare, places_append _ (detached_placeholder place),
      places_append _ comparison.detached_symbol, column.places_text, comparison.places_symbol,
      places_placeholder]
    rfl
  | isAnyOf column place =>
    have separator : places " = ANY(" = [] := places_ofList (by decide)
    have ending : places ")" = [] := places_ofList (by decide)
    rw [text_isAnyOf, places_append _ (detached_ofList _ (by decide)),
      places_append _ (detached_placeholder place), places_append _ (detached_ofList _ (by decide)),
      column.places_text, separator, ending, places_placeholder]
    rfl
  | inWorkspace place =>
    have connections : places "jobs.scope IN (SELECT CAST(connection.id AS VARCHAR) FROM connection " =
      [] := places_ofList (by decide)
    have actors : places "JOIN actor ON actor.id = connection.source_id WHERE actor.workspace_id = ANY(" =
      [] := places_ofList (by decide)
    have ending : places "))" = [] := places_ofList (by decide)
    rw [text_inWorkspace, places_append _ (detached_ofList _ (by decide)),
      places_append _ (detached_placeholder place), places_append _ (detached_ofList _ (by decide)),
      connections, actors, ending, places_placeholder]
    rfl

end Test

theorem detached_whereText (tests : List Test) : detached (whereText tests) := by
  induction tests with
  | nil => rfl
  | cons test tests ih =>
    cases tests with
    | nil => exact test.detached_text
    | cons next rest =>
      rw [whereText_cons]
      exact detached_append test.detached_text (detached_append (detached_ofList _ (by decide)) ih)

/-- The places of a conjunction are those of its conditions. -/
theorem places_whereText (tests : List Test) :
    places (whereText tests) = tests.map fun test => some test.place := by
  induction tests with
  | nil => rfl
  | cons test tests ih =>
    cases tests with
    | nil => exact test.places_text
    | cons next rest =>
      have apart := detached_whereText (next :: rest)
      have separator : places " AND " = [] := places_ofList (by decide)
      rw [whereText_cons, places_append _ (detached_append (detached_ofList _ (by decide)) apart),
        places_append _ apart, separator, ih, test.places_text]
      rfl

end Sql

/-! ## Conditions and fields -/

namespace Condition

theorem place_test (c : Condition) (place : Nat) : (c.test place).place = place := by
  cases c <;> rfl

theorem map_place_testsFrom (cs : List Condition) (place : Nat) :
    (testsFrom place cs).map Test.place = List.range' place cs.length := by
  induction cs generalizing place with
  | nil => rfl
  | cons c cs ih => rw [testsFrom, List.map_cons, ih, place_test, List.length_cons, List.range'_succ]

theorem exists_of_mem_testsFrom {cs : List Condition} {place : Nat} {test : Test}
    (mem : test ∈ testsFrom place cs) :
    ∃ (i : Nat) (c : Condition), cs[i]? = some c ∧ test = c.test (place + i) := by
  induction cs generalizing place with
  | nil => exact absurd mem List.not_mem_nil
  | cons c cs ih =>
    rcases List.mem_cons.mp mem with rfl | mem
    · exact ⟨0, c, rfl, rfl⟩
    · obtain ⟨i, d, there, rfl⟩ := ih mem
      exact ⟨i + 1, d, there, by rw [Nat.add_assoc, Nat.add_comm 1]⟩

end Condition

namespace JobFilter

/-- The value of the field of a filter that a condition is about, if it is given. -/
def fieldValue (f : JobFilter) : Test → Option SqlValue
  | .isAnyOf .configType _ => some (.texts (f.configTypes.map ConfigType.name))
  | .isAnyOf .status _ => f.statuses.map fun statuses => .texts (statuses.map JobStatus.name)
  | .compare .scope .equal _ =>
    match f.scope with
    | .scope scope => some (.text scope)
    | _ => none
  | .isAnyOf .scope _ =>
    match f.scope with
    | .scopes scopes => some (.texts scopes)
    | _ => none
  | .inWorkspace _ =>
    match f.scope with
    | .workspaces ids => some (.uuids ids)
    | _ => none
  | .compare .createdAt .atLeast _ => f.createdAt.start.map .time
  | .compare .createdAt .atMost _ => f.createdAt.stop.map .time
  | .compare .updatedAt .atLeast _ => f.updatedAt.start.map .time
  | .compare .updatedAt .atMost _ => f.updatedAt.stop.map .time
  | _ => none

theorem fieldValue_test {f : JobFilter} {c : Condition} (mem : c ∈ f.conditions) (place : Nat) :
    f.fieldValue (c.test place) = some c.value := by
  obtain ⟨configTypes, scope, statuses, ⟨createdStart, createdStop⟩, ⟨updatedStart, updatedStop⟩⟩ := f
  simp only [conditions, TimeRange.conditions, List.mem_append, List.mem_cons, Option.mem_toList,
    Option.map_eq_some_iff] at mem
  rcases mem with (((rfl | owner) | ⟨ss, rfl, rfl⟩) | ⟨t, rfl, rfl⟩ | ⟨t, rfl, rfl⟩) | ⟨t, rfl, rfl⟩ |
    ⟨t, rfl, rfl⟩
  · rfl
  · cases scope with
    | unscoped => exact absurd owner List.not_mem_nil
    | scope | scopes | workspaces =>
      rw [List.mem_singleton.mp owner]
      rfl
  all_goals rfl

/-- The value in the place of a condition is that of its field. -/
theorem fieldValue_eq_paramAt {f : JobFilter} {test : Test} (mem : test ∈ f.tests)
    (others : List SqlValue) :
    f.fieldValue test = some (paramAt (f.values ++ others) test.place) := by
  obtain ⟨i, c, there, rfl⟩ := Condition.exists_of_mem_testsFrom mem
  have value : (f.values ++ others)[i]? = some c.value := by
    rw [List.getElem?_append_left, values, List.getElem?_map, there, Option.map_some]
    rw [values, List.length_map]
    exact (List.getElem?_eq_some_iff.mp there).1
  rw [fieldValue_test (List.mem_of_getElem? there), Condition.place_test, Nat.add_comm, paramAt, value,
    Option.getD_some]

/-- The places of the conditions are the first ones, one for each value. -/
theorem map_place_tests (f : JobFilter) : f.tests.map Test.place = List.range' 1 f.values.length := by
  rw [tests, Condition.map_place_testsFrom, values, List.length_map]

theorem length_tests (f : JobFilter) : f.tests.length = f.values.length := by
  rw [← List.length_map Test.place, map_place_tests, List.length_range']

end JobFilter

/-- The statement is a text around the conditions of a filter. Its places are numbered from one in the
order in which they stand there, as many as there are values, and the place of each condition has the value
of the field that the condition is about. What follows the conditions has its places after theirs. -/
structure Statement.Binds (s : Statement) (filter : JobFilter) (front back : String)
    (others : List SqlValue) : Prop where
  text : s.text = front ++ whereText filter.tests ++ back
  params : s.params = filter.values ++ others
  numbered : places s.text = (List.range' 1 s.params.length).map some
  fields : ∀ test ∈ filter.tests, places test.text = [some test.place] ∧
    filter.fieldValue test = some (paramAt s.params test.place)

theorem Statement.binds {s : Statement} {filter : JobFilter} {front back : String}
    {others : List SqlValue} (text : s.text = front ++ whereText filter.tests ++ back)
    (params : s.params = filter.values ++ others) (plain : places front = []) (apart : detached back)
    (numbered : places back = (List.range' (filter.values.length + 1) others.length).map some) :
    s.Binds filter front back others := by
  refine ⟨text, params, ?_, fun test mem => ⟨test.places_text, ?_⟩⟩
  · calc places s.text
        = (filter.tests.map Test.place).map some ++
            (List.range' (filter.values.length + 1) others.length).map some := by
          rw [text, places_append _ apart, places_append _ (detached_whereText _), plain,
            places_whereText, numbered, List.nil_append, List.map_map]
          rfl
      _ = (List.range' 1 s.params.length).map some := by
          rw [filter.map_place_tests, ← List.map_append, Nat.add_comm _ 1, List.range'_append_1, params,
            List.length_append]
  · rw [params]
    exact filter.fieldValue_eq_paramAt mem others

/-! ## Shapes -/

/-- Selectors of the same kind, whatever scopes or workspaces they name. -/
inductive ScopeSelector.SameKind : ScopeSelector → ScopeSelector → Prop where
  | unscoped : SameKind .unscoped .unscoped
  | scope (s t : String) : SameKind (.scope s) (.scope t)
  | scopes (ss ts : List String) : SameKind (.scopes ss) (.scopes ts)
  | workspaces (ids ids' : List Uuid) : SameKind (.workspaces ids) (.workspaces ids')

/-- Filters that give the same fields, whatever their values. -/
structure JobFilter.SameShape (f g : JobFilter) : Prop where
  scope : f.scope.SameKind g.scope
  statuses : f.statuses.isSome = g.statuses.isSome
  createdStart : f.createdAt.start.isSome = g.createdAt.start.isSome
  createdStop : f.createdAt.stop.isSome = g.createdAt.stop.isSome
  updatedStart : f.updatedAt.start.isSome = g.updatedAt.start.isSome
  updatedStop : f.updatedAt.stop.isSome = g.updatedAt.stop.isSome

namespace Condition

/-- The condition without its value, for any place. -/
def form (c : Condition) : Nat → Test := fun place => c.test place

theorem testsFrom_congr {cs ds : List Condition} (same : cs.map form = ds.map form) (place : Nat) :
    testsFrom place cs = testsFrom place ds := by
  induction cs generalizing ds place with
  | nil => rw [List.map_eq_nil_iff.mp same.symm]
  | cons c cs ih =>
    cases ds with
    | nil => cases same
    | cons d ds =>
      obtain ⟨head, tail⟩ := List.cons.inj same
      rw [testsFrom, testsFrom, ih tail]
      exact congrArg (· :: _) (congrFun head place)

/-- An optional condition has its form whatever its value. -/
theorem map_form_toList {α : Type} {condition : α → Condition}
    (same : ∀ a b, (condition a).form = (condition b).form) {o o' : Option α}
    (given : o.isSome = o'.isSome) :
    (o.map condition).toList.map form = (o'.map condition).toList.map form := by
  cases o with
  | none =>
    cases o' with
    | none => rfl
    | some b => cases given
  | some a =>
    cases o' with
    | none => cases given
    | some b => exact congrArg (fun form => [form]) (same a b)

end Condition

theorem TimeRange.map_form_conditions {r r' : TimeRange} (field : OrderField)
    (start : r.start.isSome = r'.start.isSome) (stop : r.stop.isSome = r'.stop.isSome) :
    (r.conditions field).map Condition.form = (r'.conditions field).map Condition.form := by
  rw [conditions, conditions, List.map_append, List.map_append,
    Condition.map_form_toList (fun _ _ => rfl) start, Condition.map_form_toList (fun _ _ => rfl) stop]

theorem ScopeSelector.SameKind.map_form_conditions {s t : ScopeSelector} (same : s.SameKind t) :
    s.conditions.map Condition.form = t.conditions.map Condition.form := by
  cases same <;> rfl

/-- Filters of the same shape have the same conditions. -/
theorem JobFilter.SameShape.tests {f g : JobFilter} (same : f.SameShape g) : f.tests = g.tests := by
  have statuses : ((f.statuses.map fun ss => Condition.statusIn (ss.map JobStatus.name)).toList).map
      Condition.form = ((g.statuses.map fun ss => Condition.statusIn (ss.map JobStatus.name)).toList).map
      Condition.form := Condition.map_form_toList (fun _ _ => rfl) same.statuses
  refine Condition.testsFrom_congr ?_ 1
  simp only [JobFilter.conditions, List.map_append, List.map_cons, List.cons_append]
  rw [same.scope.map_form_conditions, statuses,
    TimeRange.map_form_conditions .createdAt same.createdStart same.createdStop,
    TimeRange.map_form_conditions .updatedAt same.updatedStart same.updatedStop]
  rfl

theorem JobFilter.SameShape.length_values {f g : JobFilter} (same : f.SameShape g) :
    f.values.length = g.values.length := by
  rw [← f.length_tests, ← g.length_tests, same.tests]

/-! ## Statements about jobs -/

namespace Postgres

/-- What a section adds to a statement has the two places that are given. -/
theorem places_windowText (window : Option Window) (place : Nat) :
    places (Query.windowText (window.map fun _ => (place, place + 1))) =
      (List.range' place (windowValues window).length).map some := by
  cases window with
  | none => rfl
  | some window =>
    have limit : places " LIMIT " = [] := places_ofList (by decide)
    have offset : places " OFFSET " = [] := places_ofList (by decide)
    show places (" LIMIT " ++ Fragment.placeholder place ++ " OFFSET " ++
      Fragment.placeholder (place + 1)) = _
    rw [places_append _ (detached_placeholder _), places_append _ (detached_ofList _ (by decide)),
      places_append _ (detached_placeholder _), limit, offset, places_placeholder, places_placeholder]
    rfl

theorem detached_windowText (window : Option Window) (place : Nat) :
    detached (Query.windowText (window.map fun _ => (place, place + 1))) := by
  cases window with
  | none => rfl
  | some window =>
    exact detached_append (detached_append (detached_append (detached_ofList _ (by decide))
      (detached_placeholder place)) (detached_ofList _ (by decide))) (detached_placeholder (place + 1))

theorem places_clause (order : JobOrder) : places order.clause = [] := by
  obtain ⟨field, direction⟩ := order
  cases field <;> cases direction <;> decide

theorem detached_clause (order : JobOrder) : detached order.clause := by
  obtain ⟨field, direction⟩ := order
  cases field <;> cases direction <;> decide

/-- The selected columns have no place. The text is taken apart down to its literals, whose characters are
then at hand. -/
theorem places_columns : places ("SELECT " ++ jobColumns.text ++ " FROM jobs WHERE ") = [] ∧
    places ("SELECT " ++ countColumns.text ++ " FROM jobs WHERE ") = [] ∧
    places ("SELECT " ++ positionColumns.text ++ " FROM (SELECT jobs.id, ROW_NUMBER() OVER " ++
      "(ORDER BY ") = [] := by
  simp only [places, Columns.text, jobColumns, countColumns, positionColumns, List.map, Text.joinWith,
    String.toList_append]
  repeat rw [String.toList_ofList]
  decide

theorem binds_listStatement (filter : JobFilter) (order : JobOrder) (window : Option Window) :
    (listStatement filter order window).Binds filter ("SELECT " ++ jobColumns.text ++ " FROM jobs WHERE ")
      (" ORDER BY " ++ order.clause ++
        Query.windowText (window.map fun _ => (filter.values.length + 1, filter.values.length + 2)))
      (windowValues window) := by
  have ordered : places " ORDER BY " = [] := places_ofList (by decide)
  have apart := detached_windowText window (filter.values.length + 1)
  have detached : detached (" ORDER BY " ++ order.clause) :=
    detached_append (detached_ofList _ (by decide)) (detached_clause order)
  refine Statement.binds ?_ (congrArg Statement.params (listStatement_eq filter order window))
    places_columns.1 (detached_append detached apart) ?_
  · rw [listStatement_eq, listQuery, Query.text_list, JobOrder.orderText_keys, ← String.append_assoc,
      ← String.append_assoc]
  · rw [places_append _ apart, places_append _ (detached_clause order), ordered, places_clause,
      places_windowText]
    rfl

theorem binds_countStatement (filter : JobFilter) :
    (countStatement filter).Binds filter ("SELECT " ++ countColumns.text ++ " FROM jobs WHERE ") "" [] := by
  refine Statement.binds ?_ ?_ places_columns.2.1 rfl rfl
  · rw [countStatement_eq, countQuery, Query.text_count, String.append_empty]
  · rw [countStatement_eq, List.append_nil]

theorem binds_positionStatement (filter : JobFilter) (order : JobOrder) (id : JobId) :
    (positionStatement filter order id).Binds filter
      ("SELECT " ++ positionColumns.text ++ " FROM (SELECT jobs.id, ROW_NUMBER() OVER " ++ "(ORDER BY " ++
        order.clause ++ ") AS position FROM jobs WHERE ")
      (") ranked WHERE ranked.id = " ++ Fragment.placeholder (filter.values.length + 1)) [.int id] := by
  have inner : places ") AS position FROM jobs WHERE " = [] := places_ofList (by decide)
  have outer : places ") ranked WHERE ranked.id = " = [] := places_ofList (by decide)
  refine Statement.binds ?_ (congrArg Statement.params (positionStatement_eq filter order id)) ?_
    (detached_append (detached_ofList _ (by decide)) (detached_placeholder _)) ?_
  · rw [positionStatement_eq, positionQuery, Query.text_position, JobOrder.orderText_keys,
      ← String.append_assoc]
  · rw [places_append _ (detached_ofList _ (by decide)), places_append _ (detached_clause order),
      places_columns.2.2, places_clause, inner]
    rfl
  · rw [places_append _ (detached_placeholder _), outer, places_placeholder]
    rfl

/-! Values leave no trace in the text of a statement. -/

section

variable {filter filter' : JobFilter} (same : filter.SameShape filter') (order : JobOrder)

include same

theorem text_listStatement_congr {window window' : Option Window}
    (given : window.isSome = window'.isSome) :
    (listStatement filter' order window').text = (listStatement filter order window).text := by
  have sections (place : Nat) : (window'.map fun _ => (place, place + 1)) =
      window.map fun _ => (place, place + 1) := by
    cases window <;> cases window' <;> first | rfl | cases given
  rw [listStatement_eq, listStatement_eq, listQuery, listQuery, same.tests, same.length_values, sections]

theorem text_countStatement_congr : (countStatement filter').text = (countStatement filter).text := by
  rw [countStatement_eq, countStatement_eq, countQuery, countQuery, same.tests]

theorem text_positionStatement_congr (id id' : JobId) :
    (positionStatement filter' order id').text = (positionStatement filter order id).text := by
  rw [positionStatement_eq, positionStatement_eq, positionQuery, positionQuery, same.tests,
    same.length_values]

end

end Postgres

/-- **Statements about jobs bind every place and carry no value in their text.** The questions for a
listing, a number of jobs and a place each begin with a statement that is a text around the same
conditions, with the same values in front. Its places are numbered from one to the number of its values, and
the place of a condition has the value of the field that the condition is about. A section takes the next
two places for its limit and its offset, and the number of a job takes the next one. For filters of the same
shape the texts are the same, whatever their values. -/
theorem job_statements_bound (filter : JobFilter) (order : JobOrder) (window : Option Window)
    (id : JobId) :
    let list := Postgres.listStatement filter order window
    let count := Postgres.countStatement filter
    let position := Postgres.positionStatement filter order id
    let next := filter.values.length + 1
    ((∀ reply, ((Postgres.answer (.list filter order window)).run.asked reply).head? = some list) ∧
      (∀ reply, ((Postgres.answer (.count filter)).run.asked reply).head? = some count) ∧
      ∀ reply, ((Postgres.answer (.position filter order id)).run.asked reply).head? = some position) ∧
    filter.tests.map Test.place = List.range' 1 filter.values.length ∧
    list.Binds filter ("SELECT " ++ Postgres.jobColumns.text ++ " FROM jobs WHERE ")
      (" ORDER BY " ++ order.clause ++ Query.windowText (window.map fun _ => (next, next + 1)))
      (Postgres.windowValues window) ∧
    count.Binds filter ("SELECT " ++ Postgres.countColumns.text ++ " FROM jobs WHERE ") "" [] ∧
    position.Binds filter ("SELECT " ++ Postgres.positionColumns.text ++
        " FROM (SELECT jobs.id, ROW_NUMBER() OVER " ++ "(ORDER BY " ++ order.clause ++
        ") AS position FROM jobs WHERE ")
      (") ranked WHERE ranked.id = " ++ Fragment.placeholder next) [.int id] ∧
    (∀ w ∈ window, paramAt list.params next = .int w.limit.toNat ∧
      paramAt list.params (next + 1) = .int w.offset.toNat) ∧
    (position.params.length = next ∧ paramAt position.params next = .int id) ∧
    ∀ (filter' : JobFilter) (window' : Option Window) (id' : JobId), filter.SameShape filter' →
      window.isSome = window'.isSome →
      (Postgres.listStatement filter' order window').text = list.text ∧
      (Postgres.countStatement filter').text = count.text ∧
      (Postgres.positionStatement filter' order id').text = position.text := by
  have listed := Postgres.binds_listStatement filter order window
  have placed := Postgres.binds_positionStatement filter order id
  refine ⟨⟨fun _ => rfl, fun _ => rfl, fun _ => rfl⟩, filter.map_place_tests, listed,
    Postgres.binds_countStatement filter, placed, fun w given => ?_, ⟨?_, ?_⟩,
    fun filter' window' id' same given => ⟨?_, ?_, ?_⟩⟩
  · rw [listed.params, Option.mem_def.mp given]
    refine ⟨paramAt_of_length rfl, ?_⟩
    have behind : filter.values ++ Postgres.windowValues (some w) =
        (filter.values ++ [.int w.limit.toNat]) ++ [.int w.offset.toNat] := by
      rw [List.append_assoc]
      rfl
    rw [behind]
    exact paramAt_of_length (by rw [List.length_append]; rfl)
  · rw [placed.params, List.length_append]
    rfl
  · rw [placed.params]
    exact paramAt_of_length rfl
  · exact Postgres.text_listStatement_congr same order given
  · exact Postgres.text_countStatement_congr same
  · exact Postgres.text_positionStatement_congr same order id id'

/-- A section of a listing, once for a scope that reads like a part of a statement. -/
theorem job_statements_bound_eight :
    let filter (scope : String) (seconds : Int) : JobFilter := ⟨[.sync, .refresh], .scope scope,
      some [.running], ⟨some ⟨seconds, 0⟩, some ⟨seconds + 5, 0⟩⟩, ⟨none, some ⟨seconds + 9, 0⟩⟩⟩
    let list (scope : String) (seconds : Int) : Statement :=
      Postgres.listStatement (filter scope seconds) .newestFirst (some ⟨20, 40⟩)
    let params := (list "$9 OR TRUE" 1).params
    (filter "$9 OR TRUE" 1).SameShape (filter "abc" 0) ∧
    (list "abc" 0).text = (list "$9 OR TRUE" 1).text ∧
    places (list "$9 OR TRUE" 1).text = [1, 2, 3, 4, 5, 6, 7, 8].map some ∧
    (paramAt params 2 = .text "$9 OR TRUE" ∧ paramAt params 4 = .time ⟨1, 0⟩ ∧
      paramAt params 6 = .time ⟨10, 0⟩) ∧
    paramAt params 7 = .int 20 ∧ paramAt params 8 = .int 40 := by
  intro filter list params
  have same : (filter "$9 OR TRUE" 1).SameShape (filter "abc" 0) :=
    ⟨.scope _ _, rfl, rfl, rfl, rfl, rfl⟩
  obtain ⟨-, -, bound, -, -, window, -, congr⟩ :=
    job_statements_bound (filter "$9 OR TRUE" 1) .newestFirst (some ⟨20, 40⟩) 5
  have field (test : Test) {value : SqlValue} (mem : test ∈ (filter "$9 OR TRUE" 1).tests)
      (given : (filter "$9 OR TRUE" 1).fieldValue test = some value) : paramAt params test.place = value :=
    Option.some.inj ((bound.fields test mem).2.symm.trans given)
  refine ⟨same, (congr _ (some ⟨20, 40⟩) 5 same rfl).1, ?_, ⟨?_, ?_, ?_⟩, window _ rfl⟩
  · rw [bound.numbered, bound.params]
    rfl
  · exact field (.compare .scope .equal 2) (by decide) rfl
  · exact field (.compare .createdAt .atLeast 4) (by decide) rfl
  · exact field (.compare .updatedAt .atMost 6) (by decide) rfl

end SyncHistory
