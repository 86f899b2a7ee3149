import SyncHistory.Text

/-!
# TOML values and tables

A TOML document is a table: values under names. While a document is read it matters how a table came
about, as a table may be opened only once. `TomlTable` keeps that: a table that so far only occurred on
the way to another one may still be opened by a header, and one that was made by a key with dots may
still be added to by such keys. Each rule about repeated definitions is one function here, on paths of
names: `TomlTable.openTable?`, `TomlTable.openElement?` and `TomlTable.define?`.
-/

namespace SyncHistory

/-- A value. Floating-point numbers, dates and times are kept as they are written. -/
inductive Toml where
  | string (s : String)
  | integer (n : Int)
  | float (text : String)
  | boolean (b : Bool)
  | time (text : String)
  | array (items : List Toml)
  | table (fields : List (String × Toml))

mutual

/-- A table while the document is being read. -/
structure TomlTable where
  /-- Has the table only occurred on the way to another one so far? -/
  isImplied : Bool
  /-- Was the table made by a key with dots? -/
  isDotted : Bool
  fields : List (String × TomlEntry)

/-- What is under a name while the document is being read. -/
inductive TomlEntry where
  | value (v : Toml)
  | table (t : TomlTable)
  /-- An array of tables, the latest first. -/
  | tables (latest : TomlTable) (earlier : List TomlTable)

end

namespace TomlTable

/-- The table that a header opens. -/
def opened : TomlTable := ⟨false, false, []⟩

def get? (t : TomlTable) (name : String) : Option TomlEntry :=
  t.fields.lookup name

/-- Replaces what is under a name. -/
def put (t : TomlTable) (name : String) (entry : TomlEntry) : TomlTable :=
  { t with fields := (t.fields.filter fun f => f.1 != name) ++ [(name, entry)] }

/-- Changes the table at the end of a path. Tables on the way are made as needed; of an array of tables
the latest one is meant. By a key with dots a table that was opened cannot be entered. -/
def update? (dotted : Bool) (change : TomlTable → Option TomlTable) :
    (path : List String) → TomlTable → Option TomlTable
  | [], t => change t
  | name :: path, t =>
    match t.get? name with
    | none => (update? dotted change path ⟨true, dotted, []⟩).map fun sub => t.put name (.table sub)
    | some (.table sub) =>
      if dotted && !sub.isImplied then none
      else (update? dotted change path sub).map fun sub => t.put name (.table sub)
    | some (.tables latest earlier) =>
      (update? dotted change path latest).map fun latest => t.put name (.tables latest earlier)
    | some (.value _) => none

/-- Opens a table by a header with its name; it must not have been opened before. -/
def openTable? (name : String) (t : TomlTable) : Option TomlTable :=
  match t.get? name with
  | none => some (t.put name (.table opened))
  | some (.table sub) =>
    if sub.isImplied && !sub.isDotted then some (t.put name (.table { sub with isImplied := false }))
    else none
  | some _ => none

/-- Opens another element of an array of tables. -/
def openElement? (name : String) (t : TomlTable) : Option TomlTable :=
  match t.get? name with
  | none => some (t.put name (.tables opened []))
  | some (.tables latest earlier) => some (t.put name (.tables opened (latest :: earlier)))
  | some _ => none

/-- Gives a value to a key, whose last name is given apart from the names before it. Names before the
last one must only have been made by keys with dots. -/
def define? (path : List String) (name : String) (v : Toml) : TomlTable → Option TomlTable :=
  update? true (fun t =>
    if t.isDotted == path.isEmpty then none
    else match t.get? name with
      | none => some (t.put name (.value v))
      | some _ => none) path

mutual

/-- The finished table. -/
def toToml : TomlTable → Toml
  | ⟨_, _, fields⟩ => .table (fieldsToToml fields)

@[inherit_doc toToml]
def entryToToml : TomlEntry → Toml
  | .value v => v
  | .table t => toToml t
  | .tables latest earlier => .array ((toToml latest :: tablesToToml earlier).reverse)

@[inherit_doc toToml]
def fieldsToToml : List (String × TomlEntry) → List (String × Toml)
  | [] => []
  | (name, entry) :: rest => (name, entryToToml entry) :: fieldsToToml rest

@[inherit_doc toToml]
def tablesToToml : List TomlTable → List Toml
  | [] => []
  | t :: rest => toToml t :: tablesToToml rest

end

end TomlTable

end SyncHistory
