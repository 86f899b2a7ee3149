import SyncHistory.Json.Basic

/-!
# Records in documents

How a record with known fields is read from a document. An object gives the fields by name: fields
that are not known are ignored, and a known field must not be repeated. An array gives them by place,
in the order of the declaration: it must not have more items than there are fields. What a missing
field means is up to the field: `Record.required?`, `Record.optional?` and `Record.withDefault?`.
-/

namespace SyncHistory.Json

/-- The known fields of a record as far as the document gives them. -/
structure Record where
  /-- Are the fields given by place? -/
  byPlace : Bool
  fields : List (String × Json)

namespace Record

/-- Is no known field repeated? -/
def isUnambiguous (names : List String) (fields : List (String × Json)) : Bool :=
  names.all fun name => (fields.filter fun f => f.1 == name).length ≤ 1

/-- The record with the given fields, in the order of their declaration. -/
def ofJson? (names : List String) : Json → Option Record
  | .obj fields => if isUnambiguous names fields then some ⟨false, fields⟩ else none
  | .arr items => if items.length ≤ names.length then some ⟨true, names.zip items⟩ else none
  | _ => none

/-- A record whose fields can only be given by name. -/
def named? (names : List String) : Json → Option Record
  | .obj fields => ofJson? names (.obj fields)
  | _ => none

/-- A field that must be there. -/
def required? (r : Record) (name : String) (read : Json → Option α) : Option α :=
  match r.fields.lookup name with
  | some j => read j
  | none => none

/-- A field that may be `null`, and may be missing unless the fields are given by place. -/
def optional? (r : Record) (name : String) (read : Json → Option α) : Option (Option α) :=
  match r.fields.lookup name with
  | some j => j.nullable? read
  | none => if r.byPlace then none else some none

/-- A field that may be missing and then has a default. -/
def withDefault? (r : Record) (name : String) (default : α) (read : Json → Option α) : Option α :=
  match r.fields.lookup name with
  | some j => read j
  | none => some default

end Record

/-- A value out of a finite list with a name each: the name as a string, or as the only field of an
object, with `null` beside it. -/
def oneOf? (values : List α) (name : α → String) : Json → Option α
  | .str s => values.find? fun a => name a == s
  | .obj [(s, .null)] => values.find? fun a => name a == s
  | _ => none

end SyncHistory.Json
