import SyncHistory.Json.Basic
import SyncHistory.Text

/-!
# Dialects of JSON Schema

A schema is a document that says which documents are valid: an object of keywords, or a truth value. The
dialects of the schema language differ in the keywords they know and in what may be written behind a
keyword. Both are one table, `Dialect.shape?`: a keyword that a dialect does not know has no shape, and
then anything may follow it.
-/

namespace SyncHistory

/-- A version of the schema language, in order of their publication. -/
inductive Dialect where
  | draft4
  | draft6
  | draft7
  | draft2019
  | draft2020
deriving DecidableEq

namespace Dialect

/-- The place of a dialect in the order of publication. -/
def age : Dialect → Nat
  | draft4 => 4
  | draft6 => 6
  | draft7 => 7
  | draft2019 => 2019
  | draft2020 => 2020

/-- Is the dialect the given one or a later one? -/
def since (first d : Dialect) : Bool := first.age ≤ d.age

/-- The dialect that a schema names itself, the newest if it names none; `none` if nobody knows the
one that it names. A number sign at the end of the name makes no difference. -/
def ofSchema? (schema : Json) : Option Dialect :=
  match schema.get? "$schema" with
  | some (.str name) =>
    [("http://json-schema.org/draft-04/schema", draft4),
      ("http://json-schema.org/draft-06/schema", draft6),
      ("http://json-schema.org/draft-07/schema", draft7),
      ("https://json-schema.org/draft/2019-09/schema", draft2019),
      ("https://json-schema.org/draft/2020-12/schema", draft2020)].lookup (Text.trimEndOf '#' name)
  | _ => some draft2020

end Dialect

/-- What may be written behind a keyword. -/
inductive Schema.Shape where
  | schema
  | schemaOrFlag
  /-- At least one schema. -/
  | schemas
  /-- One schema for all items, or one for each of the first items. -/
  | schemaOrSchemas
  /-- A schema for each of some names. -/
  | schemaPerName
  /-- A schema for each of some patterns. -/
  | schemaPerPattern
  /-- A schema, or names that have to be there, for each of some names. -/
  | dependencies
  /-- Names that have to be there, for each of some names. -/
  | namesPerName
  | typeNames
  /-- Different names. -/
  | names
  /-- Different names, at least one. -/
  | someNames
  | values
  /-- Different values, at least one. -/
  | someValues
  | number
  | positiveNumber
  /-- A whole number that is not negative. -/
  | count
  | text
  | flag
  | anything
deriving DecidableEq

namespace Dialect

open Schema.Shape in
/-- The keywords of every dialect. -/
def shared : List (String × Schema.Shape) :=
  [("$schema", text), ("additionalProperties", schemaOrFlag), ("allOf", schemas), ("anyOf", schemas),
    ("default", anything), ("definitions", schemaPerName), ("dependencies", dependencies),
    ("description", text), ("format", text), ("maxItems", count), ("maxLength", count),
    ("maxProperties", count), ("maximum", number), ("minItems", count), ("minLength", count),
    ("minProperties", count), ("minimum", number), ("multipleOf", positiveNumber), ("not", schema),
    ("oneOf", schemas), ("pattern", text), ("patternProperties", schemaPerPattern),
    ("properties", schemaPerName), ("title", text), ("type", typeNames), ("uniqueItems", flag)]

open Schema.Shape in
/-- The keywords that not every dialect knows or understands in the same way, with the condition on
the dialect. -/
def particular : List (String × Schema.Shape × (Dialect → Bool)) :=
  [("id", text, (· = draft4)), ("$id", text, since draft6), ("$ref", text, since draft6),
    ("required", someNames, (· = draft4)), ("required", names, since draft6),
    ("enum", someValues, (! since draft7 ·)), ("enum", values, since draft7),
    ("exclusiveMaximum", flag, (· = draft4)), ("exclusiveMaximum", number, since draft6),
    ("exclusiveMinimum", flag, (· = draft4)), ("exclusiveMinimum", number, since draft6),
    ("$ref", anything, (· = draft4)),
    ("items", schemaOrSchemas, (! since draft2020 ·)), ("items", schema, since draft2020),
    ("additionalItems", schemaOrFlag, (! since draft2020 ·)),
    ("prefixItems", schemas, since draft2020), ("const", anything, since draft6),
    ("contains", schema, since draft6), ("propertyNames", schema, since draft6),
    ("examples", values, since draft6), ("$comment", text, since draft7),
    ("readOnly", flag, since draft7), ("writeOnly", flag, since draft7),
    ("contentEncoding", text, since draft7), ("contentMediaType", text, since draft7),
    ("if", schema, since draft7), ("then", schema, since draft7), ("else", schema, since draft7),
    ("$defs", schemaPerName, since draft2019), ("$anchor", text, since draft2019),
    ("deprecated", flag, since draft2019), ("minContains", count, since draft2019),
    ("maxContains", count, since draft2019), ("dependentRequired", namesPerName, since draft2019),
    ("dependentSchemas", schemaPerName, since draft2019)]

/-- What may be written behind a keyword that the dialect knows. -/
def shape? (d : Dialect) (keyword : String) : Option Schema.Shape :=
  match shared.lookup keyword with
  | some shape => some shape
  | none =>
    (particular.find? fun entry => entry.1 == keyword && entry.2.2 d).map fun entry => entry.2.1

/-- Does a reference stand for the whole schema, so that its other keywords do not count? -/
def refStandsAlone (d : Dialect) : Bool := !since draft2019 d

end Dialect

end SyncHistory
