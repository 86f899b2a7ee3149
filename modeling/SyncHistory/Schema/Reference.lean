import SyncHistory.Pattern
import SyncHistory.Percent
import SyncHistory.Schema.Dialect
import SyncHistory.Schema.Value

/-!
# References between schemas, and well-formed schemas

A schema contains schemas, and refers to others in the same document: by a number sign alone to the
whole document, by a number sign and a pointer to a part of it, and by a number sign and a name to the
schema that gives itself that name. `Schema.resolve?` follows a reference.

`Dialect.isWellFormed` says which documents are schemas of a dialect: each keyword is followed by what
may follow it, and every reference and every pattern that counts can be resolved and read.
-/

namespace SyncHistory.Schema

/-! ## References -/

/-- Undoes the escapes of a step in a pointer. -/
def unescapeStep : List Char → List Char
  | '~' :: '0' :: rest => '~' :: unescapeStep rest
  | '~' :: '1' :: rest => '/' :: unescapeStep rest
  | c :: rest => c :: unescapeStep rest
  | [] => []

/-- The part of a document one step away: a field, or the item at an index. -/
def child? (step : String) : Json → Option Json
  | .obj fields => fields.lookup step
  | .arr items =>
    match Digits.nat? 10 step.toList with
    | some i => items[i]?
    | none => none
  | _ => none

/-- The part of a document that a path leads to. -/
def descend? : (path : List String) → Json → Option Json
  | [], j => some j
  | step :: path, j =>
    match child? step j with
    | some part => descend? path part
    | none => none

/-- Does a schema give itself the name? -/
def isNamed (name : String) (fields : List (String × Json)) : Bool :=
  fields.lookup "$anchor" == some (.str name) || fields.lookup "$id" == some (.str ("#" ++ name)) ||
    fields.lookup "id" == some (.str ("#" ++ name))

mutual

/-- The schema in a document that gives itself a name. -/
def named? (name : String) : Json → Option Json
  | .obj fields => if isNamed name fields then some (.obj fields) else namedField? name fields
  | .arr items => namedItem? name items
  | _ => none

@[inherit_doc named?]
def namedItem? (name : String) : List Json → Option Json
  | [] => none
  | j :: rest => (named? name j).or (namedItem? name rest)

@[inherit_doc named?]
def namedField? (name : String) : List (String × Json) → Option Json
  | [] => none
  | (_, j) :: rest => (named? name j).or (namedField? name rest)

end

/-- What a reference in a document refers to, if that is in the document. -/
def resolve? (document : Json) (reference : String) : Option Json :=
  match reference.toList with
  | [] | ['#'] => some document
  | '#' :: '/' :: pointer =>
    match Percent.decode? pointer with
    | some pointer =>
      let steps := Text.splitAtAll (· == '/') pointer.toList
      descend? (steps.map fun step => String.ofList (unescapeStep step)) document
    | none => none
  | '#' :: name => named? (String.ofList name) document
  | _ => none

/-! ## The schemas in a schema -/

/-- The schemas that are written behind a keyword. -/
def Shape.schemasIn : Shape → Json → List Json
  | .schema, j => [j]
  | .schemaOrFlag, j => [j]
  | .schemas, .arr items => items
  | .schemaOrSchemas, .arr items => items
  | .schemaOrSchemas, j => [j]
  | .schemaPerName, .obj fields | .schemaPerPattern, .obj fields => fields.map (·.2)
  | .dependencies, .obj fields => (fields.map (·.2)).filter fun j => j.items?.isNone
  | _, _ => []

end Schema

namespace Dialect

/-- The keywords of a schema that say something about a document. Where a reference stands for the
whole schema, it is the only one. -/
def applied (d : Dialect) (fields : List (String × Json)) : List (String × Json) :=
  match fields.lookup "$ref" with
  | some reference => if d.refStandsAlone then [("$ref", reference)] else fields
  | none => fields

/-- The schemas whose application can become part of applying a schema, references apart. -/
def parts (d : Dialect) (fields : List (String × Json)) : List Json :=
  (d.applied fields).flatMap fun (keyword, argument) =>
    if keyword = "definitions" ∨ keyword = "$defs" then []
    else if (keyword = "then" ∨ keyword = "else") ∧ (fields.lookup "if").isNone then []
    else match d.shape? keyword with
      | some shape => shape.schemasIn argument
      | none => []

/-- The patterns in a schema. -/
def patterns (d : Dialect) (fields : List (String × Json)) : List String :=
  (d.applied fields).flatMap fun (keyword, argument) =>
    match keyword, argument with
    | "pattern", .str p => [p]
    | "patternProperties", .obj perPattern => perPattern.map (·.1)
    | _, _ => []

/-- Can all references and patterns be resolved and read that are met on the way through the schemas
still to be looked at? A reference is followed only the first time. -/
def resolves (d : Dialect) (document : Json) : (fuel : Nat) → (followed : List String) →
    (schemas : List Json) → Bool
  | 0, _, _ => true
  | _, _, [] => true
  | fuel + 1, followed, .obj fields :: rest =>
    (d.patterns fields).all (fun p => (Pattern.parse? p).isSome) &&
    match (d.applied fields).lookup "$ref" with
    | some (.str reference) =>
      if followed.contains reference then resolves d document fuel followed (d.parts fields ++ rest)
      else match Schema.resolve? document reference with
        | some target =>
          resolves d document fuel (reference :: followed) (target :: d.parts fields ++ rest)
        | none => false
    | _ => resolves d document fuel followed (d.parts fields ++ rest)
  | fuel + 1, followed, .bool _ :: rest => resolves d document fuel followed rest
  | _, _, _ => false

/-! ## Keywords and what follows them -/

/-- Is the document a whole number that is not negative? A fraction of zero is allowed for except in
the oldest dialect. -/
def isCount (d : Dialect) : Json → Bool
  | .num (.int n) => 0 ≤ n
  | .num (.double x) => since draft6 d && x.isWhole && (x.mantissa == 0 || !x.negative)
  | _ => false

end Dialect

namespace Schema

/-- Is the number greater than zero? -/
def isPositive : Json → Bool
  | .num (.int n) => 0 < n
  | .num (.double x) => !x.negative && x.mantissa != 0
  | _ => false

def isNumber : Json → Bool
  | .num _ => true
  | _ => false

/-- Are these different names? -/
def areNames (items : List Json) : Bool :=
  items.all (fun j => j.string?.isSome) && !Json.hasRepetition items

def isTypeName (j : Json) : Bool :=
  (j.string?.bind JsonType.ofName?).isSome

end Schema

namespace Dialect

mutual

/-- May this follow a keyword with the given shape? -/
def fits (d : Dialect) : Schema.Shape → Json → Bool
  | .schema, .obj fields | .schemaOrFlag, .obj fields | .schemaOrSchemas, .obj fields =>
    fieldsFit d fields
  | .schema, .bool _ | .schemaOrSchemas, .bool _ => since draft6 d
  | .schemaOrFlag, .bool _ => true
  | .schemas, .arr items => !items.isEmpty && itemsFit d items
  | .schemaOrSchemas, .arr items => !items.isEmpty && itemsFit d items
  | .schemaPerName, .obj fields | .schemaPerPattern, .obj fields => valuesFit d .schema fields
  | .dependencies, .obj fields => dependenciesFit d fields
  | .namesPerName, .obj fields => fields.all fun f => (f.2.items?.map Schema.areNames).getD false
  | .typeNames, .arr items =>
    !items.isEmpty && items.all Schema.isTypeName && !Json.hasRepetition items
  | .typeNames, j => Schema.isTypeName j
  | .names, .arr items => Schema.areNames items
  | .someNames, .arr items => !items.isEmpty && Schema.areNames items
  | .values, .arr _ => true
  | .someValues, .arr items => !items.isEmpty && !Json.hasRepetition items
  | .number, j => Schema.isNumber j
  | .positiveNumber, j => Schema.isPositive j
  | .count, j => d.isCount j
  | .text, .str _ => true
  | .flag, .bool _ => true
  | .anything, _ => true
  | _, _ => false

/-- Is every known keyword of a schema followed by what may follow it? -/
def fieldsFit (d : Dialect) : List (String × Json) → Bool
  | [] => true
  | (keyword, j) :: rest => fits d ((d.shape? keyword).getD .anything) j && fieldsFit d rest

/-- Are these schemas? -/
def itemsFit (d : Dialect) : List Json → Bool
  | [] => true
  | j :: rest => fits d .schema j && itemsFit d rest

/-- Is each of these of the shape? -/
def valuesFit (d : Dialect) (shape : Schema.Shape) : List (String × Json) → Bool
  | [] => true
  | (_, j) :: rest => fits d shape j && valuesFit d shape rest

/-- Is each of these a schema, or names that have to be there? -/
def dependenciesFit (d : Dialect) : List (String × Json) → Bool
  | [] => true
  | (_, .arr items) :: rest =>
    (since draft6 d || !items.isEmpty) && Schema.areNames items && dependenciesFit d rest
  | (_, j) :: rest => fits d .schema j && dependenciesFit d rest

end

/-- Is the document a schema that can be applied? No path through it is longer than the square of its
size, as each reference is followed once. -/
def isWellFormed (d : Dialect) (schema : Json) : Bool :=
  fits d .schema schema && d.resolves schema ((schema.size + 1) * (schema.size + 1)) [] [schema]

end Dialect

end SyncHistory
