import SyncHistory.Schema.Failure
import SyncHistory.Schema.Reference

/-!
# Checking a document against a schema

`Schema.failures` lists what is wrong with a document under a schema, in the order of the schema: keyword
by keyword in alphabetical order, and behind a keyword by name, by index or in the order of the list. A
keyword about values of one type says nothing about values of another.

A schema is applied to a value by applying each of its keywords, and a keyword may apply further schemas,
to the value or to parts of it. The functions for single keywords take this application as an argument;
only `Schema.apply` ties the knot.
-/

namespace SyncHistory.Schema

/-- The failures of a value (second) under a schema (first). -/
abbrev Application := Json → Json → List Failure

/-! ## Keywords about the value itself -/

/-- One failure of the value itself unless the condition holds. -/
def require (condition : Bool) (cause : Cause) : List Failure :=
  if condition then [] else [.here cause]

/-- The types that are written behind a keyword, in alphabetical order. -/
def typesIn (argument : Json) : List JsonType :=
  match argument with
  | .str name => (JsonType.ofName? name).toList
  | .arr items => JsonType.all.filter fun t => items.contains (.str t.name)
  | _ => []

/-- Failures under the keyword `type`. -/
def typeFailures (d : Dialect) (argument value : Json) : List Failure :=
  let expected := typesIn argument
  require (expected.any fun t => t.holds (Dialect.since .draft6 d) value) (.wrongType value expected)

def limitFailures (ok : Json.Number → Json.Number → Bool) (cause : Json → Json → Cause)
    (argument value : Json) : List Failure :=
  match value, argument with
  | .num n, .num limit => require (ok n limit) (cause value argument)
  | _, _ => []

/-- Failures under the keyword `minimum`; the oldest dialect can exclude the limit itself. -/
def minimumFailures (exclusive : Bool) (argument value : Json) : List Failure :=
  if exclusive then limitFailures (fun n limit => limit.lt n) .notAboveMinimum argument value
  else limitFailures (fun n limit => !n.lt limit) .belowMinimum argument value

/-- Failures under the keyword `maximum`; the oldest dialect can exclude the limit itself. -/
def maximumFailures (exclusive : Bool) (argument value : Json) : List Failure :=
  if exclusive then limitFailures (fun n limit => n.lt limit) .notBelowMaximum argument value
  else limitFailures (fun n limit => !limit.lt n) .aboveMaximum argument value

/-- Is the number a multiple of the unit? By a whole unit only whole numbers are divisible, and exactly
so. By another it is the binary64 quotient that has to be whole, up to a fraction of less than
`2 ^ -52`; a quotient below zero always counts as whole enough. -/
def isMultiple (n unit : Double) : Bool :=
  if unit.isWhole then
    let (a, b) := n.toRatio
    let (u, v) := unit.toRatio
    n.isWhole && u != 0 && (a / b) % (u / v) == 0
  else match n.div unit with
    | some quotient =>
      let (r, s) := quotient.fraction
      r * Nat.pow 2 52 < s
    | none => false

/-- Failures under the keyword `multipleOf`. -/
def multipleFailures (argument value : Json) : List Failure :=
  match value, argument with
  | .num n, .num unit => require (isMultiple n.toDouble unit.toDouble) (.notMultiple value unit.toDouble)
  | _, _ => []

/-- The count written behind a keyword. -/
def countIn (argument : Json) : Nat :=
  match argument with
  | .num (.int n) => n.toNat
  | .num (.double x) => let (a, b) := x.toRatio; a / b
  | _ => 0

/-- Failures of the size of a value, where it has one. -/
def sizeFailures (size? : Json → Option Nat) (ok : Nat → Nat → Bool) (cause : Json → Nat → Cause)
    (argument value : Json) : List Failure :=
  match size? value with
  | some size => require (ok size (countIn argument)) (cause value (countIn argument))
  | none => []

/-- The number of characters of a string. -/
def length? : Json → Option Nat
  | .str s => some s.length
  | _ => none

/-- The number of items of an array. -/
def itemCount? : Json → Option Nat
  | .arr items => some items.length
  | _ => none

/-- The number of fields of an object. -/
def fieldCount? : Json → Option Nat
  | .obj fields => some fields.length
  | _ => none

/-- Does the pattern occur in the text? -/
def patternOccurs (pattern text : String) : Bool :=
  match Pattern.parse? pattern with
  | some p => p.occursIn text
  | none => false

/-- Failures under the keyword `pattern`. -/
def patternFailures (argument value : Json) : List Failure :=
  match argument, value with
  | .str pattern, .str s => require (patternOccurs pattern s) (.noMatch value pattern)
  | _, _ => []

/-- Failures under the keyword `enum`. -/
def enumFailures (argument value : Json) : List Failure :=
  let options := argument.items?.getD []
  require (options.any fun option => option.same value) (.notListed value options)

/-- Failures under the keyword `uniqueItems`. -/
def uniqueFailures (argument value : Json) : List Failure :=
  match argument, value with
  | .bool true, .arr items => require (!Json.hasRepetition items) (.repeatedItems value)
  | _, _ => []

/-- Failures of an object that lacks fields, in the order of the list. -/
def requiredFailures (argument value : Json) : List Failure :=
  match value with
  | .obj fields =>
    (argument.items?.getD []).flatMap fun name =>
      require (fields.any fun f => .str f.1 == name) (.missing (name.string?.getD ""))
  | _ => []

/-! ## Keywords that apply schemas to items -/

/-- Failures of items, counted from an index, under one schema. -/
def eachItem (apply : Application) (schema : Json) : (index : Nat) → List Json → List Failure
  | _, [] => []
  | index, j :: rest =>
    (apply schema j).map (.under (Digits.natText index)) ++ eachItem apply schema (index + 1) rest

/-- Failures of the first items under a schema each. -/
def pairedItems (apply : Application) : (index : Nat) → (schemas items : List Json) → List Failure
  | index, schema :: schemas, j :: rest =>
    (apply schema j).map (.under (Digits.natText index)) ++ pairedItems apply (index + 1) schemas rest
  | _, _, _ => []

/-- Failures under the keyword `items`: of all items, or of those that have no schema of their own. -/
def itemsFailures (d : Dialect) (apply : Application) (fields : List (String × Json))
    (argument value : Json) : List Failure :=
  match value with
  | .arr items =>
    if Dialect.since .draft2020 d then
      let own := (((fields.lookup "prefixItems").bind Json.items?).getD []).length
      eachItem apply argument own (items.drop own)
    else match argument with
      | .arr schemas => pairedItems apply 0 schemas items
      | .bool false => require items.isEmpty (.neverValid value)
      | schema => eachItem apply schema 0 items
  | _ => []

/-- Failures under the keyword `additionalItems`, which is about items behind those that have a schema
of their own. -/
def additionalItemsFailures (apply : Application) (fields : List (String × Json))
    (argument value : Json) : List Failure :=
  match fields.lookup "items", value with
  | some (.arr schemas), .arr items =>
    match argument with
    | .bool false =>
      require (items.length ≤ schemas.length) (.unexpectedItems (items.drop schemas.length))
    | schema => eachItem apply schema schemas.length (items.drop schemas.length)
  | _, _ => []

/-- Failures under the keyword `contains`: the number of items that are valid must lie within bounds,
of which newer dialects let a schema choose both. -/
def containsFailures (d : Dialect) (apply : Application) (fields : List (String × Json))
    (argument value : Json) : List Failure :=
  match value with
  | .arr items =>
    let valid := (items.filter fun j => (apply argument j).isEmpty).length
    let bounded := Dialect.since .draft2019 d
    let least := if bounded then ((fields.lookup "minContains").map countIn).getD 1 else 1
    let most := if bounded then (fields.lookup "maxContains").map countIn else none
    require (least ≤ valid && most.all (valid ≤ ·)) (.noItemFits value)
  | _ => []

/-! ## Keywords that apply schemas to fields -/

def fieldFailures (apply : Application) (name : String) (schema value : Json) : List Failure :=
  (apply schema value).map (.under name)

/-- Failures of a field under the schemas of the patterns that occur in its name, if there are any. -/
def patternedField? (apply : Application) (perPattern : List (String × Json)) (name : String)
    (value : Json) : Option (List Failure) :=
  let matching := perPattern.filter fun p => patternOccurs p.1 name
  if matching.isEmpty then none
  else some (matching.flatMap fun p => fieldFailures apply name p.2 value)

/-- The fields of the object behind a keyword. -/
def fieldsOf (fields : List (String × Json)) (keyword : String) : List (String × Json) :=
  match fields.lookup keyword with
  | some (.obj inner) => inner
  | _ => []

/-- Does the keyword `additionalProperties` say something about the fields without a schema of their
own? Then it also stands in for `properties` and `patternProperties`. -/
def limitsProperties (fields : List (String × Json)) : Bool :=
  match fields.lookup "additionalProperties" with
  | some (.bool false) | some (.obj _) => true
  | _ => false

/-- Failures under the keyword `properties`. -/
def propertiesFailures (apply : Application) (fields : List (String × Json)) (argument value : Json) :
    List Failure :=
  match argument, value with
  | .obj perName, .obj members =>
    if limitsProperties fields then []
    else perName.flatMap fun (name, schema) =>
      match members.lookup name with
      | some member => fieldFailures apply name schema member
      | none => []
  | _, _ => []

/-- Failures under the keyword `patternProperties`. -/
def patternPropertiesFailures (apply : Application) (fields : List (String × Json))
    (argument value : Json) : List Failure :=
  match argument, value with
  | .obj perPattern, .obj members =>
    if limitsProperties fields then []
    else perPattern.flatMap fun (pattern, schema) =>
      (members.filter fun f => patternOccurs pattern f.1).flatMap fun (name, member) =>
        fieldFailures apply name schema member
  | _, _ => []

/-- Failures of a field under the schemas for its name and for its name's patterns; `none` if there is
no such schema. -/
def ownFailures? (apply : Application) (fields : List (String × Json)) (name : String)
    (member : Json) : Option (List Failure) :=
  let named := (fieldsOf fields "properties").lookup name
  let patterned := patternedField? apply (fieldsOf fields "patternProperties") name member
  match named with
  | some schema => some (fieldFailures apply name schema member ++ patterned.getD [])
  | none => patterned

/-- Failures under the keyword `additionalProperties`, field by field; the fields that should not be
there come last, as one failure. Where no field may be there at all, the first one is at fault. -/
def additionalPropertiesFailures (apply : Application) (fields : List (String × Json))
    (argument value : Json) : List Failure :=
  match argument, value with
  | .bool false, .obj members =>
    if (fields.lookup "properties").isNone ∧ (fields.lookup "patternProperties").isNone then
      match members with
      | [] => []
      | (_, first) :: _ => [.here (.neverValid first)]
    else
      let own := members.map fun (name, member) => (name, ownFailures? apply fields name member)
      let unexpected := (own.filter fun o => o.2.isNone).map (·.1)
      own.flatMap (fun o => o.2.getD []) ++
        require unexpected.isEmpty (.unexpectedProperties unexpected)
  | .obj schema, .obj members =>
    members.flatMap fun (name, member) =>
      (ownFailures? apply fields name member).getD (fieldFailures apply name (.obj schema) member)
  | _, _ => []

/-- Failures under the keyword `propertyNames`: each name is a value, and its failures are failures of
the object. -/
def propertyNamesFailures (apply : Application) (argument value : Json) : List Failure :=
  match argument, value with
  | .bool false, .obj members => require members.isEmpty (.neverValid value)
  | schema, .obj members =>
    members.flatMap fun (name, _) => (apply schema (.str name)).map fun f => .here f.cause
  | _, _ => []

/-- Failures of an object that has a field on which more depends: other fields, or a schema. -/
def dependencyFailures (apply : Application) (argument value : Json) : List Failure :=
  match argument, value with
  | .obj perName, .obj members =>
    perName.flatMap fun (name, dependency) =>
      if (members.lookup name).isNone then []
      else match dependency with
        | .arr names => requiredFailures (.arr names) value
        | schema => apply schema value
  | _, _ => []

/-! ## Keywords that combine schemas -/

/-- The schemas behind a keyword under which the value is valid. -/
def validUnder (apply : Application) (argument value : Json) : List Json :=
  (argument.items?.getD []).filter fun schema => (apply schema value).isEmpty

/-- Failures under the keyword `anyOf`. -/
def anyOfFailures (apply : Application) (argument value : Json) : List Failure :=
  require (!(validUnder apply argument value).isEmpty) (.fitsNone value "anyOf")

/-- Failures under the keyword `oneOf`. -/
def oneOfFailures (apply : Application) (argument value : Json) : List Failure :=
  match validUnder apply argument value with
  | [] => [.here (.fitsNone value "oneOf")]
  | [_] => []
  | _ => [.here (.fitsSeveral value)]

/-- Failures under the keyword `if`: those under `then` for a value that is valid, else those under
`else`. -/
def ifFailures (apply : Application) (fields : List (String × Json)) (argument value : Json) :
    List Failure :=
  let branch := if (apply argument value).isEmpty then "then" else "else"
  match fields.lookup branch with
  | some schema => apply schema value
  | none => []

/-- Failures under the keyword `$ref`. -/
def refFailures (document : Json) (apply : Application) (argument value : Json) : List Failure :=
  match argument with
  | .str reference =>
    match resolve? document reference with
    | some schema => apply schema value
    | none => []
  | _ => []

/-! ## Whole schemas -/

/-- Failures of a value under one keyword of a schema with the given fields. -/
def keywordFailures (d : Dialect) (document : Json) (apply : Application)
    (fields : List (String × Json)) (keyword : String) (argument value : Json) : List Failure :=
  let excludes (keyword : String) : Bool := d == .draft4 && fields.lookup keyword == some (.bool true)
  match keyword with
  | "$ref" => refFailures document apply argument value
  | "additionalItems" => additionalItemsFailures apply fields argument value
  | "additionalProperties" => additionalPropertiesFailures apply fields argument value
  | "allOf" => (argument.items?.getD []).flatMap fun schema => apply schema value
  | "anyOf" => anyOfFailures apply argument value
  | "const" => require (argument.same value) (.notConstant argument)
  | "contains" => containsFailures d apply fields argument value
  | "dependencies" | "dependentRequired" | "dependentSchemas" =>
    dependencyFailures apply argument value
  | "enum" => enumFailures argument value
  | "exclusiveMaximum" => maximumFailures true argument value
  | "exclusiveMinimum" => minimumFailures true argument value
  | "if" => ifFailures apply fields argument value
  | "items" => itemsFailures d apply fields argument value
  | "maxItems" => sizeFailures itemCount? (· ≤ ·) .tooManyItems argument value
  | "maxLength" => sizeFailures length? (· ≤ ·) .tooLong argument value
  | "maxProperties" => sizeFailures fieldCount? (· ≤ ·) .tooManyProperties argument value
  | "maximum" => maximumFailures (excludes "exclusiveMaximum") argument value
  | "minItems" => sizeFailures itemCount? (· ≥ ·) .tooFewItems argument value
  | "minLength" => sizeFailures length? (· ≥ ·) .tooShort argument value
  | "minProperties" => sizeFailures fieldCount? (· ≥ ·) .tooFewProperties argument value
  | "minimum" => minimumFailures (excludes "exclusiveMinimum") argument value
  | "multipleOf" => multipleFailures argument value
  | "not" => require (!(apply argument value).isEmpty) (.forbidden value argument)
  | "oneOf" => oneOfFailures apply argument value
  | "pattern" => patternFailures argument value
  | "patternProperties" => patternPropertiesFailures apply fields argument value
  | "prefixItems" => pairedItems apply 0 (argument.items?.getD []) (value.items?.getD [])
  | "properties" => propertiesFailures apply fields argument value
  | "propertyNames" => propertyNamesFailures apply argument value
  | "required" => requiredFailures argument value
  | "type" => typeFailures d argument value
  | "uniqueItems" => uniqueFailures argument value
  | _ => []

/-- Failures of a value under a schema, as far as the chain of schemas applied on the way to a failure
is no longer than the fuel. -/
def apply (d : Dialect) (document : Json) : (fuel : Nat) → Application
  | 0, _, _ => []
  | _, .bool true, _ => []
  | _, .bool false, value => [.here (.neverValid value)]
  | fuel + 1, .obj fields, value =>
    (d.applied fields).flatMap fun (keyword, argument) =>
      if (d.shape? keyword).isNone then []
      else keywordFailures d document (apply d document fuel) fields keyword argument value
  | _, _, _ => []

/-- The failures of a document under a schema, both in canonical form. A chain of schemas that is longer
than the product of both sizes applies some schema to some value twice, and so would never end. -/
def failures (d : Dialect) (schema document : Json) : List Failure :=
  apply d schema ((schema.size + 1) * (document.size + 1)) schema document

end SyncHistory.Schema
