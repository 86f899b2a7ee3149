import SyncHistory.Json.Writer
import SyncHistory.Schema.Value

/-!
# Failures of a document under a schema

What is wrong with a document, and where: a failure has a cause, which holds the value at fault, and the
path from the whole document to that value. `Cause.message` is the wording of a cause, `Failure.pointer` that
of a path.
-/

namespace SyncHistory

namespace Schema

/-- What a value breaks. -/
inductive Cause where
  | wrongType (value : Json) (expected : List JsonType)
  | missing (name : String)
  | notListed (value : Json) (options : List Json)
  | notConstant (expected : Json)
  | belowMinimum (value limit : Json)
  | aboveMaximum (value limit : Json)
  | notAboveMinimum (value limit : Json)
  | notBelowMaximum (value limit : Json)
  | notMultiple (value : Json) (unit : Double)
  | tooShort (value : Json) (limit : Nat)
  | tooLong (value : Json) (limit : Nat)
  | noMatch (value : Json) (pattern : String)
  | tooFewItems (value : Json) (limit : Nat)
  | tooManyItems (value : Json) (limit : Nat)
  | repeatedItems (value : Json)
  | unexpectedItems (items : List Json)
  | noItemFits (value : Json)
  | tooFewProperties (value : Json) (limit : Nat)
  | tooManyProperties (value : Json) (limit : Nat)
  | unexpectedProperties (names : List String)
  | fitsNone (value : Json) (keyword : String)
  | fitsSeveral (value : Json)
  | forbidden (value : Json) (schema : Json)
  | neverValid (value : Json)
deriving DecidableEq

namespace Cause

def counted (n : Nat) (one many : String) : String :=
  Digits.natText n ++ " " ++ if n = 1 then one else many

/-- What has not been expected, with the verb that goes with the number. -/
def unexpected (what : List String) : String :=
  "(" ++ Text.joinWith ", " what ++ (if what.length = 1 then " was" else " were") ++ " unexpected)"

def message : Cause → String
  | wrongType value [t] => value.compact ++ " is not of type \"" ++ t.name ++ "\""
  | wrongType value ts =>
    value.compact ++ " is not of types " ++
      Text.joinWith ", " (ts.map fun t => "\"" ++ t.name ++ "\"")
  | missing name => Json.quote name ++ " is a required property"
  | notListed value options => value.compact ++ " is not one of " ++ (Json.arr options).compact
  | notConstant expected => expected.compact ++ " was expected"
  | belowMinimum value limit => value.compact ++ " is less than the minimum of " ++ limit.compact
  | aboveMaximum value limit => value.compact ++ " is greater than the maximum of " ++ limit.compact
  | notAboveMinimum value limit =>
    value.compact ++ " is less than or equal to the minimum of " ++ limit.compact
  | notBelowMaximum value limit =>
    value.compact ++ " is greater than or equal to the maximum of " ++ limit.compact
  | notMultiple value unit => value.compact ++ " is not a multiple of " ++ unit.plainText
  | tooShort value limit =>
    value.compact ++ " is shorter than " ++ counted limit "character" "characters"
  | tooLong value limit =>
    value.compact ++ " is longer than " ++ counted limit "character" "characters"
  | noMatch value pattern => value.compact ++ " does not match \"" ++ pattern ++ "\""
  | tooFewItems value limit => value.compact ++ " has less than " ++ counted limit "item" "items"
  | tooManyItems value limit => value.compact ++ " has more than " ++ counted limit "item" "items"
  | repeatedItems value => value.compact ++ " has non-unique elements"
  | unexpectedItems items =>
    "Additional items are not allowed " ++ unexpected (items.map Json.compact)
  | noItemFits value => "None of " ++ value.compact ++ " are valid under the given schema"
  | tooFewProperties value limit =>
    value.compact ++ " has less than " ++ counted limit "property" "properties"
  | tooManyProperties value limit =>
    value.compact ++ " has more than " ++ counted limit "property" "properties"
  | unexpectedProperties names =>
    "Additional properties are not allowed " ++ unexpected (names.map fun n => "'" ++ n ++ "'")
  | fitsNone value keyword =>
    value.compact ++ " is not valid under any of the schemas listed in the '" ++ keyword ++ "' keyword"
  | fitsSeveral value =>
    value.compact ++ " is valid under more than one of the schemas listed in the 'oneOf' keyword"
  | forbidden value schema => schema.compact ++ " is not allowed for " ++ value.compact
  | neverValid value => "False schema does not allow " ++ value.compact

end Cause

/-- What is wrong, and the names and indices on the way to it. -/
structure Failure where
  path : List String
  cause : Cause
deriving DecidableEq

namespace Failure

/-- A failure of the value itself. -/
def here (cause : Cause) : Failure := ⟨[], cause⟩

/-- The failure of a value seen from the value that contains it. -/
def under (step : String) (f : Failure) : Failure := ⟨step :: f.path, f.cause⟩

/-- A character of a step in a pointer. -/
def escapeChar : Char → List Char
  | '~' => ['~', '0']
  | '/' => ['~', '1']
  | c => [c]

/-- The path as a pointer: a slash in front of each step. -/
def pointer (f : Failure) : String :=
  String.ofList (f.path.flatMap fun step => '/' :: step.toList.flatMap escapeChar)

end Failure

end Schema

end SyncHistory
