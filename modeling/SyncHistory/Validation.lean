import SyncHistory.Connector

/-!
# Valid configurations

The specification of a connector may hold a schema for the configurations of its actors. A configuration
is valid if it is an object and, where there is a schema, nothing is wrong with it under the schema. What a
schema says is not decided here: whoever validates a configuration does so by some `SchemaChecker`.
-/

namespace SyncHistory

/-- What is wrong with a document under a schema, in words, and a pointer to the value that is at fault. The
pointer to the whole document is empty. -/
structure SchemaFailure where
  pointer : String
  text : String
deriving DecidableEq

/-- The failure in words, with the pointer in front unless the whole document is at fault. -/
def SchemaFailure.message (f : SchemaFailure) : String :=
  if f.pointer = "" then f.text else f.pointer ++ ": " ++ f.text

/-- Whoever knows the language that schemas are written in. -/
class SchemaChecker where
  /-- All that is wrong with a document under a schema, or why the schema is none. -/
  check (schema document : Json) : Except String (List SchemaFailure)

/-- What is wrong with a configuration. -/
inductive ConfigurationFault where
  | notObject
  /-- The specification holds a document that is no schema, for a reason. -/
  | noSchema (reason : String)
  | failures (failures : List SchemaFailure)
deriving DecidableEq

/-- The fault in words. -/
def ConfigurationFault.message : ConfigurationFault → String
  | notObject => "configuration is not a JSON object"
  | noSchema reason => "connector spec is not a valid JSON schema: " ++ reason
  | failures fs => Text.joinWith "; " (fs.map SchemaFailure.message)

/-- The schema for configurations in a specification. -/
def connectionSchema? (spec : Json) : Option Json :=
  spec.canonical.get? "connectionSpecification"

/-- Checks a configuration under a specification. -/
def checkConfiguration [SchemaChecker] (configuration spec : Json) : Except ConfigurationFault Unit :=
  if !configuration.isObject then .error .notObject
  else match connectionSchema? spec with
    | some schema =>
      match SchemaChecker.check schema configuration.canonical with
      | .ok [] => .ok ()
      | .ok fs => .error (.failures fs)
      | .error reason => .error (.noSchema reason)
    | none => .ok ()

/-- Checks the configuration of an actor; the failure names the actor. -/
def validateConfiguration [SchemaChecker] (actor : Uuid) (configuration spec : Json) :
    Except LookupError Unit :=
  (checkConfiguration configuration spec).mapError fun fault =>
    .invalidConfiguration actor.text fault.message

end SyncHistory
