import SyncHistory.Schema.Check
import SyncHistory.Validation

/-!
# The checker that the program runs with

A schema is checked in the dialect that it is written in, if it is a schema of this dialect as far as
`Dialect.isWellFormed` can tell. Keywords that a dialect has no shape for count for nothing.

What is proved about valid configurations is proved for every `SchemaChecker`. This one is for running the
program, and for examples.
-/

namespace SyncHistory

/-- Why a document is no schema; of the reasons there may be, none is told from another. -/
def Schema.notApplicable : String := "it cannot be applied"

instance Schema.checker : SchemaChecker where
  check schema document :=
    match Dialect.ofSchema? schema with
    | some d =>
      if d.isWellFormed schema then
        .ok ((Schema.failures d schema document).map fun f => ⟨f.pointer, f.cause.message⟩)
      else .error Schema.notApplicable
    | none => .error Schema.notApplicable

end SyncHistory
