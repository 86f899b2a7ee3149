import SyncHistory.Inquiry

/-!
# Logs of attempts

Of the log of an attempt callers get to see the last lines. A log that was never written, or has been
removed, is empty.
-/

namespace SyncHistory

/-- The last lines of a log, no more than asked for. -/
def Log.tail (count : Nat) (contents : String) : List String :=
  let lines := Text.lines contents
  lines.drop (lines.length - count)

/-- The last lines of the log at a path, if there is one. -/
def Inquiry.logTail (count : Nat) : (path : Option String) → Inquiry (List String)
  | none => pure []
  | some path => do
    match ← Inquiry.file path with
    | .missing => pure []
    | .text contents => pure (Log.tail count contents)
    | .fault fault => throw (.transient (.logFile path fault))

end SyncHistory
