import SyncHistory.CommandLine.Run

/-!
# The program

Runs a command line with the files and the environment of the process. No database and no service can be
connected to from here, so every run ends at the latest where the first connection is needed.
-/

namespace SyncHistory

/-- The number of the error of reading a directory as if it were a file. -/
def isDirectoryCode : UInt32 := 21

def readFile (path : String) : IO FileRead := do
  try
    return .ofBytes (← IO.FS.readBinFile path)
  catch
    | .noFileOrDirectory .. => return .missing
    | .inappropriateType _ code _ =>
      return .fault (if code = isDirectoryCode then .isDirectory else .notDirectory)
    | e => throw e

/-- Runs an errand as far as that is possible. -/
def runErrand : (e : CommandLine.Errand) → IO e.Answer
  | .connect _ => return .error .unreachable
  | .demand (.jobs _) | .demand (.connectors _) => return .error .unreachable
  | .demand (.fetch _) => return .error "no connection can be made"
  | .demand (.file path) => readFile path

end SyncHistory

open SyncHistory in
/-- Runs the words of a command line. -/
def main (words : List String) : IO UInt32 := do
  let overrides ← Overrides.ofEnvironment fun name => IO.getEnv name
  let output ← Prog.run (I := CommandLine.errands) runErrand (CommandLine.run overrides words)
  IO.print output.stdout
  IO.eprint output.stderr
  return output.code.toUInt32
