import WorkspaceImport.CommandLine.Described
/-!
The command line. The workspace is described by a JSON document on one line of the standard input.
-/
namespace WorkspaceImport

def CommandLine.Result.report (r : CommandLine.Result) : IO UInt32 := do
  IO.print r.output
  if let some text := r.ending.errorText? then
    IO.eprintln text
  pure (UInt32.ofNat r.ending.exitCode)

end WorkspaceImport

def main (words : List String) : IO UInt32 := do
  let description ← (← IO.getStdin).getLine
  match WorkspaceImport.CommandLine.runDescribed description words with
  | some r => r.report
  | none =>
    IO.eprintln "the description of the workspace is no JSON document"
    pure 1
