import WorkspaceImport.Log.Moment
import WorkspaceImport.Log.Record
import WorkspaceImport.Log.Template
/-!
Whole lines of the log in JSON, made of a moment, a template with its arguments, and the rest of a
record.
-/
namespace WorkspaceImport.Log

inductive LineFault where
  | moment (fault : MomentFault)
  | template (fault : TemplateFault)

/-- The line for a record whose message is the template filled with the arguments. The moment is asked
for first. -/
def line (seconds : Value) (r : LogRecord) (arguments : List Value) : Except LineFault String := do
  let time ← (momentText seconds).mapError .moment
  let text ← (message r.message arguments).mapError .template
  return { r with message := text }.jsonLine time

end WorkspaceImport.Log
