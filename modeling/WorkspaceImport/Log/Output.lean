import WorkspaceImport.Log.Record
/-!
Where the log is written to. At most one output is set up at a time; taking it away leaves the least
level as it was.
-/
namespace WorkspaceImport

inductive LogFormat where
  | text
  | json
  deriving DecidableEq

structure LogOutput where
  threshold : Nat
  format : Option LogFormat
  deriving DecidableEq

/-- What became of a line. A line that says something about itself in its context is refused. -/
inductive Written where
  | nothing
  | refused (name : String)
  | text (line : String)
  | json (fields : List (String × Value))

namespace LogOutput

def start : LogOutput := ⟨Level.warning.number, none⟩

def reset (o : LogOutput) : LogOutput :=
  { o with format := none }

def setUp (o : LogOutput) (level : String) (format : LogFormat) : LogOutput × Option LevelFault :=
  match Level.threshold level with
  | .ok n => (⟨n, some format⟩, none)
  | .error fault => (o.reset, some fault)

def count (o : LogOutput) : Nat :=
  if o.format.isSome then 1 else 0

def rootName : String := "root"

/-- Writing a line, unless its level is too low. A line is refused even if there is nowhere to write it
to. The time in front of it is left out. -/
def write (o : LogOutput) (r : LogRecord) : Written :=
  let r := if r.logger.isEmpty then { r with logger := rootName } else r
  if r.level = .notSet ∨ r.level.number < o.threshold then .nothing
  else
    match r.reservedName?, o.format with
    | some name, _ => .refused name
    | none, none => .nothing
    | none, some .text => .text r.textLine
    | none, some .json => .json r.fields

end LogOutput

end WorkspaceImport
