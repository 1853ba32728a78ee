import WorkspaceImport.Json.Printer
import WorkspaceImport.Log.Level
/-!
Lines of the log. A line is written for a reader, or as a JSON object with the context of the line in
fields of their own.
-/
namespace WorkspaceImport

structure RaisedError where
  kind : String
  text : String

structure LogRecord where
  level : Level
  logger : String
  message : String
  context : List (String × Value) := []
  raised : Option RaisedError := none

def RaisedError.shown (e : RaisedError) : String :=
  let text := if e.kind = "KeyError" then Text.quoted e.text else e.text
  if text.isEmpty then e.kind else e.kind ++ ": " ++ text

namespace LogRecord

def contextNames : List String :=
  ["target", "project", "caller"]

def reservedNames : List String :=
  ["message", "asctime", "name", "msg", "args", "levelname", "levelno", "pathname", "filename",
    "module", "exc_info", "exc_text", "stack_info", "lineno", "funcName", "created", "msecs",
    "relativeCreated", "thread", "threadName", "processName", "process"]

def reservedName? (r : LogRecord) : Option String :=
  (r.context.find? fun e => reservedNames.contains e.1).map (·.1)

def contextValue? (r : LogRecord) (name : String) : Option Value :=
  (r.context.reverse.find? (·.1 = name)).map (·.2)

def contextFields (r : LogRecord) : List (String × Value) :=
  contextNames.filterMap fun name =>
    match r.contextValue? name with
    | some v => if v.isFalsy then none else some (name, v)
    | none => none

def fields (r : LogRecord) : List (String × Value) :=
  [("level", .text r.level.name), ("logger", .text r.logger), ("message", .text r.message)] ++
    r.contextFields ++ (r.raised.elim [] fun e => [("exception", .text e.shown)])

def jsonLine (time : String) (r : LogRecord) : String :=
  Json.write (.ofFields (("time", .text time) :: r.fields))

def textLine (r : LogRecord) : String :=
  let name := r.level.name
  "[" ++ name.pushn ' ' (7 - name.length) ++ "] " ++ r.logger ++ ": " ++ r.message ++ "\n"

end LogRecord

end WorkspaceImport
