/-!
Levels of lines of the log, and the least level that is written.
-/
namespace WorkspaceImport

inductive Level where
  | notSet
  | debug
  | info
  | warning
  | error
  | critical
  deriving DecidableEq

namespace Level

def name : Level → String
  | .notSet => "NOTSET"
  | .debug => "DEBUG"
  | .info => "INFO"
  | .warning => "WARNING"
  | .error => "ERROR"
  | .critical => "CRITICAL"

def number : Level → Nat
  | .notSet => 0
  | .debug => 10
  | .info => 20
  | .warning => 30
  | .error => 40
  | .critical => 50

def ofName? : String → Option Level
  | "NOTSET" => some .notSet
  | "DEBUG" => some .debug
  | "INFO" => some .info
  | "WARNING" | "WARN" => some .warning
  | "ERROR" => some .error
  | "CRITICAL" | "FATAL" => some .critical
  | _ => none

end Level

inductive LevelFault where
  | layout (text : String)
  | styles
  deriving DecidableEq

namespace Level

def capitals (c : Char) : List Char :=
  if 'a' ≤ c ∧ c ≤ 'z' then [Char.ofNat (c.toNat - 32)]
  else
    match c.toNat with
    | 0xDF => ['S', 'S']
    | 0x131 => ['I']
    | 0x17F => ['S']
    | 0xFB00 => ['F', 'F']
    | 0xFB01 => ['F', 'I']
    | 0xFB02 => ['F', 'L']
    | 0xFB03 => ['F', 'F', 'I']
    | 0xFB04 => ['F', 'F', 'L']
    | 0xFB05 | 0xFB06 => ['S', 'T']
    | _ => [c]

/-- The least level that is written when a level is asked for by its name, in any case of its letters.
A name that is not known asks for `INFO`, and `NOTSET` for everything. -/
def threshold (name : String) : Except LevelFault Nat :=
  match String.ofList (name.toList.flatMap capitals) with
  | "BASIC_FORMAT" => .error (.layout "%(levelname)s:%(name)s:%(message)s")
  | "_STYLES" => .error .styles
  | plain => .ok ((ofName? plain).getD .info).number

end Level

end WorkspaceImport
