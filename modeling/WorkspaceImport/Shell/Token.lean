import WorkspaceImport.Shell.Syntax
/-!
The tokens of scripts: words, marks, redirections and the ends of lines. Whether a word structures the
script is decided where it stands, not by its spelling alone.
-/
namespace WorkspaceImport.Shell

inductive Token where
  | word (w : Word)
  | reserved (text : String)
  | mark (text : String)
  | redirection (stream : Option Nat) (text : String)
  | newline
  | ended

namespace Token

def name : Token → String
  | .word _ => "word"
  | .reserved text | .mark text => "\x22" ++ text ++ "\x22"
  | .redirection _ _ => "redirection"
  | .newline => "newline"
  | .ended => "end of file"

def asReserved (t : Token) : Token :=
  match t with
  | .word w =>
    match bareText? w with
    | some cs => if reservedWords.contains (String.ofList cs) then .reserved (String.ofList cs) else t
    | none => t
  | _ => t

def endsList : Token → Bool
  | .ended => true
  | .mark text => text = ")" || text = ";;"
  | .reserved text => ["do", "done", "elif", "else", "esac", "fi", "then", "\x7d"].contains text
  | _ => false

def pattern (t : Token) : Word :=
  match t with
  | .word w => w
  | .reserved text => text.toList.map fun c => .char c false
  | _ => []

end Token

def standardStream (text : String) : Nat :=
  if text.startsWith "<" then 0 else 1

def redirectionKind (text : String) : RedirectionKind :=
  match text with
  | "<" => .input
  | ">>" => .append
  | ">|" => .clobber
  | "<>" => .both
  | "<&" | ">&" => .duplicate
  | _ => .output

def plainText (w : Word) : List Char :=
  w.filterMap fun p => match p with | .char c _ => some c | _ => none

def hasQuotes (w : Word) : Bool :=
  w.any fun p => match p with | .quotes | .char _ true => true | _ => false

def marksFrom (c : Char) : List String :=
  match c with
  | '&' => ["&&", "&"]
  | '|' => ["||", "|"]
  | ';' => [";;", ";"]
  | '(' => ["("]
  | ')' => [")"]
  | _ => []

def redirectionMarks : List String :=
  ["<<-", "<<", "<&", "<>", "<", ">>", ">|", ">&", ">"]

def wordUse? (mark : Char) (emptyCounts : Bool) : Option ParameterUse :=
  match mark with
  | '-' => some (.fallback emptyCounts)
  | '=' => some (.assigned emptyCounts)
  | '?' => some (.required emptyCounts)
  | '+' => some (.replacement emptyCounts)
  | _ => none

def isAllArguments : List WordPart → Bool
  | [.parameter "@" .value _ _] => true
  | _ => false

def assignment? (w : Word) : Option (String × Word) :=
  let name := w.takeWhile fun p => match p with | .char c false => isNamePart c | _ => false
  match bareText? name, w.drop name.length with
  | some cs, .char '=' false :: value =>
    if isName cs then some (String.ofList cs, value) else none
  | _, _ => none

end WorkspaceImport.Shell
