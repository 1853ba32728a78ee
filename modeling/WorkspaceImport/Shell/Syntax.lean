/-!
Scripts of the command shell as trees: words with quotes and expansions, commands with redirections,
and commands that are put together from others.
-/
namespace WorkspaceImport.Shell

/-- What is done with the value of a parameter. Some uses have another word for the case that there is
no value; `emptyCounts` says that an empty value is one. -/
inductive ParameterUse where
  | value
  | length
  | fallback (emptyCounts : Bool)
  | assigned (emptyCounts : Bool)
  | required (emptyCounts : Bool)
  | replacement (emptyCounts : Bool)
  | trimmed (atEnd longest : Bool)
  | bad
  deriving DecidableEq

inductive RedirectionKind where
  | input
  | output
  | clobber
  | append
  | both
  | duplicate
  | document (number : Nat)
  deriving DecidableEq

mutual

inductive WordPart where
  | char (c : Char) (isQuoted : Bool)
  | quotes
  | parameter (name : String) (use : ParameterUse) (word : List WordPart) (isQuoted : Bool)
  | output (body : Command) (isQuoted : Bool)
  | arithmetic (text : List WordPart) (isQuoted : Bool)

inductive Redirection where
  | mk (stream : Nat) (kind : RedirectionKind) (word : List WordPart)

inductive Command where
  | nothing
  | simple (line : Nat) (assignments : List (String × List WordPart)) (words : List (List WordPart))
      (redirections : List Redirection)
  | pipe (commands : List Command)
  | negation (body : Command)
  | sequence (first second : Command)
  | both (first second : Command)
  | either (first second : Command)
  | background (body : Command)
  | subshell (line : Nat) (body : Command)
  | redirected (line : Nat) (body : Command) (redirections : List Redirection)
  | conditional (test yes no : Command)
  | loop (isUntil : Bool) (test body : Command)
  | forEach (line : Nat) (name : String) (words : List (List WordPart)) (body : Command)
  | cases (line : Nat) (word : List WordPart) (branches : List (List (List WordPart) × Command))
  | function (name : String) (body : Command)

end

instance : Inhabited WordPart := ⟨.quotes⟩

instance : Inhabited Command := ⟨.nothing⟩

abbrev Word := List WordPart

abbrev Branch := List Word × Command

namespace Command

def isNothing : Command → Bool
  | .nothing => true
  | _ => false

def followedBy (a b : Command) : Command :=
  if a.isNothing then b else if b.isNothing then a else .sequence a b

def withRedirections (c : Command) (line : Nat) (redirections : List Redirection) : Command :=
  if redirections.isEmpty then c else .redirected line c redirections

end Command

def isNameStart (c : Char) : Bool :=
  c = '_' || ('a' ≤ c && c ≤ 'z') || ('A' ≤ c && c ≤ 'Z')

def isDigit (c : Char) : Bool :=
  '0' ≤ c && c ≤ '9'

def isNamePart (c : Char) : Bool :=
  isNameStart c || isDigit c

def isName (cs : List Char) : Bool :=
  cs.head?.any isNameStart && cs.all isNamePart

def bareText? : Word → Option (List Char)
  | [] => some []
  | .char c false :: rest => (bareText? rest).map (c :: ·)
  | _ :: _ => none

def reservedWords : List String :=
  ["!", "case", "do", "done", "elif", "else", "esac", "fi", "for", "if", "in", "then", "until",
    "while", "\x7b", "\x7d"]

def specialNames : List String :=
  [".", ":", "break", "continue", "eval", "exec", "exit", "export", "readonly", "return", "set",
    "shift", "times", "trap", "unset"]

end WorkspaceImport.Shell
