import WorkspaceImport.Shell.Token
/-!
The characters of a script while it is read. The joint of two lines, a backslash at the end of a line,
is no character except between single quotes. Documents that follow the line of their redirection are
kept by their numbers.
-/
namespace WorkspaceImport.Shell

structure SyntaxFault where
  line : Nat
  message : String

structure PendingDocument where
  number : Nat
  stop : List Char
  dropsTabs : Bool
  isQuoted : Bool

structure Source where
  rest : List Char
  line : Nat
  pushed : Option Token
  pending : List PendingDocument
  documents : List (Nat × Word)
  nextDocument : Nat

abbrev Parse := StateT Source (Except SyntaxFault)

inductive Context where
  | bare
  | braces
  | quotes
  | quotedBraces (inner : Bool)
  | arithmetic (depth : Nat)
  | document
  deriving DecidableEq

def Context.isQuoted : Context → Bool
  | .bare | .braces => false
  | _ => true

namespace Parse

def fail {α : Type} (message : String) : Parse α := fun s =>
  .error ⟨s.line, message⟩

def dropJoints (count : Nat) : List Char → List Char × Nat
  | '\\' :: '\n' :: rest => dropJoints (count + 1) rest
  | cs => (cs, count)

def peek : Parse (Option Char) :=
  modifyGet fun s =>
    let (rest, joints) := dropJoints 0 s.rest
    (rest.head?, { s with rest := rest, line := s.line + joints })

def peekRaw : Parse (Option Char) := do
  return (← get).rest.head?

def advance : Parse Unit :=
  modify fun s =>
    { s with rest := s.rest.tail, line := if s.rest.head? = some '\n' then s.line + 1 else s.line }

def takeWhile (p : Char → Bool) (done : List Char) : Nat → Parse (List Char)
  | 0 => pure done.reverse
  | fuel + 1 => do
    match ← peek with
    | some c =>
      if p c then
        advance
        takeWhile p (c :: done) fuel
      else pure done.reverse
    | none => pure done.reverse

def pushBack (t : Token) : Parse Unit :=
  modify fun s => { s with pushed := some t }

def endsWord (c : Char) : Bool :=
  [' ', '\t', '\n', ';', '&', '|', '<', '>', '(', ')'].contains c

def isSpecialName (c : Char) : Bool :=
  isDigit c || ['@', '*', '#', '?', '-', '$', '!'].contains c

def singleQuoted (done : List WordPart) : Nat → Parse (List WordPart)
  | 0 => fail "Unterminated quoted string"
  | fuel + 1 => do
    match ← peekRaw with
    | none => fail "Unterminated quoted string"
    | some '\x27' =>
      advance
      pure done
    | some c =>
      advance
      singleQuoted (.char c true :: done) fuel

def escaped (context : Context) : Parse (List WordPart) := do
  match ← peekRaw with
  | none => pure [.char '\\' true]
  | some c =>
    advance
    let isOne :=
      !context.isQuoted || ['\\', '\x60', '$'].contains c ||
        (c = '\x22' && context ≠ .document) ||
        (c = '\x7d' && (context = .quotedBraces true || context = .quotedBraces false))
    pure (if isOne then [.char c true] else [.char '\\' true, .char c true])

def backquoted (isQuoted : Bool) (done : List Char) : Nat → Parse (List Char)
  | 0 => fail "EOF in backquote substitution"
  | fuel + 1 => do
    match ← peek with
    | none => fail "EOF in backquote substitution"
    | some '\x60' =>
      advance
      pure done.reverse
    | some '\\' =>
      advance
      match ← peekRaw with
      | none => fail "EOF in backquote substitution"
      | some c =>
        advance
        let isOne := ['\\', '\x60', '$'].contains c || (isQuoted && c = '\x22')
        backquoted isQuoted (if isOne then c :: done else c :: '\\' :: done) fuel
    | some c =>
      advance
      backquoted isQuoted (c :: done) fuel

def documentLines (p : PendingDocument) (done : List Char) :
    Nat → List Char → List Char × List Char
  | 0, cs => (done.reverse, cs)
  | fuel + 1, cs =>
    let cs := if p.dropsTabs then cs.dropWhile (· = '\t') else cs
    if cs.isEmpty then (done.reverse, [])
    else
      let line := cs.takeWhile (· ≠ '\n')
      let after := cs.drop line.length
      if line = p.stop then (done.reverse, after.tail)
      else if after.isEmpty then ((line.reverse ++ done).reverse, [])
      else documentLines p ('\n' :: (line.reverse ++ done)) fuel after.tail

def unexpected {α : Type} (t : Token) : Parse α :=
  fail (Token.name t ++ " unexpected")

def unexpectedFor {α : Type} (t : Token) (wanted : String) : Parse α :=
  fail (Token.name t ++ " unexpected (expecting " ++ wanted ++ ")")

def markOf? : List String → Parse (Option String)
  | [] => pure none
  | mark :: rest => do
    let s ← get
    if mark.toList.isPrefixOf s.rest then
      set { s with rest := s.rest.drop mark.length }
      pure (some mark)
    else markOf? rest

def skipComment : Nat → Parse Unit
  | 0 => pure ()
  | fuel + 1 => do
    match ← peekRaw with
    | none | some '\n' => pure ()
    | some _ =>
      advance
      skipComment fuel

end Parse

end WorkspaceImport.Shell
