import WorkspaceImport.Log.Conversion
/-!
Messages with arguments. A template is a text with directives: a percent mark, a name between
parentheses, flags, a width, a precision, and a letter that says how an argument is written. A
template is worked off from left to right, and the first thing that is wrong with it counts.
-/
namespace WorkspaceImport.Log

/-- The arguments that are left. One mapping alone can be asked for its names; what was asked for last
is then the only argument. -/
structure Arguments where
  rest : List Value
  names : Option (List (Value × Value))

def Arguments.ofList : List Value → Arguments
  | [.map (e :: more)] => ⟨[.map (e :: more)], some (e :: more)⟩
  | values => ⟨values, none⟩

structure Filling where
  rest : List Char
  arguments : Arguments

abbrev Fill := StateT Filling (Except TemplateFault)

namespace Template

def isFlag (c : Char) : Bool :=
  ['-', '+', ' ', '#', '0'].contains c

def isDigit (c : Char) : Bool :=
  '0' ≤ c && c ≤ '9'

def natOf (cs : List Char) : Nat :=
  cs.foldl (fun n c => n * 10 + (c.toNat - '0'.toNat)) 0

def takeRun (p : Char → Bool) : Fill (List Char) := do
  let s ← get
  set { s with rest := s.rest.dropWhile p }
  pure (s.rest.takeWhile p)

def skip? (wanted : Char → Bool) : Fill Bool := do
  let s ← get
  match s.rest with
  | c :: rest =>
    if wanted c then
      set { s with rest := rest }
      pure true
    else pure false
  | [] => pure false

def nextArgument : Fill Value := do
  let s ← get
  match s.arguments.rest with
  | v :: rest =>
    set { s with arguments := { s.arguments with rest := rest } }
    pure v
  | [] => throw .arguments

def extentArgument (least greatest : Int) : Fill Int := do
  let n ← Directive.exactNumber (← nextArgument)
  if n < least ∨ greatest < n then throw .outOfRange else pure n

/-- The name after an opening parenthesis, and what follows the parenthesis that closes it; the
parentheses between them are balanced. -/
def nameIn? (depth : Nat) (name : List Char) : List Char → Option (String × List Char)
  | [] => none
  | ')' :: rest =>
    if depth = 0 then some (String.ofList name.reverse, rest)
    else nameIn? (depth - 1) (')' :: name) rest
  | '(' :: rest => nameIn? (depth + 1) ('(' :: name) rest
  | c :: rest => nameIn? depth (c :: name) rest

def lookUp : Fill Unit := do
  if ← skip? (· = '(') then
    let s ← get
    match s.arguments.names with
    | none => throw .arguments
    | some names =>
      match nameIn? 0 [] s.rest with
      | none => throw .incompleteKey
      | some (name, rest) =>
        match Value.field? name names with
        | none => throw .missingKey
        | some v => set { s with rest := rest, arguments := ⟨[v], some names⟩ }

/-- The width of a directive. The least number that an argument can be has no opposite and counts for
nothing. -/
def width : Fill Int := do
  if ← skip? (· = '*') then
    let n ← extentArgument (-Int.pow 2 63) (Int.pow 2 63 - 1)
    pure (if n = -Int.pow 2 63 then 0 else n)
  else
    let n := natOf (← takeRun isDigit)
    if Nat.pow 2 63 - 1 < n then throw .widthTooBig else pure n

def precision : Fill (Option Nat) := do
  if ← skip? (· = '.') then
    if ← skip? (· = '*') then
      return some (← extentArgument (-Int.pow 2 31) (Int.pow 2 31 - 1)).toNat
    else
      let n := natOf (← takeRun isDigit)
      if Nat.pow 2 31 - 1 < n then throw .precisionTooBig else pure (some n)
  else pure none

def isLengthMark (c : Char) : Bool :=
  c = 'h' || c = 'l' || c = 'L'

def directive (length : Nat) : Fill Directive := do
  lookUp
  let flags ← takeRun isFlag
  let width ← width
  let precision ← precision
  let _ ← skip? isLengthMark
  let s ← get
  match s.rest with
  | [] => throw .incomplete
  | letter :: rest =>
    set { s with rest := rest }
    pure ⟨flags, width, precision, letter, length - rest.length - 1⟩

def directiveText (length : Nat) : Fill String := do
  if ← skip? (· = '%') then pure "%"
  else
    let d ← directive length
    d.render (← nextArgument)

/-- The rest of a template with its arguments filled in; `fuel` is at least the number of characters
that are left. All arguments have to be used, unless they have names. -/
def fillFrom (length : Nat) (done : String) : Nat → Fill String
  | 0 => pure done
  | fuel + 1 => do
    let literal ← takeRun (· ≠ '%')
    let done := done ++ String.ofList literal
    if ← skip? (· = '%') then
      fillFrom length (done ++ (← directiveText length)) fuel
    else
      let a := (← get).arguments
      if a.rest.isEmpty || a.names.isSome then pure done else throw .arguments

end Template

def message (template : String) (arguments : List Value) : Except TemplateFault String :=
  if arguments.isEmpty then .ok template
  else
    let cs := template.toList
    (Template.fillFrom cs.length "" (cs.length + 1)).run' ⟨cs, .ofList arguments⟩

end WorkspaceImport.Log
