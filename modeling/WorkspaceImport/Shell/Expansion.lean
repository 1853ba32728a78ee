import WorkspaceImport.Shell.Arithmetic
import WorkspaceImport.Shell.Pattern
import WorkspaceImport.Shell.State
/-!
From words to the texts that they stand for. The parts of a word become pieces, which remember what was
quoted and what came from a value; pieces are split into fields, and a field that is a pattern stands
for the paths that it accepts. How a command is run for its output is a parameter.
-/
namespace WorkspaceImport.Shell

inductive Piece where
  | char (c : Char) (isQuoted splits : Bool)
  | quotes
  | joint (isQuoted : Bool)
  deriving DecidableEq

namespace Piece

def ofText (s : String) (isQuoted splits : Bool) : List Piece :=
  s.toList.map fun c => .char c isQuoted splits

def text (pieces : List Piece) : String :=
  String.ofList (pieces.filterMap fun p => match p with | .char c _ _ => some c | _ => none)

def marked (pieces : List Piece) : List Marked :=
  pieces.filterMap fun p => match p with | .char c isQuoted _ => some (c, isQuoted) | _ => none

def joined (between : List Piece) (isQuoted : Bool) : List String → List Piece
  | [] => []
  | [a] => ofText a isQuoted (!isQuoted)
  | a :: rest => ofText a isQuoted (!isQuoted) ++ between ++ joined between isQuoted rest

end Piece

inductive SplitPlace where
  | start
  | afterBlank
  | afterMark
  deriving DecidableEq

/-- The fields of pieces. Blanks among the separators end a field once; every other separator ends
one, even an empty one. -/
def fieldsFrom (separators : List Char) (place : SplitPlace) (field : Option (List Marked)) :
    List Piece → List (List Marked)
  | [] => (field.map List.reverse).toList
  | .quotes :: rest => fieldsFrom separators place (some (field.getD [])) rest
  | .joint true :: rest => (field.getD []).reverse :: fieldsFrom separators .start (some []) rest
  | .joint false :: rest =>
    (field.map List.reverse).toList ++ fieldsFrom separators .afterBlank none rest
  | .char c isQuoted splits :: rest =>
    if splits && separators.contains c then
      let isBlank := c = ' ' || c = '\t' || c = '\n'
      match field with
      | some f =>
        f.reverse :: fieldsFrom separators (if isBlank then .afterBlank else .afterMark) none rest
      | none =>
        if isBlank then fieldsFrom separators place none rest
        else if place = .afterBlank then fieldsFrom separators .afterMark none rest
        else [] :: fieldsFrom separators .afterMark none rest
    else fieldsFrom separators place (some ((c, isQuoted) :: field.getD [])) rest

def tildeName? (inAssignment : Bool) : Word → Option (List Char)
  | [] => some []
  | .char c false :: rest =>
    if c = '/' || (inAssignment && c = ':') then some []
    else (tildeName? inAssignment rest).map (c :: ·)
  | _ :: _ => none

namespace Run

def parameter? (name : String) : Run (Option String) := do
  let s ← get
  match name with
  | "?" => pure (some (toString s.status))
  | "$" => pure (some (toString State.ownNumber))
  | "#" => pure (some (toString s.arguments.length))
  | "-" => pure (some (String.ofList s.options))
  | "!" => pure (s.jobs.head?.map fun job => toString job.1)
  | _ =>
    match name.toNat? with
    | some 0 => pure (some s.name)
    | some n => pure s.arguments[n - 1]?
    | none => pure (s.valueOf? name)

def home? (name : List Char) : Run (Option String) := do
  if name.isEmpty then return (← get).valueOf? "HOME"
  else return if String.ofList name = "root" then some "/root" else none

/-- The pieces of the value of a parameter, if it has one. All arguments stay apart where fields are
made; elsewhere the first separator stands between them. -/
def value? (name : String) (isQuoted makesFields : Bool) : Run (Option (List Piece)) := do
  let s ← get
  if name = "@" ∨ name = "*" then
    let separator := ((s.valueOf? "IFS").getD " ").toList.take 1
    let between : List Piece :=
      if makesFields && (!isQuoted || name = "@") then [.joint isQuoted]
      else separator.map fun c => .char c isQuoted (!isQuoted)
    let field : List Piece := if isQuoted then [.quotes] else []
    pure (if s.arguments.isEmpty then none
      else some (field ++ Piece.joined between isQuoted s.arguments))
  else
    let text ← parameter? name
    pure (text.map fun t => Piece.ofText t isQuoted (!isQuoted))

def needsValue (name : String) : Run Unit := do
  if (← get).hasOption 'u' && name ≠ "@" && name ≠ "*" then refuse (name ++ ": parameter not set")

mutual

def partPieces (substitute : Command → Run String) (makesFields : Bool) :
    WordPart → Run (List Piece)
  | .char c isQuoted => pure [.char c isQuoted false]
  | .quotes => pure [.quotes]
  | .output body isQuoted => do
    let text ← substitute body
    let kept := (text.toList.reverse.dropWhile (· = '\n')).reverse.filter (· ≠ '\x00')
    pure (Piece.ofText (String.ofList kept) isQuoted (!isQuoted))
  | .arithmetic text isQuoted => do
    let pieces ← piecesFrom substitute false false false 0 text
    let expression := Piece.text pieces
    let s ← get
    match calculate (fun name => (s.valueOf? name).getD "") expression.toList with
    | .error fault => refuse (fault.message expression)
    | .ok (n, changes) =>
      changes.reverse.forM fun (name, value) => setVariable name value false
      pure (Piece.ofText (toString n) isQuoted (!isQuoted))
  | .parameter name use word isQuoted => do
    let found ← value? name isQuoted makesFields
    let isNull := found.any fun pieces => pieces.all (· = .quotes)
    let wordPieces : Run (List Piece) := do
      let pieces ← piecesFrom substitute makesFields (!isQuoted) false 0 word
      pure (pieces.map fun p =>
        match p with | .char c false _ => .char c isQuoted (!isQuoted) | p => p)
    let counts (emptyCounts : Bool) : Bool := found.isSome && !(emptyCounts && isNull)
    match use with
    | .value =>
      if found.isNone then needsValue name
      pure (found.getD [])
    | .length =>
      if found.isNone then needsValue name
      let n := ((found.getD []).filter (· ≠ .quotes)).length
      pure (Piece.ofText (toString n) isQuoted (!isQuoted))
    | .fallback emptyCounts =>
      if counts emptyCounts then pure (found.getD []) else wordPieces
    | .replacement emptyCounts =>
      if counts emptyCounts then wordPieces else pure []
    | .assigned emptyCounts =>
      if counts emptyCounts then pure (found.getD [])
      else
        let text := Piece.text (← piecesFrom substitute false (!isQuoted) false 0 word)
        if !isName name.toList then refuse (name ++ ": bad variable name")
        else
          setVariable name text false
          pure (Piece.ofText text isQuoted (!isQuoted))
    | .required emptyCounts =>
      if counts emptyCounts then pure (found.getD [])
      else
        let text := Piece.text (← piecesFrom substitute false (!isQuoted) false 0 word)
        let standard := "parameter not set" ++ if emptyCounts then " or null" else ""
        refuse (name ++ ": " ++ if word.isEmpty then standard else text)
    | .trimmed atEnd longest =>
      if found.isNone then needsValue name
      let pieces ← piecesFrom substitute false true false 0 word
      let pattern := Pattern.ofMarked (pieces.length + 1) (Piece.marked pieces)
      let text := Pattern.trim pattern atEnd longest (Piece.text (found.getD [])).toList
      pure (Piece.ofText (String.ofList text) isQuoted (!isQuoted))
    | .bad => refuse "Bad substitution"

/-- The pieces of the parts of a word, without the first `skip` ones. `mayBeHome` says that a tilde
here stands for a directory. -/
def piecesFrom (substitute : Command → Run String) (makesFields mayBeHome inAssignment : Bool)
    (skip : Nat) : List WordPart → Run (List Piece)
  | [] => pure []
  | p :: rest => do
    match skip with
    | skip + 1 => piecesFrom substitute makesFields mayBeHome inAssignment skip rest
    | 0 =>
      let isMark (c : Char) : Bool := match p with | .char d false => d = c | _ => false
      let name? := if mayBeHome && isMark '~' then tildeName? inAssignment rest else none
      let home ← match name? with | some name => home? name | none => pure none
      match name?, home with
      | some name, some text =>
        let more ← piecesFrom substitute makesFields false inAssignment name.length rest
        pure (Piece.ofText text true false ++ more)
      | _, _ =>
        let here ← partPieces substitute makesFields p
        let more ← piecesFrom substitute makesFields (inAssignment && isMark ':') inAssignment 0 rest
        pure (here ++ more)

end

def textOf (substitute : Command → Run String) (inAssignment : Bool) (w : Word) : Run String := do
  return Piece.text (← piecesFrom substitute false true inAssignment 0 w)

def patternOf (substitute : Command → Run String) (w : Word) : Run Pattern := do
  let pieces ← piecesFrom substitute false true false 0 w
  return Pattern.ofMarked (pieces.length + 1) (Piece.marked pieces)

def documentOf (substitute : Command → Run String) (w : Word) : Run String := do
  return Piece.text (← piecesFrom substitute false false false 0 w)

def namesAt (s : State) (directory : String) (segment : List Marked) : List String :=
  let place := if directory.isEmpty then "." else directory
  match s.find place with
  | .ok (_, .directory children) =>
    let pattern := Pattern.ofMarked (segment.length + 1) segment
    let wantsDot := segment.head?.any fun m => m.1 = '.'
    let names := (children.map fun e => spread e.1) ++ if wantsDot then [".", ".."] else []
    (names.filter fun name =>
      (wantsDot || !name.startsWith ".") && Pattern.accepts pattern name.toList).mergeSort
  | _ => []

def pathsAt (s : State) (directory : String) : List (List Marked) → List String
  | [] => [directory]
  | [segment] =>
    if Pattern.isPattern segment then (namesAt s directory segment).map (directory ++ ·)
    else
      let path := directory ++ String.ofList (segment.map (·.1))
      if (s.find path).isOk then [path] else []
  | segment :: rest =>
    let names :=
      if Pattern.isPattern segment then namesAt s directory segment
      else [String.ofList (segment.map (·.1))]
    names.flatMap fun name => pathsAt s (directory ++ name ++ "/") rest

def segmentsOf : List Marked → List (List Marked)
  | [] => [[]]
  | m :: rest =>
    if m.1 = '/' then [] :: segmentsOf rest
    else
      match segmentsOf rest with
      | [] => [[m]]
      | segment :: more => (m :: segment) :: more

def pathsOf (s : State) (field : List Marked) : List String :=
  let text := String.ofList (field.map (·.1))
  if s.hasOption 'f' || !Pattern.isPattern field then [text]
  else
    let found := pathsAt s "" (segmentsOf field)
    if found.isEmpty then [text] else found

def fieldsOf (substitute : Command → Run String) (w : Word) : Run (List String) := do
  let pieces ← piecesFrom substitute true true false 0 w
  let s ← get
  return (fieldsFrom s.separators .start none pieces).flatMap (pathsOf s)

end Run

end WorkspaceImport.Shell
