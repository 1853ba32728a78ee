/-!
Paths as texts name them. A path is a root and the segments after it; empty segments and the segment
`.` do not count, and `..` is kept, because only the file tree knows what it means.
-/
namespace WorkspaceImport

/-- What a path begins with. Two slashes are a root of their own; three or more count as one. -/
inductive PathRoot where
  | relative
  | slash
  | twoSlashes
  deriving DecidableEq, Inhabited

structure Path where
  root : PathRoot
  segments : List String
  deriving DecidableEq, Inhabited

namespace Path

def pieces : List Char → List (List Char)
  | [] => [[]]
  | '/' :: rest => [] :: pieces rest
  | c :: rest =>
    match pieces rest with
    | [] => [[c]]
    | piece :: more => (c :: piece) :: more

def rootOf : List Char → PathRoot
  | '/' :: '/' :: '/' :: _ => .slash
  | '/' :: '/' :: _ => .twoSlashes
  | '/' :: _ => .slash
  | _ => .relative

def isSegment (piece : List Char) : Bool :=
  !piece.isEmpty && piece != ['.']

def ofString (s : String) : Path :=
  ⟨rootOf s.toList, ((pieces s.toList).filter isSegment).map String.ofList⟩

def isAbsolute (p : Path) : Bool :=
  p.root != .relative

/-- The text of a path; the path without root and segments is the current directory. -/
def text (p : Path) : String :=
  let body := String.intercalate "/" p.segments
  match p.root with
  | .relative => if p.segments.isEmpty then "." else body
  | .slash => "/" ++ body
  | .twoSlashes => "//" ++ body

def join (p q : Path) : Path :=
  if q.isAbsolute then q else ⟨p.root, p.segments ++ q.segments⟩

def name (p : Path) : String :=
  p.segments.getLast?.getD ""

/-- The path without its last segment; a root and the current directory are their own parents. -/
def parent (p : Path) : Path :=
  ⟨p.root, p.segments.dropLast⟩

def withoutParents (done : List String) : List String → List String
  | [] => done.reverse
  | s :: rest => withoutParents (if s = ".." then done.tail else s :: done) rest

/-- The absolute path without `..` that a path means for somebody who is in `here`. -/
def resolve (here p : Path) : Path :=
  ⟨.slash, withoutParents [] (here.join p).segments⟩

end Path

end WorkspaceImport
