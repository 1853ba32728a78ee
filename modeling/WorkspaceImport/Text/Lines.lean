/-!
Line structure of texts. Output of a tool is cut at every line boundary that Unicode text knows;
files are read with one spelling of the end of a line.
-/
namespace WorkspaceImport.Text

/-- Characters after which a new line begins. A carriage return and a line feed that follow
each other are one boundary; `linesFrom` takes care of the pair. -/
def isLineBoundary (c : Char) : Bool :=
  let n := c.toNat
  (10 ≤ n && n ≤ 13) || (28 ≤ n && n ≤ 30) || n == 0x85 || n == 0x2028 || n == 0x2029

/-- The lines of `line.reverse ++ cs`, where `line` holds no boundary. A boundary at the very end
opens no further line. -/
def linesFrom (line : List Char) : List Char → List (List Char)
  | [] => if line.isEmpty then [] else [line.reverse]
  | '\r' :: '\n' :: rest => line.reverse :: linesFrom [] rest
  | c :: rest =>
    if isLineBoundary c then line.reverse :: linesFrom [] rest else linesFrom (c :: line) rest

def lines (s : String) : List String :=
  (linesFrom [] s.toList).map String.ofList

def unixNewlinesFrom (done : List Char) : List Char → List Char
  | [] => done.reverse
  | '\r' :: '\n' :: rest => unixNewlinesFrom ('\n' :: done) rest
  | c :: rest => unixNewlinesFrom ((if c = '\r' then '\n' else c) :: done) rest

def unixNewlines (s : String) : String :=
  String.ofList (unixNewlinesFrom [] s.toList)

end WorkspaceImport.Text
