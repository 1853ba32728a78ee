import WorkspaceImport.Yaml.Cursor
/-!
In which style a text is written as a scalar. Plain is best, and single quotes are next; double quotes
can hold everything. What a style cannot hold is said by its characters and their neighbours.
-/
namespace WorkspaceImport.Yaml

inductive ScalarStyle where
  | plain
  | single
  | double
  deriving DecidableEq

def isSpecial (c : Char) : Bool :=
  let n := c.toNat
  c = byteOrderMark ||
    !(n = 10 || (32 ≤ n && n ≤ 126) || n = 0x85 || (0xA0 ≤ n && n ≤ 0xD7FF) ||
      (0xE000 ≤ n && n ≤ 0xFFFD) || (0x10000 ≤ n && n < 0x10FFFF))

def anyNeighbours (related : Char → Char → Bool) : List Char → Bool
  | a :: b :: rest => related a b || anyNeighbours related (b :: rest)
  | _ => false

def openingMarks : List Char :=
  ['#', ',', '[', ']', '\x7b', '\x7d', '&', '*', '!', '|', '>', '\x27', '\x22', '%', '@', '\x60']

def opensOtherwise : List Char → Bool
  | [] => false
  | c :: rest =>
    openingMarks.contains c || ((c = '?' || c = ':' || c = '-') && endsWord rest.head?) ||
      ['-', '-', '-'].isPrefixOf (c :: rest) || ['.', '.', '.'].isPrefixOf (c :: rest)

def hasInnerMark (cs : List Char) : Bool :=
  cs.getLast? = some ':' ||
    anyNeighbours (fun a b => isSeparator a && b = '#') cs ||
    anyNeighbours (fun a b => a = ':' && isSeparator b) cs

def canBePlain (cs : List Char) : Bool :=
  !(cs.head? = some ' ' || cs.getLast? = some ' ' || cs.any isBreak || cs.any isSpecial ||
    opensOtherwise cs || hasInnerMark cs)

def canBeSingle (cs : List Char) : Bool :=
  !(cs.any isSpecial || anyNeighbours (fun a b => isBreak a && b = ' ') cs ||
    anyNeighbours (fun a b => a = ' ' && isBreak b) cs)

def ScalarStyle.choose (meansItself : Bool) (cs : List Char) : ScalarStyle :=
  if meansItself && canBePlain cs then .plain else if canBeSingle cs then .single else .double

end WorkspaceImport.Yaml
