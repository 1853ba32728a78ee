/-!
Blank characters and the trimming of texts. A character is blank when it separates words in
running text: the ASCII separators, the information separators and the Unicode spaces.
-/
namespace WorkspaceImport.Text

/-- The class is closed under nothing but this list: byte order marks and zero-width spaces
are not blank. -/
def isBlank (c : Char) : Bool :=
  let n := c.toNat
  (9 ≤ n && n ≤ 13) || (28 ≤ n && n ≤ 32) || n == 0x85 || n == 0xA0 || n == 0x1680 ||
  (0x2000 ≤ n && n ≤ 0x200A) || n == 0x2028 || n == 0x2029 || n == 0x202F || n == 0x205F ||
  n == 0x3000

def trimStart (cs : List Char) : List Char :=
  cs.dropWhile isBlank

def trimEnd (cs : List Char) : List Char :=
  (cs.reverse.dropWhile isBlank).reverse

def trim (cs : List Char) : List Char :=
  trimEnd (trimStart cs)

def strip (s : String) : String :=
  String.ofList (trim s.toList)

def isBlankByte (b : UInt8) : Bool :=
  b == 32 || (9 ≤ b && b ≤ 13)

def stripBytes (bs : List UInt8) : List UInt8 :=
  ((bs.dropWhile isBlankByte).reverse.dropWhile isBlankByte).reverse

end WorkspaceImport.Text
