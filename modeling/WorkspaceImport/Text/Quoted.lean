import WorkspaceImport.Text.Printable
/-!
Quoted texts in messages. A text is shown between single quotes, or between double quotes when it
holds a single quote and no double quote; what a reader could not see is shown as an escape.
-/
namespace WorkspaceImport.Text

def hexDigit (n : Nat) : Char :=
  if n < 10 then Char.ofNat (48 + n) else Char.ofNat (87 + n)

def hexDigits : Nat → Nat → List Char
  | 0, _ => []
  | width + 1, n => hexDigits width (n / 16) ++ [hexDigit (n % 16)]

def escapeQuoted (quote : Char) (c : Char) : List Char :=
  let n := c.toNat
  if c = quote ∨ c = '\\' then ['\\', c]
  else if c = '\n' then ['\\', 'n']
  else if c = '\r' then ['\\', 'r']
  else if c = '\t' then ['\\', 't']
  else if isPrintable c then [c]
  else if n < 0x100 then '\\' :: 'x' :: hexDigits 2 n
  else if n < 0x10000 then '\\' :: 'u' :: hexDigits 4 n
  else '\\' :: 'U' :: hexDigits 8 n

def quoteMark (cs : List Char) : Char :=
  if cs.contains '\x27' && !cs.contains '\x22' then '\x22' else '\x27'

def quoted (s : String) : String :=
  let mark := quoteMark s.toList
  String.ofList (mark :: s.toList.flatMap (escapeQuoted mark) ++ [mark])

def quotedBytes (bytes : List UInt8) : String :=
  let cs := bytes.map fun b => Char.ofNat b.toNat
  let mark := quoteMark cs
  let escape (c : Char) : List Char :=
    if c.toNat < 127 then escapeQuoted mark c else '\\' :: 'x' :: hexDigits 2 c.toNat
  String.ofList ('b' :: mark :: cs.flatMap escape ++ [mark])

def quotedList (items : List String) : String :=
  "[" ++ String.intercalate ", " (items.map quoted) ++ "]"

end WorkspaceImport.Text
