import WorkspaceImport.Shell.Bytes
/-!
Escapes in what is printed. The shell's own commands and the programs of the same names know different
ones, and in words an octal number may have a zero before its digits.
-/
namespace WorkspaceImport.Shell

inductive Printer where
  | shell
  | echo
  | printf
  deriving DecidableEq

inductive Escape where
  | text (cs : List Char)
  | stop
  | missingDigits

namespace Escape

def letters : List (Char × Char) :=
  [('a', '\x07'), ('b', '\x08'), ('e', '\x1b'), ('f', '\x0c'), ('n', '\n'), ('r', '\r'), ('t', '\t'),
    ('v', '\x0b'), ('\\', '\\')]

def isOctal (c : Char) : Bool :=
  '0' ≤ c && c ≤ '7'

def isHex (c : Char) : Bool :=
  ('0' ≤ c && c ≤ '9') || ('a' ≤ c && c ≤ 'f') || ('A' ≤ c && c ≤ 'F')

def hexDigit (c : Char) : Nat :=
  if c ≤ '9' then c.toNat - 48 else if c ≤ 'F' then c.toNat - 55 else c.toNat - 87

def byte (n : Nat) : List Char :=
  [Char.ofNat (n % 256)]

def octal (digits : List Char) : List Char :=
  byte (digits.foldl (fun n c => n * 8 + (c.toNat - 48)) 0)

def codePoint (isUnicode : Bool) (mark : Char) (digits : List Char) : List Char :=
  let n := digits.foldl (fun n c => n * 16 + hexDigit c) 0
  if n < 128 then byte n
  else if isUnicode then (spread (String.singleton (Char.ofNat n))).toList
  else
    let width := if n < 65536 then 4 else 8
    let mark := if n < 65536 then 'u' else mark
    let shown := (Nat.toDigits 16 n).map Char.toUpper
    '\\' :: mark :: (List.replicate (width - shown.length) '0' ++ shown)

def ofChars (printer : Printer) (inWord isUnicode : Bool) : List Char → Escape × List Char
  | [] => (.text ['\\'], [])
  | c :: rest =>
    match letters.find? (·.1 = c) with
    | some e => (.text [e.2], rest)
    | none =>
      if c = 'c' && (inWord || printer = .printf) then (.stop, [])
      else if c = '\x22' && printer = .printf then (.text ['\x22'], rest)
      else if c = 'x' && printer ≠ .shell then
        let digits := (rest.take 2).takeWhile isHex
        if digits.isEmpty then
          (if printer = .printf then .missingDigits else .text ['\\', 'x'], rest)
        else
          (.text (byte (digits.foldl (fun n d => n * 16 + hexDigit d) 0)), rest.drop digits.length)
      else if (c = 'u' || c = 'U') && printer = .printf then
        let width := if c = 'u' then 4 else 8
        let digits := (rest.take width).takeWhile isHex
        if digits.length < width then (.missingDigits, rest)
        else (.text (codePoint isUnicode c digits), rest.drop digits.length)
      else if isOctal c then
        let from0 := inWord && c = '0' && rest.head?.any isOctal
        let start := if from0 then rest else c :: rest
        let digits := (start.take 3).takeWhile isOctal
        (.text (octal digits), start.drop digits.length)
      else (.text ['\\', c], rest)

end Escape

inductive Printed where
  | whole
  | stopped
  | faulty
  deriving DecidableEq

def unescape (printer : Printer) (isUnicode : Bool) : Nat → List Char → List Char × Printed
  | 0, cs => (cs, .whole)
  | _, [] => ([], .whole)
  | fuel + 1, '\\' :: rest =>
    match Escape.ofChars printer true isUnicode rest with
    | (.text cs, rest) =>
      let (more, printed) := unescape printer isUnicode fuel rest
      (cs ++ more, printed)
    | (.stop, _) => ([], .stopped)
    | (.missingDigits, _) => ([], .faulty)
  | fuel + 1, c :: rest =>
    let (more, printed) := unescape printer isUnicode fuel rest
    (c :: more, printed)

/-- What the shell's `echo` prints: words with a blank between them and a line feed at the end, which
the first word can keep away. -/
def echoText (words : List String) : String :=
  let (words, isClosed) :=
    match words with
    | "-n" :: rest => (rest, false)
    | _ => (words, true)
  let cs := (String.intercalate " " words).toList
  let (text, printed) := unescape .shell false cs.length cs
  String.ofList (text ++ if isClosed && printed = .whole then ['\n'] else [])

/-- The options of the program `echo` at the front of its words: whether the line is closed, whether
escapes count, and the words that are left. -/
def echoOptions (isClosed hasEscapes : Bool) : List String → Bool × Bool × List String
  | [] => (isClosed, hasEscapes, [])
  | word :: rest =>
    match word.toList with
    | '-' :: c :: letters =>
      if (c :: letters).all fun d => d = 'n' || d = 'e' || d = 'E' then
        let last := ((c :: letters).filter (· ≠ 'n')).getLast?
        echoOptions (isClosed && !(c :: letters).contains 'n')
          (match last with | some d => d = 'e' | none => hasEscapes) rest
      else (isClosed, hasEscapes, word :: rest)
    | _ => (isClosed, hasEscapes, word :: rest)

def plainEcho (words : List String) : String :=
  let (isClosed, hasEscapes, words) := echoOptions true false words
  let cs := (String.intercalate " " words).toList
  let (text, printed) := if hasEscapes then unescape .echo false cs.length cs else (cs, .whole)
  String.ofList (text ++ if isClosed && printed = .whole then ['\n'] else [])

end WorkspaceImport.Shell
