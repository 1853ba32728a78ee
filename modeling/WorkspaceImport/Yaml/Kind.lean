import WorkspaceImport.Json.Reader
import WorkspaceImport.Yaml.Cursor
/-!
The kinds of nodes. A tag names a kind; a plain scalar without a tag gets its kind from its text. Each
kind of scalar has a small grammar of its own; a text that fits none of them is a text.
-/
namespace WorkspaceImport.Yaml

inductive Kind where
  | text
  | null
  | bool
  | int
  | float
  | binary
  | moment
  | merge
  | default
  | sequence
  | mapping
  | pairs
  | set
  | unknown
  deriving DecidableEq

def tagNamespace : String := "tag:yaml.org,2002:"

namespace Kind

def tags : List (String × Kind) :=
  [("str", text), ("null", null), ("bool", bool), ("int", int), ("float", float),
    ("binary", binary), ("timestamp", moment), ("merge", merge), ("value", default),
    ("seq", sequence), ("map", mapping), ("omap", pairs), ("pairs", pairs), ("set", set)]

def ofTag (tag : String) : Kind :=
  ((tags.find? fun k => tagNamespace ++ k.1 = tag).map (·.2)).getD unknown

def trueWords : List String :=
  ["yes", "Yes", "YES", "true", "True", "TRUE", "on", "On", "ON"]

def falseWords : List String :=
  ["no", "No", "NO", "false", "False", "FALSE", "off", "Off", "OFF"]

def nullWords : List String :=
  ["", "~", "null", "Null", "NULL"]

def isDigitOrBar (c : Char) : Bool :=
  Json.isDigit c || c = '_'

def dropSign : List Char → List Char
  | '-' :: rest => rest
  | '+' :: rest => rest
  | cs => cs

def splitColons : List Char → List (List Char)
  | [] => [[]]
  | ':' :: rest => [] :: splitColons rest
  | c :: rest =>
    match splitColons rest with
    | [] => [[c]]
    | piece :: more => (c :: piece) :: more

def isSixtieth : List Char → Bool
  | [a] => Json.isDigit a
  | [a, b] => '0' ≤ a && a ≤ '5' && Json.isDigit b
  | _ => false

def isBarred (first : Char → Bool) : List Char → Bool
  | [] => false
  | c :: rest => first c && rest.all isDigitOrBar

def isNonzeroDigit (c : Char) : Bool :=
  '1' ≤ c && c ≤ '9'

def isInt (cs : List Char) : Bool :=
  let body := dropSign cs
  match body with
  | ['0'] => true
  | '0' :: 'b' :: digits =>
    !digits.isEmpty && digits.all fun c => c = '0' || c = '1' || c = '_'
  | '0' :: 'x' :: digits =>
    !digits.isEmpty && digits.all fun c => (Json.hexValue? c).isSome || c = '_'
  | '0' :: digits => digits.all fun c => ('0' ≤ c && c ≤ '7') || c = '_'
  | _ =>
    match splitColons body with
    | whole :: parts => isBarred isNonzeroDigit whole && parts.all isSixtieth
    | [] => false

def isExponent : List Char → Bool
  | e :: sign :: digits =>
    (e = 'e' || e = 'E') && (sign = '+' || sign = '-') && !digits.isEmpty && digits.all Json.isDigit
  | _ => false

def isFraction (cs : List Char) : Bool :=
  let rest := cs.dropWhile isDigitOrBar
  rest.isEmpty || isExponent rest

def infinityWords : List String := [".inf", ".Inf", ".INF"]

def nanWords : List String := [".nan", ".NaN", ".NAN"]

def isFloat (cs : List Char) : Bool :=
  let body := dropSign cs
  let whole := body.takeWhile (· ≠ '.')
  match body.dropWhile (· ≠ '.') with
  | [] => false
  | _ :: fraction =>
    infinityWords.contains (String.ofList body) || nanWords.contains (String.ofList cs) ||
      (isBarred Json.isDigit whole && isFraction fraction) ||
      (cs.head? = some '.' && isBarred Json.isDigit (fraction.takeWhile isDigitOrBar) &&
        isFraction fraction) ||
      (match splitColons whole with
        | first :: part :: parts =>
          isBarred Json.isDigit first && (part :: parts).all isSixtieth &&
            fraction.all isDigitOrBar
        | _ => false)

def digits? (least greatest : Nat) (cs : List Char) : Option (List Char × List Char) :=
  let run := (cs.take greatest).takeWhile Json.isDigit
  if least ≤ run.length then some (run, cs.drop run.length) else none

def char? (c : Char) : List Char → Option (List Char)
  | d :: rest => if d = c then some rest else none
  | [] => none

structure MomentText where
  year : List Char
  month : List Char
  day : List Char
  time : Option (List Char × List Char × List Char)
  fraction : List Char
  offset : Option (Option (Bool × List Char × List Char))

def isGapChar (c : Char) : Bool :=
  c = ' ' || c = '\t'

def offset? (cs : List Char) : Option (Option (Option (Bool × List Char × List Char))) :=
  if cs.isEmpty then some none
  else
    match cs.dropWhile isGapChar with
    | ['Z'] => some (some none)
    | sign :: rest =>
      if sign = '+' ∨ sign = '-' then do
        let (hours, rest) ← digits? 1 2 rest
        match rest with
        | [] => some (some (some (sign = '-', hours, [])))
        | ':' :: rest =>
          let (minutes, rest) ← digits? 2 2 rest
          if rest.isEmpty then some (some (some (sign = '-', hours, minutes))) else none
        | _ => none
      else none
    | [] => none

def dropTimeMark? (cs : List Char) : Option (List Char) :=
  match cs with
  | 'T' :: rest => some rest
  | 't' :: rest => some rest
  | c :: _ => if isGapChar c then some (cs.dropWhile isGapChar) else none
  | [] => none

def momentText? (cs : List Char) : Option MomentText := do
  let (year, rest) ← digits? 4 4 cs
  let (month, rest) ← digits? 1 2 (← char? '-' rest)
  let (day, rest) ← digits? 1 2 (← char? '-' rest)
  if rest.isEmpty then some ⟨year, month, day, none, [], none⟩
  else do
    let (hour, rest) ← digits? 1 2 (← dropTimeMark? rest)
    let (minute, rest) ← digits? 2 2 (← char? ':' rest)
    let (second, rest) ← digits? 2 2 (← char? ':' rest)
    let (fraction, rest) :=
      match rest with
      | '.' :: more => (more.takeWhile Json.isDigit, more.dropWhile Json.isDigit)
      | _ => ([], rest)
    some ⟨year, month, day, some (hour, minute, second), fraction, ← offset? rest⟩

def isMoment (cs : List Char) : Bool :=
  match momentText? cs with
  | some m => m.time.isSome || (m.month.length = 2 && m.day.length = 2)
  | none => false

def ofLine (s : String) : Kind :=
  let cs := s.toList
  if trueWords.contains s || falseWords.contains s then bool
  else if isFloat cs then float
  else if isInt cs then int
  else if s = "<<" then merge
  else if nullWords.contains s then null
  else if isMoment cs then moment
  else if s = "=" then default
  else if s = "!" || s = "&" || s = "*" then unknown
  else text

def withoutFinalBreak (cs : List Char) : List Char :=
  if cs.getLast? = some '\n' then cs.dropLast else cs

def ofText (s : String) : Kind :=
  if s = "\n" then text else ofLine (String.ofList (withoutFinalBreak s.toList))

end Kind

end WorkspaceImport.Yaml
