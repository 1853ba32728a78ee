import WorkspaceImport.Data.Value
/-!
Reading JSON. The reader takes the strict grammar with three additions: the numbers `NaN`,
`Infinity` and `-Infinity`, whole numbers of any size up to a limit of digits, and objects that
repeat a key, of which the last value counts at the place of the first. Lists and objects may be
nested up to a limit.
-/
namespace WorkspaceImport.Json

inductive Cause where
  | byteOrderMark
  | value
  | propertyName
  | colon
  | comma
  | openText
  | control
  | escape
  | unicodeEscape
  | extra
  deriving DecidableEq

/-- A fault, and how many characters were left when it was found. Too many digits in a whole number
are refused by the number itself, not by the grammar. -/
inductive Fault where
  | grammar (cause : Cause) (left : Nat)
  | digits (count : Nat)
  deriving DecidableEq

/-- Why the reader stops: at a fault of the text, or at a bracket inside too many others, whatever
follows. -/
inductive Stop where
  | fault (f : Fault)
  | nestedTooDeep
  deriving DecidableEq

def digitLimit : Nat := 4300

def isSpace (c : Char) : Bool :=
  c = ' ' || c = '\t' || c = '\n' || c = '\r'

def skipSpace (cs : List Char) : List Char :=
  cs.dropWhile isSpace

theorem length_dropWhile_le {α : Type} (p : α → Bool) (l : List α) :
    (l.dropWhile p).length ≤ l.length :=
  (List.dropWhile_sublist p).length_le

theorem length_skipSpace_le (cs : List Char) : (skipSpace cs).length ≤ cs.length :=
  length_dropWhile_le _ _

theorem length_lt_of_skipSpace {cs rest : List Char} {c : Char} (found : skipSpace cs = c :: rest) :
    rest.length < cs.length := by
  have short := length_skipSpace_le cs
  rw [found] at short
  exact short

abbrev Rest (cs : List Char) := { rest : List Char // rest.length ≤ cs.length }

def hexValue? (c : Char) : Option Nat :=
  let n := c.toNat
  if 48 ≤ n ∧ n ≤ 57 then some (n - 48)
  else if 65 ≤ n ∧ n ≤ 70 then some (n - 55)
  else if 97 ≤ n ∧ n ≤ 102 then some (n - 87)
  else none

def hex4? (a b c d : Char) : Option Nat := do
  pure (((← hexValue? a) * 16 + (← hexValue? b)) * 256 + (← hexValue? c) * 16 + (← hexValue? d))

def simpleEscape? (c : Char) : Option Char :=
  if c = '\x22' ∨ c = '\\' ∨ c = '/' then some c
  else if c = 'b' then some '\x08'
  else if c = 'f' then some '\x0c'
  else if c = 'n' then some '\n'
  else if c = 'r' then some '\r'
  else if c = 't' then some '\t'
  else none

def pairScalar (high low : Nat) : Char :=
  Char.ofNat (0x10000 + (high - 0xD800) * 0x400 + (low - 0xDC00))

def isHigh (n : Nat) : Bool := 0xD800 ≤ n && n < 0xDC00
def isLow (n : Nat) : Bool := 0xDC00 ≤ n && n < 0xE000

/-- A single unit; a lone surrogate has no character and becomes the replacement character. -/
def unitScalar (n : Nat) : Char :=
  if 0xD800 ≤ n ∧ n < 0xE000 then Char.ofNat 0xFFFD else Char.ofNat n

/-- The character of a `\\u` escape, after its `u`. Something has to follow the four digits. Two
escapes that make up a surrogate pair are read together. -/
def readUnit (cs : List Char) : Except Fault (Char × Rest cs) :=
  match cs with
  | a :: b :: c :: d :: '\\' :: 'u' :: e :: f :: g :: h :: i :: tail =>
    match hex4? a b c d with
    | none => .error (.grammar .unicodeEscape (tail.length + 12))
    | some high =>
      if isHigh high then
        match hex4? e f g h with
        | none => .error (.grammar .unicodeEscape (tail.length + 6))
        | some low =>
          if isLow low then .ok (pairScalar high low, ⟨i :: tail, by simp⟩)
          else .ok (unitScalar high, ⟨'\\' :: 'u' :: e :: f :: g :: h :: i :: tail, by simp⟩)
      else .ok (unitScalar high, ⟨'\\' :: 'u' :: e :: f :: g :: h :: i :: tail, by simp⟩)
  | a :: b :: c :: d :: e :: more =>
    match hex4? a b c d with
    | none => .error (.grammar .unicodeEscape (more.length + 6))
    | some n => .ok (unitScalar n, ⟨e :: more, by simp⟩)
  | _ => .error (.grammar .unicodeEscape (cs.length + 1))

/-- The rest of a text; `opening` is what was left at its opening quote, and `done` holds its
characters so far, newest first. -/
def readText (opening : List Char) (done : List Char) (cs : List Char) :
    Except Fault (String × Rest cs) :=
  match cs with
  | [] => .error (.grammar .openText opening.length)
  | '\x22' :: rest => .ok (String.ofList done.reverse, ⟨rest, by simp⟩)
  | '\\' :: [] => .error (.grammar .openText opening.length)
  | '\\' :: 'u' :: after =>
    match readUnit after with
    | .error fault => .error fault
    | .ok (ch, more) =>
      have := more.2
      match readText opening (ch :: done) more.1 with
      | .error fault => .error fault
      | .ok (s, left) => .ok (s, ⟨left.1, by have := left.2; simp; omega⟩)
  | '\\' :: e :: more =>
    match simpleEscape? e with
    | none => .error (.grammar .escape (more.length + 2))
    | some ch =>
      match readText opening (ch :: done) more with
      | .error fault => .error fault
      | .ok (s, left) => .ok (s, ⟨left.1, by have := left.2; simp; omega⟩)
  | c :: rest =>
    if c.toNat < 32 then .error (.grammar .control (rest.length + 1))
    else
      match readText opening (c :: done) rest with
      | .error fault => .error fault
      | .ok (s, left) => .ok (s, ⟨left.1, by have := left.2; simp; omega⟩)
termination_by cs.length
decreasing_by all_goals (simp; try omega)

def isDigit (c : Char) : Bool := 48 ≤ c.toNat && c.toNat ≤ 57

def natOfDigits (ds : List Char) : Nat :=
  ds.foldl (fun n d => n * 10 + (d.toNat - 48)) 0

/-- The parts of a number: sign, whole digits, digits after the point, exponent. -/
structure NumberText where
  negative : Bool
  whole : List Char
  fraction : List Char
  exponent : Option Int

def NumberText.value (n : NumberText) : Except Fault Value :=
  if n.fraction.isEmpty && n.exponent.isNone then
    if digitLimit < n.whole.length then .error (.digits n.whole.length)
    else
      let k : Int := natOfDigits n.whole
      .ok (.int (if n.negative then -k else k))
  else
    .ok (.float (.ofDecimal n.negative (natOfDigits (n.whole ++ n.fraction))
      (n.exponent.getD 0 - n.fraction.length)))

def digitsAt (cs : List Char) : List Char × Rest cs :=
  (cs.takeWhile isDigit, ⟨cs.dropWhile isDigit, length_dropWhile_le _ _⟩)

def minusAt (cs : List Char) : Bool × Rest cs :=
  match cs with
  | '-' :: rest => (true, ⟨rest, by simp⟩)
  | other => (false, ⟨other, Nat.le_refl _⟩)

def wholeAt (cs : List Char) : List Char × Rest cs :=
  match cs with
  | '0' :: rest => (['0'], ⟨rest, by simp⟩)
  | other => digitsAt other

/-- The digits after a point. A point without digits does not belong to a number. -/
def fractionAt (cs : List Char) : List Char × Rest cs :=
  match cs with
  | '.' :: after =>
    match digitsAt after with
    | ([], _) => ([], ⟨'.' :: after, Nat.le_refl _⟩)
    | (ds, rest) => (ds, ⟨rest.1, Nat.le_succ_of_le rest.2⟩)
  | other => ([], ⟨other, Nat.le_refl _⟩)

def signAt (cs : List Char) : Bool × Rest cs :=
  match cs with
  | '+' :: rest => (false, ⟨rest, by simp⟩)
  | other => minusAt other

/-- An exponent. Its letter and its sign do not belong to a number without digits after them. -/
def exponentAt (cs : List Char) : Option Int × Rest cs :=
  match cs with
  | [] => (none, ⟨[], Nat.le_refl _⟩)
  | e :: after =>
    if e = 'e' ∨ e = 'E' then
      let (minus, signed) := signAt after
      match digitsAt signed.1 with
      | ([], _) => (none, ⟨e :: after, Nat.le_refl _⟩)
      | (ds, rest) =>
        let k : Int := natOfDigits ds
        (some (if minus then -k else k),
          ⟨rest.1, Nat.le_succ_of_le (Nat.le_trans rest.2 signed.2)⟩)
    else (none, ⟨e :: after, Nat.le_refl _⟩)

def numberText? (cs : List Char) : Option (NumberText × Rest cs) :=
  let (negative, body) := minusAt cs
  let (whole, afterWhole) := wholeAt body.1
  if whole.isEmpty then none
  else
    let (fraction, afterFraction) := fractionAt afterWhole.1
    let (exponent, rest) := exponentAt afterFraction.1
    some (⟨negative, whole, fraction, exponent⟩,
      ⟨rest.1, Nat.le_trans rest.2 (Nat.le_trans afterFraction.2
        (Nat.le_trans afterWhole.2 body.2))⟩)

def words : List (List Char × Value) := [
  ("null".toList, .null),
  ("true".toList, .bool true),
  ("false".toList, .bool false),
  ("NaN".toList, .float .nan),
  ("Infinity".toList, .float (.infinite false)),
  ("-Infinity".toList, .float (.infinite true))]

def word? (cs : List Char) : Option (Value × Rest cs) :=
  (words.find? fun w => w.1.isPrefixOf cs).map fun w => (w.2, ⟨cs.drop w.1.length, by simp⟩)

mutual

/-- The value at the front of a text; `depth` brackets may be opened inside each other. -/
def readValue (depth : Nat) (cs : List Char) : Except Stop (Value × Rest cs) :=
  match cs with
  | [] => .error (.fault (.grammar .value 0))
  | '\x22' :: rest => do
    let (s, left) ← (readText cs [] rest).mapError .fault
    pure (.text s, ⟨left.1, by have := left.2; simp; omega⟩)
  | '[' :: rest =>
    match depth with
    | 0 => .error .nestedTooDeep
    | inner + 1 => do
      let (items, left) ← readItems inner true [] rest
      pure (.list items, ⟨left.1, by have := left.2; simp; omega⟩)
  | '{' :: rest =>
    match depth with
    | 0 => .error .nestedTooDeep
    | inner + 1 => do
      let (entries, left) ← readMembers inner true [] rest
      pure (.map entries, ⟨left.1, by have := left.2; simp; omega⟩)
  | c :: rest =>
    match word? (c :: rest) with
    | some found => .ok found
    | none =>
      match numberText? (c :: rest) with
      | some (n, left) => (n.value.mapError .fault).map fun v => (v, left)
      | none => .error (.fault (.grammar .value (rest.length + 1)))
termination_by 2 * cs.length
decreasing_by all_goals (simp; try omega)

/-- The items of a list after `done`; only a list without items may close at once. -/
def readItems (depth : Nat) (first : Bool) (done : List Value) (cs : List Char) :
    Except Stop (List Value × Rest cs) :=
  have short : (skipSpace cs).length ≤ cs.length := length_skipSpace_le cs
  if first && (skipSpace cs).head? == some ']' then
    .ok (done.reverse, ⟨(skipSpace cs).drop 1, by simp; omega⟩)
  else do
    let (v, left) ← readValue depth (skipSpace cs)
    match same : skipSpace left.1 with
    | ',' :: after =>
      have shorter : after.length < cs.length := by
        have next := length_lt_of_skipSpace same
        have := left.2
        omega
      let (items, left') ← readItems depth false (v :: done) after
      pure (items, ⟨left'.1, by have := left'.2; omega⟩)
    | ']' :: after =>
      pure ((v :: done).reverse, ⟨after, by
        have next := length_lt_of_skipSpace same
        have := left.2
        omega⟩)
    | other => .error (.fault (.grammar .comma other.length))
termination_by 2 * cs.length + 1
decreasing_by all_goals omega

def readMembers (depth : Nat) (first : Bool) (done : List (Value × Value)) (cs : List Char) :
    Except Stop (List (Value × Value) × Rest cs) :=
  match found : skipSpace cs with
  | '\x22' :: rest => do
    have inner : rest.length < cs.length := length_lt_of_skipSpace found
    let (key, left) ← (readText (skipSpace cs) [] rest).mapError .fault
    match colon : skipSpace left.1 with
    | ':' :: after =>
      have shorter : after.length < cs.length := by
        have next := length_lt_of_skipSpace colon
        have := left.2
        omega
      have shorter' : (skipSpace after).length < cs.length :=
        Nat.lt_of_le_of_lt (length_skipSpace_le after) shorter
      let (v, left') ← readValue depth (skipSpace after)
      let entries := Value.putEntry (.text key) v done
      match same : skipSpace left'.1 with
      | ',' :: more =>
        have shorter : more.length < cs.length := by
          have next := length_lt_of_skipSpace same
          have := left'.2
          omega
        let (members, left'') ← readMembers depth false entries more
        pure (members, ⟨left''.1, by have := left''.2; omega⟩)
      | '}' :: more =>
        pure (entries, ⟨more, by
          have next := length_lt_of_skipSpace same
          have := left'.2
          omega⟩)
      | other => .error (.fault (.grammar .comma other.length))
    | other => .error (.fault (.grammar .colon other.length))
  | '}' :: rest =>
    if first then .ok (done, ⟨rest, Nat.le_of_lt (length_lt_of_skipSpace found)⟩)
    else .error (.fault (.grammar .propertyName (rest.length + 1)))
  | other => .error (.fault (.grammar .propertyName other.length))
termination_by 2 * cs.length + 1
decreasing_by all_goals omega

end

def readChars (cs : List Char) : Except Stop Value :=
  if cs.head? = some '\uFEFF' then .error (.fault (.grammar .byteOrderMark cs.length))
  else do
    let (v, left) ← readValue nestingLimit (skipSpace cs)
    match skipSpace left.1 with
    | [] => pure v
    | more => .error (.fault (.grammar .extra more.length))

def read (s : String) : Except Stop Value :=
  readChars s.toList

def Cause.message : Cause → String
  | .byteOrderMark => "Unexpected UTF-8 BOM (decode using utf-8-sig)"
  | .value => "Expecting value"
  | .propertyName => "Expecting property name enclosed in double quotes"
  | .colon => "Expecting ':' delimiter"
  | .comma => "Expecting ',' delimiter"
  | .openText => "Unterminated string starting at"
  | .control => "Invalid control character at"
  | .escape => "Invalid \\escape"
  | .unicodeEscape => "Invalid \\uXXXX escape"
  | .extra => "Extra data"

/-- The text of a fault in a document: lines and columns count from one, characters from zero. -/
def Fault.message (document : String) : Fault → String
  | .grammar cause left =>
    let cs := document.toList
    let offset := cs.length - left
    let before := cs.take offset
    let line := before.count '\n' + 1
    let column := (before.reverse.takeWhile (· ≠ '\n')).length + 1
    cause.message ++ ": line " ++ toString line ++ " column " ++ toString column ++ " (char " ++
      toString offset ++ ")"
  | .digits count =>
    "Exceeds the limit (" ++ toString digitLimit ++
      " digits) for integer string conversion: value has " ++ toString count ++
      " digits; use sys.set_int_max_str_digits() to increase the limit"

end WorkspaceImport.Json
