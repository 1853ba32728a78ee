import WorkspaceImport.Shell.Program.Text
/-!
Programs that put lines in order and drop repeated ones. Lines are compared by their keys, one after the
other, and by all of their bytes at last.
-/
namespace WorkspaceImport.Shell.Program

/-- A part of a line by which it is compared: where it begins and ends, counted in fields and characters
from one, and the letters of its own options. An end of character zero is that of the field. -/
structure SortKey where
  firstField : Nat
  firstChar : Nat
  last : Option (Nat × Nat)
  letters : List Char
  skipsAtEnd : Bool

namespace SortKey

def placeAt? (cs : List Char) : Option (Nat × Option Nat × List Char × List Char) :=
  let field := cs.takeWhile isDigit
  let rest := cs.drop field.length
  let (char, rest) : Option (List Char) × List Char :=
    match rest with
    | '.' :: more => (some (more.takeWhile isDigit), more.dropWhile isDigit)
    | _ => (none, rest)
  let letters := rest.takeWhile fun c => ['b', 'd', 'f', 'i', 'n', 'r', 'g', 'h', 'V', 'M'].contains c
  if field.isEmpty then none
  else some (Print.natOf field, char.map Print.natOf, letters, rest.drop letters.length)

def ofText? (s : String) : Option SortKey := do
  let (field, char, letters, rest) ← placeAt? s.toList
  match rest with
  | [] => some ⟨field, char.getD 1, none, letters, false⟩
  | ',' :: more =>
    let (lastField, lastChar, moreLetters, rest) ← placeAt? more
    if rest.isEmpty then
      some ⟨field, char.getD 1, some (lastField, lastChar.getD 0), letters ++ moreLetters,
        moreLetters.contains 'b'⟩
    else none
  | _ => none

def isBlank (c : Char) : Bool :=
  c = ' ' || c = '\t' || c = '\n'

def dropFields (mark : Option Char) : Nat → List Char → List Char
  | 0, cs => cs
  | n + 1, cs =>
    match mark with
    | some m => dropFields mark n ((cs.dropWhile (· ≠ m)).drop 1)
    | none => dropFields mark n ((cs.dropWhile isBlank).dropWhile fun c => !isBlank c)

def fieldsLength (mark : Option Char) : Nat → List Char → Nat
  | 0, _ => 0
  | n + 1, cs =>
    match mark with
    | some m =>
      let field := cs.takeWhile (· ≠ m)
      if n = 0 || field.length = cs.length then field.length
      else field.length + 1 + fieldsLength mark n (cs.drop (field.length + 1))
    | none =>
      let blanks := cs.takeWhile isBlank
      let field := (cs.drop blanks.length).takeWhile fun c => !isBlank c
      let size := blanks.length + field.length
      size + fieldsLength mark n (cs.drop size)

def part (k : SortKey) (mark : Option Char) (letters : List Char) (line : List Char) : List Char :=
  let start := dropFields mark (k.firstField - 1) line
  let start := if letters.contains 'b' then start.dropWhile isBlank else start
  let start := start.drop (k.firstChar - 1)
  let stop :=
    match k.last with
    | none => line.length
    | some (field, 0) => fieldsLength mark field line
    | some (field, char) =>
      let rest := dropFields mark (field - 1) line
      let skipped := if k.skipsAtEnd then (rest.takeWhile isBlank).length else 0
      min line.length (line.length - rest.length + skipped + char)
  start.take (stop - (line.length - start.length))

end SortKey

/-- A decimal number at the front of a text: its sign, the digits before the point without zeros at
their front, and those after it without zeros at their end. -/
def decimalAt (cs : List Char) : Bool × List Char × List Char :=
  let cs := cs.dropWhile SortKey.isBlank
  let (negative, body) : Bool × List Char :=
    match cs with
    | '-' :: rest => (true, rest)
    | _ => (false, cs)
  let whole := body.takeWhile isDigit
  let fraction :=
    match body.drop whole.length with
    | '.' :: more => more.takeWhile isDigit
    | _ => []
  let whole := whole.dropWhile (· = '0')
  let fraction := (fraction.reverse.dropWhile (· = '0')).reverse
  (negative && !(whole.isEmpty && fraction.isEmpty), whole, fraction)

def compareTexts (a b : List Char) : Ordering :=
  if a < b then .lt else if b < a then .gt else .eq

def compareDecimals (a b : List Char) : Ordering :=
  let (aNegative, aWhole, aFraction) := decimalAt a
  let (bNegative, bWhole, bFraction) := decimalAt b
  let sizes : Ordering :=
    if aWhole.length < bWhole.length then .lt
    else if bWhole.length < aWhole.length then .gt
    else
      match compareTexts aWhole bWhole with
      | .eq => compareTexts aFraction bFraction
      | o => o
  match aNegative, bNegative with
  | false, false => sizes
  | true, true => sizes.swap
  | true, false => .lt
  | false, true => .gt

def unitRank (cs : List Char) : Nat :=
  let cs := (cs.dropWhile SortKey.isBlank).dropWhile fun c => c = '-' || c = '.' || isDigit c
  match cs.head? with
  | some c =>
    let units := "KMGTPEZY".toList
    ((units.findIdx? (· = c.toUpper)).map (· + 1)).getD 0
  | none => 0

def compareParts (letters : List Char) (a b : List Char) : Ordering :=
  let order : Ordering :=
    if letters.contains 'n' || letters.contains 'g' then compareDecimals a b
    else if letters.contains 'h' then
      match compare (unitRank a) (unitRank b) with
      | .eq => compareDecimals a b
      | o => o
    else
      let kept (cs : List Char) : List Char :=
        let cs := if letters.contains 'd' then
          cs.filter fun c => SortKey.isBlank c || isNamePart c && c ≠ '_' else cs
        let cs := if letters.contains 'i' then cs.filter fun c => isShown false c else cs
        if letters.contains 'f' then cs.map Char.toUpper else cs
      compareTexts (kept a) (kept b)
  if letters.contains 'r' then order.swap else order

structure SortOrder where
  keys : List SortKey
  letters : List Char
  mark : Option Char
  isStable : Bool
  isUnique : Bool

namespace SortOrder

def byKeys (o : SortOrder) (a b : List Char) : Ordering :=
  if o.keys.isEmpty then
    let cut (cs : List Char) : List Char :=
      if o.letters.contains 'b' then cs.dropWhile SortKey.isBlank else cs
    compareParts o.letters (cut a) (cut b)
  else
    o.keys.foldl (fun found k =>
      match found with
      | .eq =>
        let letters := if k.letters.isEmpty then o.letters else k.letters
        compareParts letters (k.part o.mark letters a) (k.part o.mark letters b)
      | found => found) .eq

def whole (o : SortOrder) (a b : List Char) : Ordering :=
  match o.byKeys a b with
  | .eq =>
    if o.isStable || o.isUnique then .eq
    else if o.letters.contains 'r' then compareTexts b a else compareTexts a b
  | found => found

end SortOrder

def withoutRepeats (same : List Char → List Char → Bool) (last : Option (List Char)) :
    List (List Char) → List (List Char)
  | [] => []
  | l :: rest =>
    if last.any (same · l) then withoutRepeats same last rest
    else l :: withoutRepeats same (some l) rest

def sortSwitches : List Switch :=
  [⟨'b', "ignore-leading-blanks", false⟩, ⟨'d', "dictionary-order", false⟩,
    ⟨'f', "ignore-case", false⟩, ⟨'g', "general-numeric-sort", false⟩,
    ⟨'h', "human-numeric-sort", false⟩, ⟨'i', "ignore-nonprinting", false⟩,
    ⟨'n', "numeric-sort", false⟩, ⟨'r', "reverse", false⟩, ⟨'u', "unique", false⟩,
    ⟨'s', "stable", false⟩, ⟨'c', "check", false⟩, ⟨'C', "", false⟩, ⟨'m', "merge", false⟩,
    ⟨'z', "zero-terminated", false⟩, taking 'k' "key", taking 't' "field-separator",
    taking 'o' "output"]

def disorder? (o : SortOrder) (number : Nat) : List (List Char) → Option (Nat × List Char)
  | a :: b :: rest =>
    let found := o.whole a b
    if found = .gt || (o.isUnique && found = .eq) then some (number + 1, b)
    else disorder? o (number + 1) (b :: rest)
  | _ => none

def sort : Action := fun words => do
  let u ← use sortSwitches false 2 words
  let keys ← (u.options.filter (·.1 = 'k')).mapM fun e => do
    match SortKey.ofText? e.2 with
    | some k =>
      if k.firstField = 0 then
        fail ("-: invalid field specification " ++ (← quoted e.2)) 2
      else pure k
    | none =>
      fail ("invalid number at field start: invalid count at start of " ++ (← quoted e.2)) 2
  let mark : Option Char ←
    match u.word? 't' with
    | none => pure none
    | some word =>
      match word.toList with
      | [c] => pure (some c)
      | ['\\', '0'] => pure (some '\x00')
      | [] => fail "empty tab" 2
      | _ => fail ("multi-character tab " ++ (← quoted word)) 2
  let letters := (u.options.map (·.1)).filter ['b', 'd', 'f', 'g', 'h', 'i', 'n', 'r'].contains
  let order : SortOrder := ⟨keys, letters, mark, u.has 's', u.has 'u'⟩
  let files := orInput u.words
  let texts ← files.mapM fun word => do
    match ← contentOf word with
    | .ok text => pure text
    | .error .isDirectory => fail ("read failed: " ++ word ++ ": Is a directory") 2
    | .error cause => fail ("cannot read: " ++ word ++ ": " ++ systemMessage cause) 2
  let stop := if u.has 'z' then '\x00' else '\n'
  let lines := texts.flatMap fun t =>
    let pieces := t.toList.splitOn stop
    if pieces.getLast? = some [] then pieces.dropLast else pieces
  if u.has 'c' || u.has 'C' then
    match disorder? order 1 lines with
    | none => pure 0
    | some (n, line) =>
      if u.has 'c' then
        note (files.head?.getD "-" ++ ":" ++ toString n ++ ": disorder: " ++ String.ofList line)
      pure 1
  else
    let sorted := lines.mergeSort fun a b => order.whole a b ≠ .gt
    let kept :=
      if order.isUnique then withoutRepeats (fun a b => order.byKeys a b = .eq) none sorted else sorted
    let text := String.join (kept.map fun l => String.ofList (l ++ [stop]))
    match u.word? 'o' with
    | none =>
      output text
      pure 0
    | some path =>
      match (← get).findTarget path with
      | .ok (_, some (.directory _)) => fail ("open failed: " ++ path ++ ": Is a directory") 2
      | .error cause => fail ("open failed: " ++ path ++ ": " ++ systemMessage cause) 2
      | .ok (place, _) =>
        modify fun s => { s with files := { s.files with
          root := s.files.root.put (.file (toBytes text)) place } }
        pure 0

def runsOf (view : String → String) : List String → List (String × Nat)
  | [] => []
  | l :: rest =>
    match runsOf view rest with
    | (m, n) :: more => if view l = view m then (l, n + 1) :: more else (l, 1) :: (m, n) :: more
    | [] => [(l, 1)]

def unique : Action := fun words => do
  let u ← use [⟨'c', "count", false⟩, ⟨'d', "repeated", false⟩, ⟨'u', "unique", false⟩,
    ⟨'D', "", false⟩, ⟨'i', "ignore-case", false⟩, taking 'f' "skip-fields",
    taking 's' "skip-chars", taking 'w' "check-chars"] false 1 words
  let amount (c : Char) (what : String) : Run (Option Nat) := do
    match u.word? c with
    | none => pure none
    | some word =>
      match word.toNat? with
      | some n => pure (some n)
      | none => fail (word ++ ": invalid number of " ++ what) 1
  let fields ← amount 'f' "fields to skip"
  let skipped ← amount 's' "bytes to skip"
  let width ← amount 'w' "bytes to compare"
  match u.words with
  | _ :: _ :: surplus :: _ => misuse ("extra operand " ++ (← quoted surplus)) 1
  | words =>
    let source := words.head?.getD "-"
    match ← contentOf source with
    | .error .isDirectory => fail ("error reading '" ++ source ++ "'") 1
    | .error cause => fail (source ++ ": " ++ systemMessage cause) 1
    | .ok text =>
      let view (l : String) : String :=
        let cs := SortKey.dropFields none (fields.getD 0) l.toList
        let cs := cs.drop (skipped.getD 0)
        let cs := match width with | some n => cs.take n | none => cs
        String.ofList (if u.has 'i' then cs.map Char.toLower else cs)
      let runs := runsOf view (bareLines text)
      let kept := runs.filter fun r =>
        (!u.has 'd' && !u.has 'D' || 1 < r.2) && (!u.has 'u' || r.2 = 1)
      let shown := String.join (kept.map fun r =>
        let line := if u.has 'c' then String.ofList (column 7 r.2) ++ " " ++ r.1 ++ "\n"
          else r.1 ++ "\n"
        if u.has 'D' then String.join (List.replicate r.2 line) else line)
      match words[1]? with
      | none | some "-" =>
        output shown
        pure 0
      | some path =>
        match (← get).findTarget path with
        | .ok (_, some (.directory _)) => fail (path ++ ": Is a directory") 1
        | .error cause => fail (path ++ ": " ++ systemMessage cause) 1
        | .ok (place, _) =>
          modify fun s => { s with files := { s.files with
            root := s.files.root.put (.file (toBytes shown)) place } }
          pure 0

end WorkspaceImport.Shell.Program
