import WorkspaceImport.Shell.Format
import WorkspaceImport.Shell.Program.Use
/-!
Programs that print texts, or the lines of files in another way: whole, their first or last ones, with
numbers, turned around, or counted.
-/
namespace WorkspaceImport.Shell.Program

def output (text : String) : Run Unit := do
  if !text.isEmpty then
    if !(← Run.write 1 text) then fail "write error: Bad file descriptor" 1

def echo : Action := fun words => do
  output (plainEcho words)
  pure 0

def printf : Action := fun words => do
  let words := match words with | "--" :: rest => rest | _ => words
  match words with
  | [] => misuse "missing operand" 1
  | format :: rest =>
    let (pieces, status) := formatted .printf (← isUnicode) format rest
    pieces.forM fun (stream, text) => if stream = 2 then note text else output text
    pure status

def directory : Action := fun words => do
  let u ← use (switches "LP") false 1 words
  if !u.words.isEmpty then note "ignoring non-option arguments"
  output ("/" ++ String.intercalate "/" ((← get).files.here.map spread) ++ "\n")
  pure 0

def repeated : Action := fun words => do
  let line := if words.isEmpty then "y\n" else String.intercalate " " words ++ "\n"
  output (String.join (List.replicate 5000 line))
  pure 0

def column (width n : Nat) : List Char :=
  let digits := (toString n).toList
  List.replicate (width - digits.length) ' ' ++ digits

def shownByte (tabs : Bool) (c : Char) : List Char :=
  let n := c.toNat
  let low (n : Nat) : List Char :=
    if n < 32 then ['^', Char.ofNat (n + 64)] else if n = 127 then ['^', '?'] else [Char.ofNat n]
  if c = '\t' && !tabs then [c]
  else if n < 128 then low n
  else ['M', '-'] ++ low (n - 128)

def markedLines (u : Use) (numbersAll : Bool) (number blanks : Nat) :
    List (List Char) → List Char
  | [] => []
  | line :: rest =>
    let isEnded := line.getLast? = some '\n'
    let body := if isEnded then line.dropLast else line
    let isBlank := body.isEmpty
    if u.has 's' && isBlank && 0 < blanks then markedLines u numbersAll number (blanks + 1) rest
    else
      let counts := numbersAll || (u.has 'b' && !isBlank)
      let number := if counts then number + 1 else number
      let shown :=
        if u.has 'v' || u.has 'A' || u.has 'e' || u.has 't' then
          body.flatMap (shownByte (u.has 'A' || u.has 't' || u.has 'T'))
        else if u.has 'T' then body.flatMap fun c => if c = '\t' then ['^', 'I'] else [c]
        else body
      let ends := u.has 'E' || u.has 'A' || u.has 'e'
      (if counts then column 6 number ++ ['\t'] else []) ++ shown ++
        (if isEnded then (if ends then ['$', '\n'] else ['\n']) else []) ++
        markedLines u numbersAll number (if isBlank then blanks + 1 else 0) rest

def forFiles (complaint : String → OsCause → Run Unit) (each : String → String → Run Unit) :
    List String → Run Bool
  | [] => pure true
  | word :: rest => do
    let isGood ←
      match ← contentOf word with
      | .ok text =>
        each word text
        pure true
      | .error cause =>
        complaint word cause
        pure false
    let others ← forFiles complaint each rest
    pure (isGood && others)

def catSwitches : List Switch :=
  [⟨'A', "show-all", false⟩, ⟨'b', "number-nonblank", false⟩, ⟨'e', "", false⟩,
    ⟨'E', "show-ends", false⟩, ⟨'n', "number", false⟩, ⟨'s', "squeeze-blank", false⟩,
    ⟨'t', "", false⟩, ⟨'T', "show-tabs", false⟩, ⟨'u', "", false⟩, ⟨'v', "show-nonprinting", false⟩]

def concatenate : Action := fun words => do
  let u ← use catSwitches false 1 words
  let complaint (word : String) (cause : OsCause) : Run Unit := do
    plainComplaint word cause
    if word = "-" && cause = .badStream then note "closing standard input: Bad file descriptor"
  if u.options.all (·.1 = 'u') then
    return statusOf (← forFiles complaint (fun _ text => output text) (orInput u.words))
  else
    let (found, isGood) ← contents complaint (orInput u.words)
    let lines := linesOf (found.flatMap fun e => e.2.toList)
    output (String.ofList (markedLines u (u.has 'n' && !u.has 'b') 0 0 lines))
    pure (statusOf isGood)

def countAt? (word : String) : Option (Nat × Option Char) :=
  let (sign, body) : Option Char × List Char :=
    match word.toList with
    | '+' :: rest => (some '+', rest)
    | '-' :: rest => (some '-', rest)
    | cs => (none, cs)
  let digits := body.takeWhile isDigit
  let factor? : Option Nat :=
    match body.drop digits.length with
    | [] => some 1
    | ['b'] => some 512
    | ['k'] | ['K'] => some 1024
    | ['m'] | ['M'] => some (1024 * 1024)
    | ['k', 'B'] | ['K', 'B'] => some 1000
    | _ => none
  if digits.isEmpty then none else factor?.map fun f => (Print.natOf digits * f, sign)

def rangeSwitches : List Switch :=
  [⟨'n', "lines", true⟩, ⟨'c', "bytes", true⟩, ⟨'q', "quiet", false⟩, ⟨'v', "verbose", false⟩]

def withCountWord (signs : List Char) (words : List String) : List String :=
  match words with
  | word :: rest =>
    match word.toList with
    | s :: d :: more =>
      let digits := (d :: more).takeWhile isDigit
      let after := (d :: more).drop digits.length
      if signs.contains s && !digits.isEmpty && (after.isEmpty || after = ['c']) then
        let count := String.ofList (if s = '+' then '+' :: digits else digits)
        (if after.isEmpty then "-n" else "-c") :: count :: rest
      else words
    | _ => words
  | [] => words

def rangeOf (u : Use) : Run (Nat × Option Char × Bool) := do
  match u.last? ['n', 'c'] with
  | none => pure (10, none, false)
  | some letter =>
    let word := (u.word? letter).getD ""
    match countAt? word with
    | some (n, sign) => pure (n, sign, letter = 'c')
    | none =>
      let unit := if letter = 'c' then "bytes" else "lines"
      fail ("invalid number of " ++ unit ++ ": " ++ (← quoted word)) 1

def partsOf (u : Use) (part : String → Run String) : Run Nat := do
  let words := orInput u.words
  let heads := !u.has 'q' && (u.has 'v' || 1 < words.length)
  let rec go (isFirst : Bool) : List String → Run Bool
    | [] => pure true
    | word :: rest => do
      let heading : Run Unit := do
        if heads then
          let name := if word = "-" then "standard input" else word
          output ((if isFirst then "" else "\n") ++ "==> " ++ name ++ " <==\n")
      match ← contentOf word with
      | .ok text =>
        heading
        output (← part text)
        go false rest
      | .error cause =>
        if cause = .isDirectory then heading
        openComplaint word cause
        let _ ← go (isFirst && cause ≠ .isDirectory) rest
        pure false
  return statusOf (← go true words)

def firstPart (n : Nat) (sign : Option Char) (isBytes : Bool) (text : String) : String :=
  let cs := text.toList
  if isBytes then String.ofList (cs.take (if sign = some '-' then cs.length - n else n))
  else
    let lines := linesOf cs
    String.ofList ((lines.take (if sign = some '-' then lines.length - n else n)).flatten)

def lastPart (n : Nat) (sign : Option Char) (isBytes : Bool) (text : String) : String :=
  let cs := text.toList
  if isBytes then String.ofList (cs.drop (if sign = some '+' then n - 1 else cs.length - n))
  else
    let lines := linesOf cs
    String.ofList ((lines.drop (if sign = some '+' then n - 1 else lines.length - n)).flatten)

def leaveAt (text part : String) : Run Unit := do
  let s ← get
  match valueAt? 0 s.streams with
  | some channel =>
    match s.channels[channel]? with
    | some (.file _ position true _ _) => Run.seek channel (position - (text.length - part.length))
    | _ => pure ()
  | none => pure ()

def head : Action := fun words => do
  let u ← use rangeSwitches false 1 (withCountWord ['-'] words)
  let (n, sign, isBytes) ← rangeOf u
  let readsInput := u.words.isEmpty
  partsOf u fun text => do
    let part := firstPart n sign isBytes text
    if readsInput then leaveAt text part
    pure part

def tail : Action := fun words => do
  let u ← use (⟨'f', "follow", false⟩ :: rangeSwitches) false 1 (withCountWord ['-', '+'] words)
  let (n, sign, isBytes) ← rangeOf u
  partsOf u fun text => pure (lastPart n sign isBytes text)

def countsOf (text : String) : List Nat :=
  let cs := text.toList
  let lines := cs.count '\n'
  let isSpace (c : Char) : Bool := c = ' ' || (9 ≤ c.toNat && c.toNat ≤ 13)
  let starts := (cs.zip (' ' :: cs)).filter fun (c, before) => !isSpace c && isSpace before
  let characters := (cs.filter fun c => c.toNat < 128 || 192 ≤ c.toNat).length
  let width := ((linesOf cs).map fun l => (l.filter (· ≠ '\n')).length).foldl max 0
  [lines, starts.length, characters, cs.length, width]

def wcSwitches : List Switch :=
  [⟨'l', "lines", false⟩, ⟨'w', "words", false⟩, ⟨'m', "chars", false⟩, ⟨'c', "bytes", false⟩,
    ⟨'L', "max-line-length", false⟩]

def sizeOf? (word : String) : Run (Option (Option Nat)) := do
  let s ← get
  if word = "-" then
    match (valueAt? 0 s.streams).bind (s.channels[·]?) with
    | some (.file place ..) =>
      match s.files.root.get? place with
      | some (.file content) => pure (some (some content.size))
      | _ => pure (some none)
    | _ => pure (some none)
  else
    match s.find word with
    | .ok (_, .file content) => pure (some (some content.size))
    | .ok _ => pure (some none)
    | .error _ => pure none

def countWidth (words : List String) (isSingle : Bool) : Run Nat := do
  if words.length = 1 && isSingle then pure 1
  else
    let sizes ← words.mapM sizeOf?
    if sizes.head? = some none then pure 1
    else
      let known := sizes.filterMap id
      let total := known.foldr (fun n rest => n.getD 0 + rest) 0
      let width := (toString total).length
      pure (if known.any Option.isNone then max width 7 else width)

def count : Action := fun words => do
  let u ← use wcSwitches false 1 words
  let files := orInput u.words
  let wanted : List Bool :=
    if u.options.isEmpty then [true, true, false, true, false]
    else [u.has 'l', u.has 'w', u.has 'm', u.has 'c', u.has 'L']
  let width ← countWidth files ((wanted.filter id).length = 1)
  let unicode ← isUnicode
  let row (counts : List Nat) (name : String) : String :=
    let chosen := (counts.zip wanted).filterMap fun (n, isWanted) => if isWanted then some n else none
    let columns := chosen.map fun n => String.ofList (column width n)
    String.intercalate " " columns ++ (if name.isEmpty then "" else " " ++ name) ++ "\n"
  let counted (text : String) : List Nat :=
    let counts := countsOf text
    if unicode then counts else counts.set 2 text.length
  let name (word : String) : String := if u.words.isEmpty then "" else word
  let rec go (total : List Nat) : List String → Run (List Nat × Bool)
    | [] => pure (total, true)
    | word :: rest => do
      match ← contentOf word with
      | .ok text =>
        let counts := counted text
        output (row counts (name word))
        let sums := ((total.zip counts).map fun (a, b) => a + b).set 4
          (max (total.getD 4 0) (counts.getD 4 0))
        go sums rest
      | .error cause =>
        plainComplaint word cause
        if cause = .isDirectory then output (row [0, 0, 0, 0, 0] (name word))
        let (sums, _) ← go total rest
        pure (sums, false)
  let (total, isGood) ← go [0, 0, 0, 0, 0] files
  if 1 < files.length then output (row total "total")
  pure (statusOf isGood)

def reverseLines : Action := fun words => do
  let u ← use [] false 1 words
  let complaint (word : String) (cause : OsCause) : Run Unit := do
    if cause = .isDirectory then note (word ++ ": read error: Invalid argument")
    else note ("failed to open " ++ (← shellQuoted word) ++ " for reading: " ++ systemMessage cause)
  return statusOf (← forFiles complaint
    (fun _ text => output (String.ofList (linesOf text.toList).reverse.flatten)) (orInput u.words))

def reverseCharacters : Action := fun words => do
  let u ← use [] false 1 words
  let complaint (word : String) (cause : OsCause) : Run Unit :=
    note ("cannot open " ++ word ++ ": " ++ systemMessage cause)
  let unicode ← isUnicode
  return statusOf (← forFiles complaint (fun _ text =>
    output (String.join ((linesOf text.toList).map fun l =>
      let body := l.filter (· ≠ '\n')
      let turned :=
        match if unicode then gather? (String.ofList body) else none with
        | some s => spread (String.ofList s.toList.reverse)
        | none => String.ofList body.reverse
      turned ++ if body.length < l.length then "\n" else ""))) (orInput u.words))

def numberedLines (numbersAll : Bool) (number : Nat) : List (List Char) → List Char
  | [] => []
  | line :: rest =>
    let isBlank := line.all (· = '\n')
    if numbersAll || !isBlank then
      column 6 (number + 1) ++ ['\t'] ++ line ++ (if line.getLast? = some '\n' then [] else ['\n']) ++
        numberedLines numbersAll (number + 1) rest
    else List.replicate 7 ' ' ++ ['\n'] ++ numberedLines numbersAll number rest

def numberLines : Action := fun words => do
  let u ← use [taking 'b' "body-numbering"] false 1 words
  let (found, isGood) ← contents plainComplaint (orInput u.words)
  let lines := linesOf (found.flatMap fun e => e.2.toList)
  output (String.ofList (numberedLines (u.word? 'b' = some "a") 0 lines))
  pure (statusOf isGood)

def tee : Action := fun words => do
  let u ← use [⟨'a', "append", false⟩, ⟨'i', "ignore-interrupts", false⟩] false 1 words
  let text ← match ← Run.readAll 0 with | .ok text => pure text | .error _ => pure ""
  output text
  let s ← get
  let written ← u.words.mapM fun word => do
    match s.findTarget word with
    | .error cause =>
      plainComplaint word cause
      pure false
    | .ok (_, some (.directory _)) =>
      plainComplaint word .isDirectory
      pure false
    | .ok (place, old) =>
      let before : ByteArray :=
        match old with
        | some (.file content) => if u.has 'a' then content else .empty
        | _ => .empty
      modify fun s => { s with files := { s.files with
        root := s.files.root.put (.file (before ++ toBytes text)) place } }
      pure true
  pure (statusOf (written.all id))

end WorkspaceImport.Shell.Program
