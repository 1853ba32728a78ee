import WorkspaceImport.Shell.Pattern
import WorkspaceImport.Shell.Program.Text
/-!
Programs on characters and columns: translating characters, cutting columns out of lines, and putting
lines side by side.
-/
namespace WorkspaceImport.Shell.Program

/-! Sets of characters -/

inductive SetItem where
  | char (c : Char)
  | range (first last : Char)
  | named (name : String)
  | repeated (c : Char) (count : Option Nat)
  deriving DecidableEq

def setChar : List Char → Option (Char × List Char)
  | [] => none
  | '\\' :: rest =>
    match rest with
    | [] => some ('\\', [])
    | d :: more =>
      let digits := (rest.take 3).takeWhile Escape.isOctal
      if !digits.isEmpty then
        some (((Escape.octal digits).head?.getD '\x00'), rest.drop digits.length)
      else
        match Escape.letters.find? fun e => e.1 = d && d ≠ 'e' with
        | some e => some (e.2, more)
        | none => some (d, more)
  | c :: rest => some (c, rest)

def setItems : Nat → List Char → Except String (List SetItem)
  | 0, _ => .ok []
  | _, [] => .ok []
  | fuel + 1, '[' :: ':' :: rest =>
    let name := rest.takeWhile isLetter
    match rest.drop name.length with
    | ':' :: ']' :: more => do return .named (String.ofList name) :: (← setItems fuel more)
    | _ => do return .char '[' :: (← setItems fuel (':' :: rest))
  | fuel + 1, '[' :: '=' :: c :: '=' :: ']' :: rest => do return .char c :: (← setItems fuel rest)
  | fuel + 1, cs =>
    match repetition? cs with
    | some (item, rest) => do return item :: (← setItems fuel rest)
    | none =>
      match setChar cs with
      | none => .ok []
      | some (first, '-' :: rest) =>
        match setChar rest with
        | none => do return .char first :: (← setItems fuel ['-'])
        | some (last, after) =>
          if last < first then
            .error (String.ofList [first, '-', last])
          else do return .range first last :: (← setItems fuel after)
      | some (c, rest) => do return .char c :: (← setItems fuel rest)
where
  repetition? : List Char → Option (SetItem × List Char)
    | '[' :: rest =>
      match setChar rest with
      | some (c, '*' :: more) =>
        let digits := more.takeWhile isDigit
        match more.drop digits.length with
        | ']' :: after =>
          let n := if digits.head? = some '0'
            then digits.foldl (fun n d => n * 8 + (d.toNat - 48)) 0 else Print.natOf digits
          some (.repeated c (if n = 0 then none else some n), after)
        | _ => none
      | _ => none
    | _ => none

def allBytes : List Char :=
  (List.range 256).map Char.ofNat

def setMembers (size : Nat) (items : List SetItem) : List Char :=
  let fixed (item : SetItem) : Nat :=
    match item with
    | .char _ => 1
    | .range a b => b.toNat + 1 - a.toNat
    | .named name => (allBytes.filter (isOfClass name)).length
    | .repeated _ n => n.getD 0
  let missing := size - items.foldr (fun item rest => fixed item + rest) 0
  items.flatMap fun item =>
    match item with
    | .char c => [c]
    | .range a b => (List.range (b.toNat + 1 - a.toNat)).map fun n => Char.ofNat (a.toNat + n)
    | .named name => allBytes.filter (isOfClass name)
    | .repeated c n => List.replicate (n.getD missing) c

def squeezed (isSqueezed : Char → Bool) (last : Option Char) : List Char → List Char
  | [] => []
  | c :: rest =>
    if last = some c && isSqueezed c then squeezed isSqueezed last rest
    else c :: squeezed isSqueezed (some c) rest

def itemsOf (word : String) : Run (List SetItem) := do
  match setItems word.length word.toList with
  | .ok items => pure items
  | .error range =>
    fail ("range-endpoints of " ++ (← shellQuoted range) ++
      " are in reverse collating sequence order") 1

def tableOf (pairs : List (Char × Char)) : Array Char :=
  pairs.foldl (fun t (a, b) => t.setIfInBounds a.toNat b) allBytes.toArray

def translate : Action := fun words => do
  let u ← use [⟨'c', "complement", false⟩, ⟨'C', "", false⟩, ⟨'d', "delete", false⟩,
    ⟨'s', "squeeze-repeats", false⟩, ⟨'t', "truncate-set1", false⟩] true 1 words
  let deletes := u.has 'd'
  let squeezes := u.has 's'
  let least := if deletes = squeezes then 2 else 1
  let most := if deletes && !squeezes then 1 else 2
  let hint (text : String) : String :=
    if text.isEmpty then "" else "\n" ++ text
  if u.words.length < least then
    match u.words with
    | [] => misuse "missing operand" 1
    | word :: _ =>
      let needed :=
        if squeezes then "Two strings must be given when both deleting and squeezing repeats."
        else "Two strings must be given when translating."
      misuse ("missing operand after " ++ (← quoted word) ++ hint needed) 1
  else if most < u.words.length then
    let surplus := u.words[most]?.getD ""
    let needed :=
      if u.words.length = 2 then
        "Only one string may be given when deleting without squeezing repeats." else ""
    misuse ("extra operand " ++ (← quoted surplus) ++ hint needed) 1
  else
    let first ← itemsOf (u.words.head?.getD "")
    let members := setMembers 0 first
    let from1 :=
      if u.has 'c' || u.has 'C' then allBytes.filter fun c => !members.contains c else members
    let second? ← match u.words[1]? with
      | some word => pure (some (← itemsOf word))
      | none => pure none
    let input := (← Run.readAll 0).toOption.getD ""
    let into := second?.map (setMembers from1.length)
    let isIn (set : List Char) : Char → Bool :=
      let table := set.foldl (fun (t : Array Bool) c => t.setIfInBounds c.toNat true)
        (Array.replicate 256 false)
      fun c => (table[c.toNat]?).getD false
    let text : List Char ←
      match deletes, into with
      | true, _ => pure (input.toList.filter fun c => !isIn from1 c)
      | false, none => pure input.toList
      | false, some set =>
        match set.getLast? with
        | none =>
          if u.has 't' then pure input.toList
          else fail "when not truncating set1, string2 must be non-empty" 1
        | some last =>
          let goal := if u.has 't' then set
            else set ++ List.replicate (from1.length - set.length) last
          let table := tableOf (from1.zip goal)
          pure (input.toList.map fun c => (table[c.toNat]?).getD c)
    let result :=
      if squeezes then squeezed (isIn (into.getD from1)) none text else text
    output (String.ofList result)
    pure 0

/-! Columns of lines -/

def placeRanges (isFields : Bool) (words : List (List Char)) :
    Run (List (Nat × Option Nat)) :=
  words.mapM fun word => do
    let text := String.ofList word
    let first := word.takeWhile (· ≠ '-')
    let hasDash := first.length < word.length
    let last := word.drop (first.length + 1)
    let invalid : Run (Nat × Option Nat) := do
      let kind := if isFields then "invalid field value " else "invalid byte/character position "
      misuse (kind ++ (← quoted text)) 1
    if !first.all isDigit || !last.all isDigit then invalid
    else if first.isEmpty && last.isEmpty then
      if hasDash then misuse ("invalid range with no endpoint: -") 1
      else
        misuse (if isFields then "fields are numbered from 1"
          else "byte/character positions are numbered from 1") 1
    else
      let a := if first.isEmpty then 1 else Print.natOf first
      let b : Option Nat :=
        if !hasDash then some a else if last.isEmpty then none else some (Print.natOf last)
      if a = 0 || b = some 0 then
        misuse (if isFields then "fields are numbered from 1"
          else "byte/character positions are numbered from 1") 1
      else
        match b with
        | some b => if b < a then misuse "invalid decreasing range" 1 else pure (a, some b)
        | none => pure (a, none)

def isPlaced (ranges : List (Nat × Option Nat)) (n : Nat) : Bool :=
  ranges.any fun (a, b) => a ≤ n && (match b with | some b => n ≤ b | none => true)

def placed {α : Type} (ranges : List (Nat × Option Nat)) (inverts : Bool) (xs : List α) : List α :=
  (xs.zip (List.range xs.length)).filterMap fun (x, n) =>
    if isPlaced ranges (n + 1) != inverts then some x else none

def cut : Action := fun words => do
  let u ← use [taking 'b' "bytes", taking 'c' "characters", taking 'f' "fields",
    taking 'd' "delimiter", ⟨'s', "only-delimited", false⟩, ⟨'n', "", false⟩,
    ⟨'!', "complement", false⟩, taking '@' "output-delimiter"] false 1 words
  let lists := u.options.filter fun e => ['b', 'c', 'f'].contains e.1
  match lists with
  | [] => misuse "you must specify a list of bytes, characters, or fields" 1
  | _ :: _ :: _ => misuse "only one list may be specified" 1
  | [(letter, places)] =>
    let isFields := letter = 'f'
    let delimiter := u.word? 'd'
    if delimiter.any fun d => 1 < d.length then
      misuse "the delimiter must be a single character" 1
    else
      let cs := places.toList.map fun c => if c = ' ' || c = '\t' then ',' else c
      let ranges ← placeRanges isFields (cs.splitOn ',')
      if !isFields && delimiter.isSome then
        misuse "an input delimiter may be specified only when operating on fields" 1
      else if !isFields && u.has 's' then
        misuse ("suppressing non-delimited lines makes sense\n" ++
          "\tonly when operating on fields") 1
      else
        let mark := ((delimiter.getD "\t").toList.head?).getD '\x00'
        let between := (u.word? '@').getD (String.singleton mark)
        let inverts := u.has '!'
        let line (l : String) : String :=
          if isFields then
            let fields := (l.toList.splitOn mark).map String.ofList
            if fields.length ≤ 1 then if u.has 's' then "" else l ++ "\n"
            else String.intercalate between (placed ranges inverts fields) ++ "\n"
          else String.ofList (placed ranges inverts l.toList) ++ "\n"
        return statusOf (← forFiles plainComplaint
          (fun _ text => output (String.join ((bareLines text).map line))) (orInput u.words))

def columns (between : List String) (lists : List (List String)) : Nat → List String
  | 0 => []
  | n + 1 =>
    if lists.all List.isEmpty then []
    else
      joinBy between (lists.map fun l => l.head?.getD "") ++
        ("\n" :: columns between (lists.map List.tail) n)
where
  joinBy (between : List String) (texts : List String) : List String :=
    texts.zip (List.range texts.length) |>.map fun (t, n) =>
      (if n = 0 then "" else between.getD ((n - 1) % max 1 between.length) "") ++ t

def marksOf : List Char → List String
  | [] => []
  | '\\' :: '0' :: rest => "" :: marksOf rest
  | '\\' :: c :: rest =>
    let mark := match Escape.letters.find? (·.1 = c) with | some e => e.2 | none => c
    String.singleton mark :: marksOf rest
  | c :: rest => String.singleton c :: marksOf rest

def paste : Action := fun words => do
  let u ← use [taking 'd' "delimiters", ⟨'s', "serial", false⟩] false 1 words
  let marks := marksOf ((u.word? 'd').getD "\t").toList
  let words := orInput u.words
  let (found, isGood) ← contents plainComplaint (words.filter (· ≠ "-"))
  let read ← if words.contains "-" then Run.readAll 0 else pure (.ok "")
  let input := bareLines (read.toOption.getD "")
  let dashes := words.count "-"
  let serial := u.has 's'
  let rec lists (n : Nat) (left : List (String × String)) : List String → List (List String)
    | [] => []
    | "-" :: rest =>
      let own :=
        if serial then if n = 0 then input else []
        else (input.zip (List.range input.length)).filterMap fun (l, i) =>
          if i % dashes = n then some l else none
      own :: lists (n + 1) left rest
    | _ :: rest =>
      match left with
      | e :: left => bareLines e.2 :: lists n left rest
      | [] => lists n [] rest
  let all := lists 0 found words
  if !isGood then pure 1
  else
    if serial then
      all.forM fun l => output (String.join (columns.joinBy marks l) ++ "\n")
    else
      let height := (all.map List.length).foldl max 0
      output (String.join (columns marks all height))
    pure 0

def folded (width : Nat) (atBlanks : Bool) : Nat → List Char → List Char
  | 0, cs => cs
  | fuel + 1, cs =>
    if cs.length ≤ width then cs
    else
      let front := cs.take width
      let kept := (front.reverse.dropWhile (· ≠ ' ')).reverse
      let front := if atBlanks && !kept.isEmpty then kept else front
      front ++ '\n' :: folded width atBlanks fuel (cs.drop front.length)

def fold : Action := fun words => do
  let words := match words with
    | word :: rest =>
      match word.toList with
      | '-' :: d :: more =>
        if (d :: more).all isDigit then "-w" :: String.ofList (d :: more) :: rest else words
      | _ => words
    | [] => []
  let u ← use [taking 'w' "width", ⟨'s', "spaces", false⟩, ⟨'b', "bytes", false⟩] false 1 words
  let width := (u.word? 'w').getD "80"
  match width.toNat? with
  | some (n + 1) =>
    return statusOf (← forFiles plainComplaint (fun _ text =>
      output (String.join ((linesOf text.toList).map fun l =>
        let body := l.filter (· ≠ '\n')
        String.ofList (folded (n + 1) (u.has 's') body.length body) ++
          if body.length < l.length then "\n" else ""))) (orInput u.words))
  | _ => fail ("invalid number of columns: " ++ (← quoted width)) 1

def compared (shown : Nat → String → String) : Nat → List String → List String → List String
  | 0, _, _ => []
  | _, [], [] => []
  | fuel + 1, a :: as, [] => shown 1 a :: compared shown fuel as []
  | fuel + 1, [], b :: bs => shown 2 b :: compared shown fuel [] bs
  | fuel + 1, a :: as, b :: bs =>
    if a = b then shown 3 a :: compared shown fuel as bs
    else if a < b then shown 1 a :: compared shown fuel as (b :: bs)
    else shown 2 b :: compared shown fuel (a :: as) bs

def commonLines : Action := fun words => do
  let u ← use (switches "123") false 1 words
  match u.words with
  | [a, b] =>
    let (found, isGood) ← contents plainComplaint [a, b]
    match isGood, found with
    | true, [(_, x), (_, y)] =>
      let indent (n : Nat) : String :=
        String.join ((['1', '2'].take (n - 1)).map fun c => if u.has c then "" else "\t")
      let shown (n : Nat) (line : String) : String :=
        if u.has (Char.ofNat (48 + n)) then "" else indent n ++ line ++ "\n"
      let xs := bareLines x
      let ys := bareLines y
      output (String.join (compared shown (xs.length + ys.length) xs ys))
      pure 0
    | _, _ => pure 1
  | [] => misuse "missing operand" 1
  | [a] => misuse ("missing operand after " ++ (← quoted a)) 1
  | _ :: _ :: c :: _ => misuse ("extra operand " ++ (← quoted c)) 1

end WorkspaceImport.Shell.Program
