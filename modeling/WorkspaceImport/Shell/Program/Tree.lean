import WorkspaceImport.Shell.Program.Text
/-!
Programs that list, make, copy, move and remove files and directories. What cannot be done for one of
their words is complained about, and the others are gone on with.
-/
namespace WorkspaceImport.Shell.Program

def changeTree (change : Entry → Entry) : Run Unit :=
  modify fun s => { s with files := { s.files with root := change s.files.root } }

def withoutSlashes (path : String) : String :=
  let cs := (path.toList.reverse.dropWhile (· = '/')).reverse
  if cs.isEmpty && !path.isEmpty then "/" else String.ofList cs

def lastName (path : String) : String :=
  let cs := (withoutSlashes path).toList
  if cs = ['/'] then "/" else String.ofList (cs.reverse.takeWhile (· ≠ '/')).reverse

def below (directory name : String) : String :=
  if directory.endsWith "/" then directory ++ name else directory ++ "/" ++ name

def forWords (each : String → Run Bool) (words : List String) : Run Nat := do
  let done ← words.mapM each
  pure (statusOf (done.all id))

/-! Listing -/

def listSwitches : List Switch :=
  [⟨'a', "all", false⟩, ⟨'A', "almost-all", false⟩, ⟨'d', "directory", false⟩,
    ⟨'F', "classify", false⟩, ⟨'r', "reverse", false⟩, ⟨'R', "recursive", false⟩,
    ⟨'p', "", false⟩, ⟨'1', "", false⟩, ⟨'S', "", false⟩, ⟨'U', "", false⟩, ⟨'f', "", false⟩,
    ⟨'q', "", false⟩, ⟨'N', "literal", false⟩, ⟨'H', "", false⟩, ⟨'L', "dereference", false⟩,
    ⟨'n', "", false⟩]

def listedName (u : Use) (name : String) (e : Entry) : String :=
  if e.isDirectory && (u.has 'F' || u.has 'p') then name ++ "/" else name

def ordered (u : Use) (entries : List (String × Entry)) : List (String × Entry) :=
  let sorted := entries.mergeSort fun a b => a.1 ≤ b.1
  let sorted := if u.has 'S' then sorted.mergeSort fun a b => b.2.size ≤ a.2.size else sorted
  if u.has 'r' then sorted.reverse else sorted

def listedEntries (u : Use) (children : List (String × Entry)) : List (String × Entry) :=
  let own := children.map fun e => (spread e.1, e.2)
  let own := if u.has 'a' || u.has 'A' then own else own.filter fun e => !e.1.startsWith "."
  let dots : List (String × Entry) :=
    if u.has 'a' then [(".", .emptyDirectory), ("..", .emptyDirectory)] else []
  ordered u (dots ++ own)

def listing (u : Use) (heads : Bool) : Nat → String → List (String × Entry) → List String
  | 0, _, _ => []
  | depth + 1, path, children =>
    let entries := listedEntries u children
    let lines := entries.map fun e => listedName u e.1 e.2 ++ "\n"
    let head := if heads then path ++ ":\n" else ""
    let inner :=
      if u.has 'R' then
        entries.flatMap fun (name, e) =>
          match e with
          | .directory children =>
            if name = "." || name = ".." then [] else listing u true depth (below path name) children
          | .file _ => []
      else []
    (head ++ String.join lines) :: inner

def list : Action := fun words => do
  let u ← use listSwitches false 2 words
  let words := if u.words.isEmpty then ["."] else u.words
  let s ← get
  let found ← words.mapM fun word => do
    match s.find word with
    | .ok (_, e) => pure (some (word, e))
    | .error cause =>
      note ("cannot access " ++ (← shellQuoted word) ++ ": " ++ systemMessage cause)
      pure none
  let entries := ordered u (found.filterMap id)
  let isListed (e : String × Entry) : Bool := e.2.isDirectory && !u.has 'd'
  let files := entries.filter fun e => !isListed e
  let directories := entries.filter isListed
  let lines := String.join (files.map fun e => listedName u e.1 e.2 ++ "\n")
  let heads := 1 < words.length || u.has 'R'
  let blocks := directories.flatMap fun (path, e) =>
    match e with
    | .directory children => listing u heads 100 path children
    | .file _ => []
  output (String.intercalate "\n" ((if files.isEmpty then [] else [lines]) ++ blocks))
  pure (if found.all Option.isSome then 0 else 2)

/-! Directories -/

def makeAll (made : List String) : List String → Run (Except OsCause Unit)
  | [] => pure (.ok ())
  | name :: rest => do
    let s ← get
    match s.files.root.step made name with
    | .ok place =>
      match s.files.root.get? place with
      | some (.directory _) => makeAll place rest
      | _ => pure (.error (if rest.isEmpty then .exists else .notDirectory))
    | .error .notFound =>
      changeTree fun root => root.put .emptyDirectory (made ++ [name])
      makeAll (made ++ [name]) rest
    | .error cause => pure (.error cause)

def makeDirectories : Action := fun words => do
  let u ← use [⟨'p', "parents", false⟩, taking 'm' "mode", ⟨'v', "verbose", false⟩] false 1 words
  if u.words.isEmpty then misuse "missing operand" 1
  else
    forWords (fun word => do
      let s ← get
      let made : Except OsCause Unit ←
        if u.has 'p' && !word.isEmpty then makeAll [] (s.files.segmentsOf (pathOf word))
        else
          match s.findTarget word with
          | .error .notDirectory =>
            pure (.error (if (s.find (withoutSlashes word)).isOk then .exists else .notDirectory))
          | .error cause => pure (.error cause)
          | .ok (_, some _) => pure (.error .exists)
          | .ok (place, none) =>
            changeTree fun root => root.put .emptyDirectory place
            pure (.ok ())
      match made with
      | .ok () =>
        if u.has 'v' then output ("mkdir: created directory " ++ (← quoted word) ++ "\n")
        pure true
      | .error cause =>
        note ("cannot create directory " ++ (← quoted word) ++ ": " ++ systemMessage cause)
        pure false) u.words

def removeDirectory (word : String) : Run Bool := do
  let s ← get
  let cause : Option OsCause :=
    match s.find word with
    | .error cause => some cause
    | .ok (_, .file _) => some .notDirectory
    | .ok (_, .directory (_ :: _)) => some .notEmpty
    | .ok (_, .directory []) => none
  match cause, s.find word with
  | none, .ok (place, _) =>
    changeTree fun root => root.erase place
    pure true
  | cause, _ =>
    note ("failed to remove " ++ (← shellQuoted word) ++ ": " ++
      systemMessage (cause.getD .notFound))
    pure false

def withParents : Nat → String → List String
  | 0, path => [path]
  | n + 1, path =>
    let cs := (withoutSlashes path).toList
    let parent := (((cs.reverse.dropWhile (· ≠ '/')).dropWhile (· = '/')).reverse)
    if parent.isEmpty then [path] else path :: withParents n (String.ofList parent)

def whileDone (each : String → Run Bool) : List String → Run Bool
  | [] => pure true
  | word :: rest => do if ← each word then whileDone each rest else pure false

def removeDirectories : Action := fun words => do
  let u ← use [⟨'p', "parents", false⟩] false 1 words
  if u.words.isEmpty then misuse "missing operand" 1
  else
    forWords (fun word =>
      whileDone removeDirectory (if u.has 'p' then withParents word.length word else [word])) u.words

/-! Files -/

def remove : Action := fun words => do
  let u ← use [⟨'r', "recursive", false⟩, ⟨'R', "", false⟩, ⟨'f', "force", false⟩,
    ⟨'d', "dir", false⟩, ⟨'v', "verbose", false⟩, ⟨'i', "", false⟩, ⟨'I', "", false⟩] false 1 words
  let isForced := u.has 'f'
  let isDeep := u.has 'r' || u.has 'R'
  if u.words.isEmpty then if isForced then pure 0 else misuse "missing operand" 1
  else
    forWords (fun word => do
      let s ← get
      let cannot (cause : OsCause) : Run Bool := do
        note ("cannot remove " ++ (← shellQuoted word) ++ ": " ++ systemMessage cause)
        pure false
      match s.find word with
      | .error .notFound => if isForced then pure true else cannot .notFound
      | .error cause =>
        if isForced && cause = .notDirectory && !word.endsWith "/" then pure true
        else cannot cause
      | .ok (place, .file _) =>
        changeTree fun root => root.erase place
        if u.has 'v' then output ("removed " ++ (← shellQuoted word) ++ "\n")
        pure true
      | .ok (place, .directory children) =>
        if !isDeep then
          if u.has 'd' then
            if children.isEmpty then
              changeTree fun root => root.erase place
              pure true
            else cannot .notEmpty
          else cannot .isDirectory
        else if lastName word = "." || lastName word = ".." then
          note ("refusing to remove '.' or '..' directory: skipping " ++ (← shellQuoted word))
          pure false
        else
          changeTree fun root => root.erase place
          if u.has 'v' then output ("removed directory " ++ (← shellQuoted word) ++ "\n")
          pure true) u.words

def touch : Action := fun words => do
  let u ← use [⟨'c', "no-create", false⟩, ⟨'a', "", false⟩, ⟨'m', "", false⟩, taking 'd' "date",
    taking 't' "", taking 'r' "reference"] false 1 words
  if u.words.isEmpty then misuse "missing file operand" 1
  else
    forWords (fun word => do
      match (← get).findTarget word with
      | .ok (_, some _) => pure true
      | .ok (place, none) =>
        if u.has 'c' then pure true
        else if word.endsWith "/" then
          note ("cannot touch " ++ (← shellQuoted word) ++ ": Is a directory")
          pure false
        else
          changeTree fun root => root.put (.file .empty) place
          pure true
      | .error cause =>
        if u.has 'c' then pure true
        else
          note ("cannot touch " ++ (← shellQuoted word) ++ ": " ++ systemMessage cause)
          pure false) u.words

def destination (u : Use) : Run (List String × String × Bool) := do
  match u.word? 't', u.words with
  | some directory, _ :: _ => pure (u.words, directory, true)
  | _, [] => misuse "missing file operand" 1
  | none, [word] => misuse ("missing destination file operand after " ++ (← shellQuoted word)) 1
  | _, words =>
    let last := words.getLast?.getD ""
    let s ← get
    let isDirectory := !u.has 'T' && match s.find last with
      | .ok (_, e) => e.isDirectory
      | .error _ => false
    if 2 < words.length && !isDirectory then
      let cause := match s.find last with | .ok _ => OsCause.notDirectory | .error cause => cause
      fail ("target " ++ (← shellQuoted last) ++ ": " ++ systemMessage cause) 1
    else pure (words.dropLast, last, isDirectory)

def merged (old : Option Entry) : Entry → Entry
  | .file content => .file content
  | .directory children =>
    match old with
    | some (.directory before) =>
      .directory (children.foldl (fun entries e => putEntry e.1 e.2 entries) before)
    | _ => .directory children

def isWithin (place outer : List String) : Bool :=
  outer.isPrefixOf place

def transfer (u : Use) (moves : Bool) (source target : String) : Run Bool := do
  let s ← get
  let isDeep := moves || u.has 'r' || u.has 'R' || u.has 'a'
  let shown ← shellQuoted source
  let goal ← shellQuoted target
  match s.find source with
  | .error cause =>
    note ("cannot stat " ++ shown ++ ": " ++ systemMessage cause)
    pure false
  | .ok (place, e) =>
    if e.isDirectory && !isDeep then
      note ("-r not specified; omitting directory " ++ shown)
      pure false
    else
      match s.findTarget target with
      | .error cause =>
        if moves then note ("cannot move " ++ shown ++ " to " ++ goal ++ ": " ++ systemMessage cause)
        else if cause = .notDirectory then
          note ("cannot stat " ++ goal ++ ": " ++ systemMessage cause)
        else note ("cannot create regular file " ++ goal ++ ": " ++ systemMessage cause)
        pure false
      | .ok (there, old) =>
        if there = place then
          note (shown ++ " and " ++ goal ++ " are the same file")
          pure false
        else if e.isDirectory && isWithin there place then
          if moves then
            note ("cannot move " ++ shown ++ " to a subdirectory of itself, " ++ goal)
          else note ("cannot copy a directory, " ++ shown ++ ", into itself, " ++ goal)
          pure false
        else
          match e, old with
          | .directory _, some (.file _) =>
            note ("cannot overwrite non-directory " ++ goal ++ " with directory " ++ shown)
            pure false
          | .file _, some (.directory _) =>
            note ("cannot overwrite directory " ++ goal ++ " with non-directory")
            pure false
          | .directory _, some (.directory (_ :: _)) =>
            if moves then
              note ("cannot overwrite " ++ goal ++ ": Directory not empty")
              pure false
            else
              changeTree fun root => root.put (merged old e) there
              pure true
          | _, some (.file _) =>
            if !u.has 'n' then
              changeTree fun root =>
                (if moves then root.erase place else root).put e there
            pure true
          | _, _ =>
            changeTree fun root => (if moves then root.erase place else root).put e there
            if u.has 'v' then
              output ((if moves then "renamed " else "") ++ shown ++ " -> " ++ goal ++ "\n")
            pure true

def transferAll (moves : Bool) : Action := fun words => do
  let known := [⟨'r', "recursive", false⟩, ⟨'R', "", false⟩, ⟨'a', "archive", false⟩,
    ⟨'f', "force", false⟩, ⟨'i', "", false⟩, ⟨'n', "no-clobber", false⟩, ⟨'p', "", false⟩,
    ⟨'v', "verbose", false⟩, ⟨'T', "no-target-directory", false⟩, taking 't' "target-directory"]
  let known := if moves then known.filter fun o => !(['r', 'R', 'a', 'p'].contains o.letter) else known
  let u ← use known false 1 words
  let (sources, target, goesInto) ← destination u
  forWords (fun source =>
    transfer u moves source (if goesInto then below target (lastName source) else target)) sources

def realPath : Action := fun words => do
  let u ← use (switches "emsqzfn") false 1 words
  if u.words.isEmpty then misuse "missing operand" 1
  else
    forWords (fun word => do
      match (← get).findTarget word with
      | .ok (place, _) =>
        output ("/" ++ String.intercalate "/" (place.map spread) ++ "\n")
        pure true
      | .error cause =>
        note (word ++ ": " ++ systemMessage cause)
        pure false) u.words

end WorkspaceImport.Shell.Program
