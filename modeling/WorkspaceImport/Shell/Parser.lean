import WorkspaceImport.Shell.Source
/-!
Reading scripts. A script is read command by command, so that what stands before a fault can run. The
words that structure a script count as such only where a command can begin or where one of them is
wanted.
-/
namespace WorkspaceImport.Shell

namespace Parse

mutual

def parts (context : Context) (done : List WordPart) : Nat → Parse Word
  | 0 => fail "Unterminated quoted string"
  | fuel + 1 => do
    let isQuoted := context.isQuoted
    match ← peek with
    | none =>
      match context with
      | .bare | .document => pure done.reverse
      | .braces => fail "Missing '\x7d'"
      | .arithmetic _ => fail "Missing '))'"
      | _ => fail "Unterminated quoted string"
    | some c =>
      if context = .bare && endsWord c then pure done.reverse
      else
        advance
        match c with
        | '\\' =>
          let more ← escaped context
          parts context (more.reverse ++ done) fuel
        | '\x27' =>
          if isQuoted then parts context (.char c true :: done) fuel
          else
            let more ← singleQuoted (.quotes :: done) (← get).rest.length
            parts context more fuel
        | '\x22' =>
          match context with
          | .bare | .braces =>
            let inner ← parts .quotes [] fuel
            let more := if isAllArguments inner then inner else .quotes :: inner
            parts context (more.reverse ++ done) fuel
          | .quotes => pure done.reverse
          | .quotedBraces inner => parts (.quotedBraces !inner) done fuel
          | _ => parts context (.char c true :: done) fuel
        | '$' =>
          let part ← dollar isQuoted fuel
          parts context (part :: done) fuel
        | '\x60' =>
          let text ← backquoted isQuoted [] (← get).rest.length
          let body ← scriptIn text fuel
          parts context (.output body isQuoted :: done) fuel
        | '\x7d' =>
          if context = .braces || context = .quotedBraces false then pure done.reverse
          else parts context (.char c isQuoted :: done) fuel
        | '(' =>
          match context with
          | .arithmetic depth => parts (.arithmetic (depth + 1)) (.char c true :: done) fuel
          | _ => parts context (.char c isQuoted :: done) fuel
        | ')' =>
          match context with
          | .arithmetic 0 =>
            if (← peek) = some ')' then
              advance
              pure done.reverse
            else parts context (.char c true :: done) fuel
          | .arithmetic (depth + 1) => parts (.arithmetic depth) (.char c true :: done) fuel
          | _ => parts context (.char c isQuoted :: done) fuel
        | c => parts context (.char c isQuoted :: done) fuel
termination_by structural n => n

def dollar (isQuoted : Bool) : Nat → Parse WordPart
  | 0 => fail "Unterminated quoted string"
  | fuel + 1 => do
    match ← peek with
    | some '(' =>
      advance
      if (← peek) = some '(' then
        advance
        let text ← parts (.arithmetic 0) [] fuel
        pure (.arithmetic text isQuoted)
      else
        let body ← list false true fuel
        match ← token false fuel with
        | .mark ")" => pure (.output body isQuoted)
        | t => unexpectedFor t "\x22)\x22"
    | some '\x7b' =>
      advance
      braced isQuoted fuel
    | some c =>
      if isNameStart c then
        let name ← takeWhile isNamePart [] (← get).rest.length
        pure (.parameter (String.ofList name) .value [] isQuoted)
      else if isSpecialName c then
        advance
        pure (.parameter (String.singleton c) .value [] isQuoted)
      else pure (.char '$' isQuoted)
    | none => pure (.char '$' isQuoted)
termination_by structural n => n

def braced (isQuoted : Bool) : Nat → Parse WordPart
  | 0 => fail "Missing '\x7d'"
  | fuel + 1 => do
    let within : Context := if isQuoted then .quotedBraces false else .braces
    let bad : Parse WordPart := do
      let _ ← parts within [] fuel
      pure (.parameter "" .bad [] isQuoted)
    let length := (← get).rest.length
    match ← peek with
    | some '#' =>
      advance
      match ← peek with
      | some '\x7d' =>
        advance
        pure (.parameter "#" .value [] isQuoted)
      | some c =>
        let name ←
          if isNameStart c then takeWhile isNamePart [] length
          else if isDigit c then takeWhile isDigit [] length
          else if isSpecialName c then do
            advance
            pure [c]
          else pure []
        if (← peek) = some '\x7d' ∧ !name.isEmpty then
          advance
          pure (.parameter (String.ofList name) .length [] isQuoted)
        else if name.isEmpty ∨ name = ['-'] ∨ name = ['?'] ∨ name = ['#'] then
          afterName "#" isQuoted (name.map fun c => c) fuel
        else bad
      | none => fail "Missing '\x7d'"
    | some c =>
      if isNameStart c then
        let name ← takeWhile isNamePart [] length
        afterName (String.ofList name) isQuoted [] fuel
      else if isDigit c then
        let name ← takeWhile isDigit [] length
        afterName (String.ofList name) isQuoted [] fuel
      else if isSpecialName c then
        advance
        afterName (String.singleton c) isQuoted [] fuel
      else bad
    | none => fail "Missing '\x7d'"
termination_by structural n => n

def afterName (name : String) (isQuoted : Bool) (read : List Char) : Nat → Parse WordPart
  | 0 => fail "Missing '\x7d'"
  | fuel + 1 => do
    let within : Context := if isQuoted then .quotedBraces false else .braces
    let withWord (use : ParameterUse) (context : Context) : Parse WordPart := do
      let word ← parts context [] fuel
      pure (.parameter name use word isQuoted)
    let next : Parse (Option Char) := do
      match read with
      | c :: _ => pure (some c)
      | [] =>
        let c ← peek
        if c.isSome then advance
        pure c
    match ← next with
    | some '\x7d' => pure (.parameter name .value [] isQuoted)
    | some ':' =>
      match (← peek).bind (wordUse? · true) with
      | some use =>
        advance
        withWord use within
      | none => withWord .bad within
    | some c =>
      if c = '%' ∨ c = '#' then
        let isLongest := decide ((← peek) = some c)
        if isLongest then advance
        withWord (.trimmed (c = '%') isLongest) .braces
      else
        match wordUse? c false with
        | some use => withWord use within
        | none => withWord .bad within
    | none => fail "Missing '\x7d'"
termination_by structural n => n

def scriptIn (text : List Char) : Nat → Parse Command
  | 0 => fail "Unterminated quoted string"
  | fuel + 1 => do
    let outer ← get
    set { outer with rest := text, pushed := none }
    let body ← list false true fuel
    modify fun s => { s with rest := outer.rest, line := outer.line, pushed := none }
    pure body
termination_by structural n => n

def documents : List PendingDocument → Nat → Parse Unit
  | _, 0 => pure ()
  | [], _ => pure ()
  | p :: more, fuel + 1 => do
    let s ← get
    let (body, after) := documentLines p [] (s.rest.length + 1) s.rest
    let used := (s.rest.length - after.length)
    let lines := (s.rest.take used).count '\n'
    let word ←
      if p.isQuoted then pure (body.map fun c => WordPart.char c true)
      else do
        set { s with rest := body, pushed := none }
        parts .document [] fuel
    modify fun t =>
      { t with
        rest := after
        line := s.line + lines
        documents := (p.number, word) :: t.documents }
    documents more fuel
termination_by structural _ n => n

def freshToken : Nat → Parse Token
  | 0 => fail "Unterminated quoted string"
  | fuel + 1 => do
    match ← peek with
    | none => pure .ended
    | some c =>
      if c = ' ' ∨ c = '\t' then
        advance
        freshToken fuel
      else if c = '#' then
        skipComment (← get).rest.length
        freshToken fuel
      else if c = '\n' then
        advance
        let pending := (← get).pending
        modify fun s => { s with pending := [] }
        documents pending fuel
        pure .newline
      else
        match ← markOf? (marksFrom c) with
        | some mark => pure (.mark mark)
        | none =>
          let w ← parts .bare [] fuel
          match w, ← peek with
          | [], _ => redirect none
          | [.char d false], some '<' => redirectAfter w d
          | [.char d false], some '>' => redirectAfter w d
          | w, _ => pure (.word w)
termination_by structural n => n
where
  redirect (stream : Option Nat) : Parse Token := do
    match ← markOf? redirectionMarks with
    | some mark => pure (.redirection stream mark)
    | none => pure .ended
  redirectAfter (w : Word) (d : Char) : Parse Token :=
    if isDigit d then redirect (some (d.toNat - '0'.toNat)) else pure (.word w)

def token (asWord : Bool) : Nat → Parse Token
  | 0 => fail "Unterminated quoted string"
  | fuel + 1 => do
    match (← get).pushed with
    | some t =>
      modify fun s => { s with pushed := none }
      pure (if asWord then t.asReserved else t)
    | none =>
      let t ← freshToken fuel
      pure (if asWord then t.asReserved else t)
termination_by structural n => n

def tokenAfterLines : Nat → Parse Token
  | 0 => fail "Unterminated quoted string"
  | fuel + 1 => do
    match ← token true fuel with
    | .newline => tokenAfterLines fuel
    | t => pure t
termination_by structural n => n

def target (stream : Option Nat) (text : String) : Nat → Parse Redirection
  | 0 => fail "Unterminated quoted string"
  | fuel + 1 => do
    let number := stream.getD (standardStream text)
    match ← token false fuel with
    | .word w =>
      if text = "<<" ∨ text = "<<-" then
        let s ← get
        let p : PendingDocument :=
          ⟨s.nextDocument, plainText w, text = "<<-", hasQuotes w⟩
        set { s with pending := s.pending ++ [p], nextDocument := s.nextDocument + 1 }
        pure (.mk number (.document p.number) [])
      else pure (.mk number (redirectionKind text) w)
    | t => unexpected t
termination_by structural n => n

def redirections (done : List Redirection) : Nat → Parse (List Redirection)
  | 0 => fail "Unterminated quoted string"
  | fuel + 1 => do
    match ← token true fuel with
    | .redirection stream text =>
      let r ← target stream text fuel
      redirections (r :: done) fuel
    | t =>
      pushBack t
      pure done.reverse
termination_by structural n => n

def list (isTop mayBeEmpty : Bool) : Nat → Parse Command
  | 0 => fail "Unterminated quoted string"
  | fuel + 1 => listFrom isTop mayBeEmpty .nothing fuel
termination_by structural n => n

def listFrom (isTop mayEnd : Bool) (done : Command) : Nat → Parse Command
  | 0 => fail "Unterminated quoted string"
  | fuel + 1 => do
    match ← (if isTop then token true fuel else tokenAfterLines fuel) with
    | .newline => pure done
    | .ended =>
      pushBack .ended
      pure done
    | t =>
      pushBack t
      if mayEnd && !isTop && t.endsList then pure done
      else
        let c ← linked fuel
        match ← token false fuel with
        | .mark "&" => listFrom isTop true (done.followedBy (.background c)) fuel
        | .mark ";" => listFrom isTop true (done.followedBy c) fuel
        | .newline =>
          if isTop then
            pure (done.followedBy c)
          else listFrom isTop true (done.followedBy c) fuel
        | .ended =>
          pushBack .ended
          pure (done.followedBy c)
        | t =>
          if isTop then unexpected t
          else
            pushBack t
            pure (done.followedBy c)
termination_by structural n => n

def linked : Nat → Parse Command
  | 0 => fail "Unterminated quoted string"
  | fuel + 1 => do
    let first ← pipeline false fuel
    linkedFrom first fuel
termination_by structural n => n

def linkedFrom (first : Command) : Nat → Parse Command
  | 0 => fail "Unterminated quoted string"
  | fuel + 1 => do
    match ← token false fuel with
    | .mark "&&" =>
      let second ← pipeline true fuel
      linkedFrom (.both first second) fuel
    | .mark "||" =>
      let second ← pipeline true fuel
      linkedFrom (.either first second) fuel
    | t =>
      pushBack t
      pure first
termination_by structural n => n

def pipeline (afterLines : Bool) : Nat → Parse Command
  | 0 => fail "Unterminated quoted string"
  | fuel + 1 => do
    match ← (if afterLines then tokenAfterLines fuel else token true fuel) with
    | .reserved "!" =>
      let first ← command fuel
      let c ← pipeFrom [first] fuel
      pure (.negation c)
    | t =>
      pushBack t
      let first ← command fuel
      pipeFrom [first] fuel
termination_by structural n => n

def pipeFrom (done : List Command) : Nat → Parse Command
  | 0 => fail "Unterminated quoted string"
  | fuel + 1 => do
    match ← token false fuel with
    | .mark "|" =>
      let t ← tokenAfterLines fuel
      pushBack t
      let c ← command fuel
      pipeFrom (c :: done) fuel
    | t =>
      pushBack t
      pure (match done with | [c] => c | cs => .pipe cs.reverse)
termination_by structural n => n

def want (text : String) : Nat → Parse Unit
  | 0 => fail "Unterminated quoted string"
  | fuel + 1 => do
    match ← token true fuel with
    | .reserved found => if found = text then pure () else unexpectedFor (.reserved found) (quote text)
    | t => unexpectedFor t (quote text)
termination_by structural n => n
where
  quote (text : String) : String := "\x22" ++ text ++ "\x22"

def command : Nat → Parse Command
  | 0 => fail "Unterminated quoted string"
  | fuel + 1 => do
    let line := (← get).line
    match ← token true fuel with
    | .reserved "if" =>
      let c ← conditional fuel
      close c line fuel
    | .reserved "while" =>
      let c ← loopAfter false fuel
      close c line fuel
    | .reserved "until" =>
      let c ← loopAfter true fuel
      close c line fuel
    | .reserved "for" =>
      let c ← forAfter line fuel
      close c line fuel
    | .reserved "case" =>
      let c ← caseAfter line fuel
      close c line fuel
    | .mark "(" =>
      let body ← list false false fuel
      match ← token true fuel with
      | .mark ")" => close (.subshell line body) line fuel
      | t => unexpectedFor t "\x22)\x22"
    | .reserved "\x7b" =>
      let body ← list false false fuel
      want "\x7d" fuel
      close body line fuel
    | .word w =>
      pushBack (.word w)
      simple line [] [] [] fuel
    | .redirection stream text =>
      pushBack (.redirection stream text)
      simple line [] [] [] fuel
    | t => unexpected t
termination_by structural n => n

def close (c : Command) (line : Nat) : Nat → Parse Command
  | 0 => fail "Unterminated quoted string"
  | fuel + 1 => do
    let found ← redirections [] fuel
    pure (c.withRedirections line found)
termination_by structural n => n

def conditional : Nat → Parse Command
  | 0 => fail "Unterminated quoted string"
  | fuel + 1 => do
    let c ← branches fuel
    want "fi" fuel
    pure c
termination_by structural n => n

def branches : Nat → Parse Command
  | 0 => fail "Unterminated quoted string"
  | fuel + 1 => do
    let test ← list false false fuel
    want "then" fuel
    let yes ← list false false fuel
    match ← token true fuel with
    | .reserved "elif" =>
      let no ← branches fuel
      pure (.conditional test yes no)
    | .reserved "else" =>
      let no ← list false false fuel
      pure (.conditional test yes no)
    | t =>
      pushBack t
      pure (.conditional test yes .nothing)
termination_by structural n => n

def loopAfter (isUntil : Bool) : Nat → Parse Command
  | 0 => fail "Unterminated quoted string"
  | fuel + 1 => do
    let test ← list false false fuel
    want "do" fuel
    let body ← list false false fuel
    want "done" fuel
    pure (.loop isUntil test body)
termination_by structural n => n

def forAfter (line : Nat) : Nat → Parse Command
  | 0 => fail "Unterminated quoted string"
  | fuel + 1 => do
    match ← token false fuel with
    | .word w =>
      let name := (bareText? w).getD []
      if !isName name then fail "Bad for loop variable"
      else
        let words ← forWords fuel
        let t ← tokenAfterLines fuel
        match t with
        | .reserved "do" =>
          let body ← list false false fuel
          want "done" fuel
          pure (.forEach line (String.ofList name) words body)
        | t => unexpectedFor t "\x22do\x22"
    | _ => fail "Bad for loop variable"
termination_by structural n => n

def forWords : Nat → Parse (List Word)
  | 0 => fail "Unterminated quoted string"
  | fuel + 1 => do
    match ← tokenAfterLines fuel with
    | .reserved "in" =>
      let words ← wordsUpTo [] fuel
      match ← token false fuel with
      | .newline | .mark ";" => pure words
      | t => unexpected t
    | .mark ";" => pure [[.parameter "@" .value [] true]]
    | t =>
      pushBack t
      pure [[.parameter "@" .value [] true]]
termination_by structural n => n

def wordsUpTo (done : List Word) : Nat → Parse (List Word)
  | 0 => fail "Unterminated quoted string"
  | fuel + 1 => do
    match ← token false fuel with
    | .word w => wordsUpTo (w :: done) fuel
    | t =>
      pushBack t
      pure done.reverse
termination_by structural n => n

def caseAfter (line : Nat) : Nat → Parse Command
  | 0 => fail "Unterminated quoted string"
  | fuel + 1 => do
    match ← token false fuel with
    | .word w =>
      match ← tokenAfterLines fuel with
      | .reserved "in" =>
        let found ← caseBranches [] fuel
        pure (.cases line w found)
      | t => unexpectedFor t "\x22in\x22"
    | t => unexpectedFor t "word"
termination_by structural n => n

def caseBranches (done : List Branch) : Nat → Parse (List Branch)
  | 0 => fail "Unterminated quoted string"
  | fuel + 1 => do
    match ← tokenAfterLines fuel with
    | .reserved "esac" => pure done.reverse
    | t =>
      let first ← (match t with | .mark "(" => token false fuel | t => pure t)
      let patterns ← patternsFrom [first.pattern] fuel
      let body ← list false true fuel
      match ← tokenAfterLines fuel with
      | .reserved "esac" => pure ((patterns, body) :: done).reverse
      | .mark ";;" => caseBranches ((patterns, body) :: done) fuel
      | t => unexpectedFor t "\x22;;\x22"
termination_by structural n => n

def patternsFrom (done : List Word) : Nat → Parse (List Word)
  | 0 => fail "Unterminated quoted string"
  | fuel + 1 => do
    match ← token false fuel with
    | .mark "|" =>
      let t ← token false fuel
      patternsFrom (t.pattern :: done) fuel
    | .mark ")" => pure done.reverse
    | t => unexpectedFor t "\x22)\x22"
termination_by structural n => n

def simple (line : Nat) (assignments : List (String × Word)) (words : List Word)
    (found : List Redirection) : Nat → Parse Command
  | 0 => fail "Unterminated quoted string"
  | fuel + 1 => do
    match ← token false fuel with
    | .word w =>
      match if words.isEmpty then assignment? w else none with
      | some a => simple line (a :: assignments) words found fuel
      | none => simple line assignments (w :: words) found fuel
    | .redirection stream text =>
      let r ← target stream text fuel
      simple line assignments words (r :: found) fuel
    | t =>
      match t, words with
      | .mark "(", [w] =>
        if assignments.isEmpty && found.isEmpty then functionAfter w fuel
        else
          pushBack t
          pure (.simple line assignments.reverse words.reverse found.reverse)
      | _, _ =>
        pushBack t
        pure (.simple line assignments.reverse words.reverse found.reverse)
termination_by structural n => n

def functionAfter (w : Word) : Nat → Parse Command
  | 0 => fail "Unterminated quoted string"
  | fuel + 1 => do
    match ← token false fuel with
    | .mark ")" =>
      let name := (bareText? w).getD []
      if isName name && !specialNames.contains (String.ofList name) then
        let t ← tokenAfterLines fuel
        pushBack t
        let body ← command fuel
        pure (.function (String.ofList name) body)
      else fail "Bad function name"
    | t => unexpectedFor t "\x22)\x22"
termination_by structural n => n
end

end Parse

end WorkspaceImport.Shell
