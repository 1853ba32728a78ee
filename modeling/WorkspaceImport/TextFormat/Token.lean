import WorkspaceImport.Text.Blank
import WorkspaceImport.Text.Quoted
/-!
Tokens of the text format of structured messages. A text is cut into lexemes: blank runs, comments,
quoted literals, marks and words. The lexemes put together are the text again, and the only fault is
a quote that opens no literal.
-/
namespace WorkspaceImport.TextFormat

/-- The body of a literal is kept as it is written, escapes included. -/
inductive Token where
  | literal (quote : Char) (body : List Char)
  | mark (c : Char)
  | word (cs : List Char)
  deriving DecidableEq

inductive Lexeme where
  | gap (cs : List Char)
  | token (t : Token)
  deriving DecidableEq

def Token.chars : Token → List Char
  | .literal quote body => quote :: (body ++ [quote])
  | .mark c => [c]
  | .word cs => cs

def Token.text (t : Token) : String :=
  String.ofList t.chars

def Lexeme.chars : Lexeme → List Char
  | .gap cs => cs
  | .token t => t.chars

def Lexeme.token? : Lexeme → Option Token
  | .gap _ => none
  | .token t => some t

def isMark (c : Char) : Bool :=
  "\x7b\x7d:<>[],;".toList.contains c

def isQuote (c : Char) : Bool :=
  c = '\x22' || c = '\x27'

/-- Characters of words: neither blank nor a mark, a quote or the beginning of a comment. -/
def isWordChar (c : Char) : Bool :=
  !Text.isBlank c && !isMark c && !isQuote c && c != '#'

/-- The body of a literal up to its closing quote, `done` being read already in reverse. A backslash
takes the next character with it, whatever it is, unless that ends the line. -/
def literalBody (quote : Char) (done : List Char) : List Char → Option (List Char × List Char)
  | [] => none
  | c :: rest =>
    if c = quote then some (done.reverse, rest)
    else if c = '\\' then
      match rest with
      | [] => none
      | d :: more => if d = '\n' then none else literalBody quote (d :: c :: done) more
    else literalBody quote (c :: done) rest

def nextLexeme? (c : Char) (rest : List Char) : Option (Lexeme × List Char) :=
  if Text.isBlank c then
    some (.gap (c :: rest.takeWhile Text.isBlank), rest.dropWhile Text.isBlank)
  else if c = '#' then
    some (.gap (c :: rest.takeWhile (· ≠ '\n')), rest.dropWhile (· ≠ '\n'))
  else if isQuote c then
    (literalBody c [] rest).map fun found => (.token (.literal c found.1), found.2)
  else if isMark c then some (.token (.mark c), rest)
  else some (.token (.word (c :: rest.takeWhile isWordChar)), rest.dropWhile isWordChar)

theorem literalBody_length_le {quote : Char} {done cs body left : List Char}
    (found : literalBody quote done cs = some (body, left)) : left.length < cs.length := by
  fun_induction literalBody quote done cs <;> simp_all <;> omega

theorem nextLexeme?_length_le {c : Char} {rest left : List Char} {lexeme : Lexeme}
    (found : nextLexeme? c rest = some (lexeme, left)) : left.length ≤ rest.length := by
  have shorter (p : Char → Bool) : (rest.dropWhile p).length ≤ rest.length :=
    (List.dropWhile_sublist p).length_le
  unfold nextLexeme? at found
  split at found
  · cases found; exact shorter _
  · split at found
    · cases found; exact shorter _
    · split at found
      · obtain ⟨⟨body, tail⟩, inner, same⟩ := Option.map_eq_some_iff.1 found
        cases same
        exact Nat.le_of_lt (literalBody_length_le inner)
      · split at found
        · cases found; exact Nat.le_refl _
        · cases found; exact shorter _

structure ScanFault where
  offset : Nat
  rest : List Char
  deriving DecidableEq

def lexemesFrom (offset : Nat) (cs : List Char) : Except ScanFault (List Lexeme) :=
  match cs with
  | [] => .ok []
  | c :: rest =>
    match found : nextLexeme? c rest with
    | none => .error ⟨offset, c :: rest⟩
    | some (lexeme, left) =>
      have : left.length < rest.length + 1 := Nat.lt_succ_of_le (nextLexeme?_length_le found)
      match lexemesFrom (offset + lexeme.chars.length) left with
      | .ok more => .ok (lexeme :: more)
      | .error fault => .error fault
termination_by cs.length

def tokens (cs : List Char) : Except ScanFault (List Token) :=
  (lexemesFrom 0 cs).map fun lexemes => lexemes.filterMap Lexeme.token?

/-- The character that an escape stands for. Escapes without a meaning stand for the character
itself. -/
def escaped (c : Char) : Char :=
  if c = 'n' then '\n' else if c = 't' then '\t' else if c = 'r' then '\r' else c

def unescape : List Char → List Char
  | [] => []
  | '\\' :: '\n' :: rest => '\\' :: '\n' :: unescape rest
  | '\\' :: c :: rest => escaped c :: unescape rest
  | c :: rest => c :: unescape rest

def escapeChar (quote c : Char) : List Char :=
  if c = '\\' ∨ c = quote then ['\\', c]
  else if c = '\n' then ['\\', 'n']
  else if c = '\t' then ['\\', 't']
  else if c = '\r' then ['\\', 'r']
  else [c]

def literalOf (quote : Char) (cs : List Char) : Token :=
  .literal quote (cs.flatMap (escapeChar quote))

end WorkspaceImport.TextFormat
