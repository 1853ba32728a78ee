import WorkspaceImport.TextFormat.Message
import WorkspaceImport.Proofs.TextFormat.Token
/-!
How a text is cut into lexemes, told apart from the scanner. A lexeme stands before the rest of a text
when it belongs to one of the classes and goes on as far as the class allows. Lexemes in a row that do
so tile a text; the scanner finds them, and it stops nowhere but at a quote that is not closed.
-/
namespace WorkspaceImport.TextFormat

/-- What may stand between two quotes: characters other than the quote and the backslash, and
backslashes that each take the next character of the line with them. -/
inductive IsBody (quote : Char) : List Char → Prop
  | empty : IsBody quote []
  | plain {c : Char} {rest : List Char} (noQuote : c ≠ quote) (noEscape : c ≠ '\\')
      (more : IsBody quote rest) : IsBody quote (c :: rest)
  | escape {c : Char} {rest : List Char} (goesOn : c ≠ '\n') (more : IsBody quote rest) :
      IsBody quote ('\\' :: c :: rest)

/-- Behind a quote the text ends before that quote comes again, or a backslash has nothing behind it
on its line. -/
def Unclosed (quote : Char) (cs : List Char) : Prop :=
  ∃ body tail, IsBody quote body ∧ cs = body ++ tail ∧
    (tail = [] ∨ tail = ['\\'] ∨ ∃ more, tail = '\\' :: '\n' :: more)

section Body

variable {quote : Char} {done cs body left : List Char}

/-- The closing quote is where the grammar of bodies has it, and nowhere else: no backslash before it
takes it along. -/
theorem literalBody_eq_some_iff (quotes : isQuote quote = true) :
    literalBody quote done cs = some (body, left) ↔
      ∃ inner, IsBody quote inner ∧ body = done.reverse ++ inner ∧ cs = inner ++ quote :: left := by
  constructor
  · intro found
    fun_induction literalBody quote done cs with
    | case2 done rest =>
      cases found
      exact ⟨[], .empty, (List.append_nil _).symm, rfl⟩
    | case5 done d rest goesOn noQuote ih =>
      obtain ⟨inner, isBody, rfl, rfl⟩ := ih found
      exact ⟨'\\' :: d :: inner, .escape goesOn isBody, by simp, rfl⟩
    | case6 done c rest noQuote noEscape ih =>
      obtain ⟨inner, isBody, rfl, rfl⟩ := ih found
      exact ⟨c :: inner, .plain noQuote noEscape isBody, by simp, rfl⟩
    | _ => cases found
  · rintro ⟨inner, isBody, rfl, rfl⟩
    induction isBody generalizing done with
    | empty => rw [List.nil_append, literalBody_quote, List.append_nil]
    | plain noQuote noEscape _ ih =>
      rw [List.cons_append, literalBody_plain noEscape noQuote, ih]
      simp
    | escape goesOn _ ih =>
      rw [List.cons_append, List.cons_append, literalBody_escaped quotes goesOn, ih]
      simp

theorem literalBody_eq_none_iff (quotes : isQuote quote = true) :
    literalBody quote done cs = none ↔ Unclosed quote cs := by
  constructor
  · intro failed
    fun_induction literalBody quote done cs with
    | case1 => exact ⟨[], [], .empty, rfl, .inl rfl⟩
    | case2 => cases failed
    | case3 => exact ⟨[], ['\\'], .empty, rfl, .inr (.inl rfl)⟩
    | case4 done rest => exact ⟨[], '\\' :: '\n' :: rest, .empty, rfl, .inr (.inr ⟨rest, rfl⟩)⟩
    | case5 done d rest goesOn noQuote ih =>
      obtain ⟨body, tail, isBody, rfl, stops⟩ := ih failed
      exact ⟨'\\' :: d :: body, tail, .escape goesOn isBody, rfl, stops⟩
    | case6 done c rest noQuote noEscape ih =>
      obtain ⟨body, tail, isBody, rfl, stops⟩ := ih failed
      exact ⟨c :: body, tail, .plain noQuote noEscape isBody, rfl, stops⟩
  · rintro ⟨body, tail, isBody, rfl, stops⟩
    induction isBody generalizing done with
    | empty =>
      have noQuote := backslash_ne_quote quotes
      rcases stops with rfl | rfl | ⟨more, rfl⟩ <;> simp [literalBody, noQuote]
    | plain noQuote noEscape _ ih =>
      rw [List.cons_append, literalBody_plain noEscape noQuote, ih]
    | escape goesOn _ ih =>
      rw [List.cons_append, List.cons_append, literalBody_escaped quotes goesOn, ih]

theorem unclosed_iff (quotes : isQuote quote = true) :
    Unclosed quote cs ↔ ¬∃ body left, IsBody quote body ∧ cs = body ++ quote :: left := by
  rw [← @literalBody_eq_none_iff quote [] cs quotes]
  constructor
  · rintro failed ⟨body, left, isBody, whole⟩
    have found : literalBody quote [] cs = some (body, left) :=
      (literalBody_eq_some_iff quotes).2 ⟨body, isBody, rfl, whole⟩
    rw [failed] at found
    cases found
  · intro unfinished
    cases found : literalBody quote [] cs with
    | none => rfl
    | some closed =>
      obtain ⟨inner, isBody, _, whole⟩ := (literalBody_eq_some_iff quotes).1 found
      exact absurd ⟨inner, closed.2, isBody, whole⟩ unfinished

end Body

/-- A lexeme of one of the classes that goes on as far as it can before the rest of a text. -/
inductive Lexeme.Before : Lexeme → List Char → Prop
  | blanks {cs behind : List Char} (nonempty : cs ≠ [])
      (blank : ∀ c ∈ cs, Text.isBlank c = true)
      (ends : ∀ c ∈ behind.head?, Text.isBlank c = false) : Before (.gap cs) behind
  | comment {line behind : List Char} (inLine : '\n' ∉ line) (ends : ∀ c ∈ behind.head?, c = '\n') :
      Before (.gap ('#' :: line)) behind
  | literal {quote : Char} {body : List Char} (behind : List Char) (quotes : isQuote quote = true)
      (isBody : IsBody quote body) : Before (.token (.literal quote body)) behind
  | mark {c : Char} (behind : List Char) (mark : isMark c = true) : Before (.token (.mark c)) behind
  | word {cs behind : List Char} (word : IsWord cs)
      (ends : ∀ c ∈ behind.head?, isWordChar c = false) : Before (.token (.word cs)) behind

section Lexemes

variable {c : Char} {rest left : List Char} {lexeme : Lexeme}

theorem mark_plain (mark : isMark c = true) :
    Text.isBlank c = false ∧ c ≠ '#' ∧ isQuote c = false := by
  have all : "\x7b\x7d:<>[],;".toList.all
      (fun d => !Text.isBlank d && d != '#' && !isQuote d) = true := by
    decide
  have plain := List.all_eq_true.1 all c (List.contains_iff_mem.1 mark)
  simpa [and_assoc] using plain

theorem before_of_nextLexeme? (found : nextLexeme? c rest = some (lexeme, left)) :
    lexeme.Before left ∧ c :: rest = lexeme.chars ++ left := by
  unfold nextLexeme? at found
  split at found
  next blank =>
    cases found
    refine ⟨.blanks (List.cons_ne_nil _ _) ?_ (head?_dropWhile_eq_false _ _), ?_⟩
    · exact List.forall_mem_cons.2 ⟨blank, fun _ => List.mem_takeWhile_imp⟩
    · rw [Lexeme.chars, List.cons_append, List.takeWhile_append_dropWhile]
  next visible =>
    split at found
    next comment =>
      cases found
      rw [comment]
      refine ⟨.comment ?_ ?_, ?_⟩
      · intro member
        simpa using List.mem_takeWhile_imp member
      · intro d first
        simpa using head?_dropWhile_eq_false _ _ d first
      · rw [Lexeme.chars, List.cons_append, List.takeWhile_append_dropWhile]
    next plain =>
      split at found
      next quotes =>
        obtain ⟨⟨body, tail⟩, closed, same⟩ := Option.map_eq_some_iff.1 found
        cases same
        obtain ⟨inner, isBody, rfl, rfl⟩ := (literalBody_eq_some_iff quotes).1 closed
        exact ⟨.literal _ quotes isBody, by simp [Lexeme.chars, Token.chars]⟩
      next unquoted =>
        split at found
        next mark =>
          cases found
          exact ⟨.mark _ mark, rfl⟩
        next unmarked =>
          cases found
          have first : isWordChar c = true := by
            simp [isWordChar, visible, unmarked, unquoted, plain]
          refine ⟨.word ⟨List.cons_ne_nil _ _, ?_⟩ (head?_dropWhile_eq_false _ _), ?_⟩
          · exact List.forall_mem_cons.2 ⟨first, fun _ => List.mem_takeWhile_imp⟩
          · rw [Lexeme.chars, Token.chars, List.cons_append, List.takeWhile_append_dropWhile]

theorem Lexeme.Before.found (before : lexeme.Before left) :
    ∃ c rest, lexeme.chars ++ left = c :: rest ∧ nextLexeme? c rest = some (lexeme, left) := by
  cases before with
  | @blanks cs _ nonempty blank ends =>
    obtain ⟨c, more, rfl⟩ := List.exists_cons_of_ne_nil nonempty
    obtain ⟨first, others⟩ := List.forall_mem_cons.1 blank
    obtain ⟨taken, dropped⟩ := span_eq others ends
    refine ⟨c, more ++ left, rfl, ?_⟩
    rw [nextLexeme?_blank first, taken, dropped]
  | @comment line _ inLine ends =>
    have within : ∀ d ∈ line, decide (d ≠ '\n') = true := fun d member =>
      decide_eq_true fun same => inLine (same ▸ member)
    obtain ⟨taken, dropped⟩ := span_eq within fun d first => by simpa using ends d first
    refine ⟨'#', line ++ left, rfl, ?_⟩
    change some (Lexeme.gap ('#' :: (line ++ left).takeWhile (· ≠ '\n')),
      (line ++ left).dropWhile (· ≠ '\n')) = _
    rw [taken, dropped]
  | @literal quote body _ quotes isBody =>
    obtain ⟨visible, text⟩ := quote_plain quotes
    have closed : literalBody quote [] (body ++ [quote] ++ left) = some (body, left) :=
      (literalBody_eq_some_iff quotes).2 ⟨body, isBody, rfl, by simp⟩
    refine ⟨quote, body ++ [quote] ++ left, rfl, ?_⟩
    simp only [nextLexeme?, visible, text, quotes, closed, Bool.false_eq_true, if_false, if_true,
      Option.map_some]
  | @mark c _ mark =>
    obtain ⟨visible, text, unquoted⟩ := mark_plain mark
    refine ⟨c, left, rfl, ?_⟩
    simp only [nextLexeme?, visible, text, unquoted, mark, Bool.false_eq_true, if_false, if_true]
  | @word cs _ word ends =>
    obtain ⟨nonempty, all⟩ := word
    obtain ⟨c, more, rfl⟩ := List.exists_cons_of_ne_nil nonempty
    exact ⟨c, more ++ left, rfl, nextLexeme?_word all ends⟩

theorem Lexeme.Before.append (before : lexeme.Before (c :: left)) (more : List Char) :
    lexeme.Before (c :: left ++ more) := by
  cases before with
  | blanks nonempty blank ends => exact .blanks nonempty blank ends
  | comment inLine ends => exact .comment inLine ends
  | literal _ quotes isBody => exact .literal _ quotes isBody
  | mark _ mark => exact .mark _ mark
  | word word ends => exact .word word ends

theorem nextLexeme?_eq_none_iff :
    nextLexeme? c rest = none ↔ isQuote c = true ∧ Unclosed c rest := by
  constructor
  · intro failed
    unfold nextLexeme? at failed
    split at failed
    next => cases failed
    next =>
      split at failed
      next => cases failed
      next =>
        split at failed
        next quotes =>
          exact ⟨quotes, (literalBody_eq_none_iff quotes).1 (Option.map_eq_none_iff.1 failed)⟩
        next => split at failed <;> cases failed
  · rintro ⟨quotes, unclosed⟩
    obtain ⟨visible, text⟩ := quote_plain quotes
    rw [nextLexeme?, if_neg (by simp [visible]), if_neg text, if_pos quotes,
      (literalBody_eq_none_iff quotes).2 unclosed]
    rfl

end Lexemes

/-- Lexemes in a row, each of which stands before what comes behind it. -/
def Tiling (rest : List Char) : List Lexeme → Prop
  | [] => True
  | lexeme :: more => lexeme.Before (more.flatMap Lexeme.chars ++ rest) ∧ Tiling rest more

inductive Stops : List Char → Prop
  | ended : Stops []
  | unclosed {quote : Char} {more : List Char} (quotes : isQuote quote = true)
      (unclosed : Unclosed quote more) : Stops (quote :: more)

section Tiling

variable {cs rest : List Char} {lexemes : List Lexeme}

theorem exists_tiling (cs : List Char) :
    ∃ lexemes rest, cs = lexemes.flatMap Lexeme.chars ++ rest ∧ Tiling rest lexemes ∧ Stops rest := by
  induction size : cs.length using Nat.strong_induction_on generalizing cs with
  | _ size ih =>
    subst size
    cases cs with
    | nil => exact ⟨[], [], rfl, trivial, .ended⟩
    | cons c rest =>
      cases found : nextLexeme? c rest with
      | none =>
        obtain ⟨quotes, unclosed⟩ := nextLexeme?_eq_none_iff.1 found
        exact ⟨[], c :: rest, rfl, trivial, .unclosed quotes unclosed⟩
      | some next =>
        obtain ⟨lexeme, left⟩ := next
        obtain ⟨before, whole⟩ := before_of_nextLexeme? found
        have shorter : left.length < (c :: rest).length :=
          Nat.lt_succ_of_le (nextLexeme?_length_le found)
        obtain ⟨lexemes, tail, rfl, tiling, stops⟩ := ih _ shorter left rfl
        refine ⟨lexeme :: lexemes, tail, ?_, ⟨before, tiling⟩, stops⟩
        rw [whole, List.flatMap_cons, List.append_assoc]

theorem lexemesFrom_append (tiling : Tiling rest lexemes) (n : Nat) :
    lexemesFrom n (lexemes.flatMap Lexeme.chars ++ rest) =
      (lexemesFrom (n + (lexemes.flatMap Lexeme.chars).length) rest).map (lexemes ++ ·) := by
  induction lexemes generalizing n with
  | nil =>
    change lexemesFrom n rest = (lexemesFrom n rest).map id
    cases lexemesFrom n rest <;> rfl
  | cons lexeme more ih =>
    obtain ⟨before, others⟩ := tiling
    obtain ⟨c, behind, shape, found⟩ := before.found
    have scanned := lexemesFrom_cons found n
    rw [← shape] at scanned
    rw [List.flatMap_cons, List.append_assoc]
    rw [scanned, ih others, List.length_append, ← Nat.add_assoc]
    cases lexemesFrom (n + lexeme.chars.length + (more.flatMap Lexeme.chars).length) rest <;> rfl

theorem tokens_of_tiling (whole : cs = lexemes.flatMap Lexeme.chars) (tiling : Tiling [] lexemes) :
    tokens cs = .ok (lexemes.filterMap Lexeme.token?) := by
  have scanned := lexemesFrom_append tiling 0
  have ending (n : Nat) : lexemesFrom n [] = .ok [] := by
    unfold lexemesFrom
    rfl
  rw [List.append_nil, ← whole, ending] at scanned
  rw [tokens, scanned, Except.map, Except.map, List.append_nil]

theorem tokens_of_unclosed {quote : Char} {more : List Char}
    (whole : cs = lexemes.flatMap Lexeme.chars ++ quote :: more)
    (tiling : Tiling (quote :: more) lexemes) (quotes : isQuote quote = true)
    (unclosed : Unclosed quote more) :
    tokens cs = .error ⟨(lexemes.flatMap Lexeme.chars).length, quote :: more⟩ := by
  have scanned := lexemesFrom_append tiling 0
  have failed := nextLexeme?_eq_none_iff.2 ⟨quotes, unclosed⟩
  rw [← whole, Nat.zero_add, lexemesFrom_of_none failed] at scanned
  rw [tokens, scanned]
  rfl

end Tiling

/-- The tokens of a text are those of the lexemes that tile it, without the gaps. A text has none
exactly if lexemes tile it up to a quote that is not closed and so opens no literal; that is where the
fault is. A text that was written as a literal is one token, and comes back from it. -/
theorem tokens_tiling (cs : List Char) :
    (∀ ts, tokens cs = .ok ts ↔
      ∃ lexemes, cs = lexemes.flatMap Lexeme.chars ∧ Tiling [] lexemes ∧
        ts = lexemes.filterMap Lexeme.token?) ∧
    (∀ fault, tokens cs = .error fault ↔
      ∃ lexemes quote more, cs = lexemes.flatMap Lexeme.chars ++ quote :: more ∧
        Tiling (quote :: more) lexemes ∧
        fault = ⟨(lexemes.flatMap Lexeme.chars).length, quote :: more⟩ ∧
        isQuote quote = true ∧ Unclosed quote more ∧
        ¬∃ body left, IsBody quote body ∧ more = body ++ quote :: left) ∧
    ∀ s quote, isQuote quote = true →
      tokens (literalOf quote s).chars = .ok [literalOf quote s] ∧
        literalText (literalOf quote s) = s := by
  refine ⟨fun ts => ⟨?_, ?_⟩, fun fault => ⟨?_, ?_⟩, fun s quote quotes => ⟨?_, ?_⟩⟩
  -- Every text has a tiling up to where the scanner stops; the two ways to stop exclude each other.
  · intro scanned
    obtain ⟨lexemes, rest, whole, tiling, stops⟩ := exists_tiling cs
    cases stops with
    | ended =>
      rw [List.append_nil] at whole
      rw [tokens_of_tiling whole tiling] at scanned
      exact ⟨lexemes, whole, tiling, (Except.ok.inj scanned).symm⟩
    | unclosed quotes unclosed =>
      rw [tokens_of_unclosed whole tiling quotes unclosed] at scanned
      cases scanned
  · rintro ⟨lexemes, whole, tiling, rfl⟩
    exact tokens_of_tiling whole tiling
  · intro failed
    obtain ⟨lexemes, rest, whole, tiling, stops⟩ := exists_tiling cs
    cases stops with
    | ended =>
      rw [List.append_nil] at whole
      rw [tokens_of_tiling whole tiling] at failed
      cases failed
    | unclosed quotes unclosed =>
      rw [tokens_of_unclosed whole tiling quotes unclosed] at failed
      exact ⟨lexemes, _, _, whole, tiling, (Except.error.inj failed).symm, quotes, unclosed,
        (unclosed_iff quotes).1 unclosed⟩
  · rintro ⟨lexemes, quote, more, whole, tiling, rfl, quotes, unclosed, _⟩
    exact tokens_of_unclosed whole tiling quotes unclosed
  · have ending : tokens [] = .ok [] := @tokens_of_tiling [] [] rfl trivial
    simpa using tokens_literal quotes s ending
  · exact unescape_flatMap quotes s

/-- An escaped quote inside a literal, a quote in a comment, a blank outside ASCII, and a quote behind
which every backslash has a character and the quote does not come again. A text that ends in a
backslash is written as a literal all the same. -/
theorem tokens_tiling_sample :
    let cs := "a:'it\\'s' #\"\n\u00a0\"b\\\\\\\"".toList
    let rest := "\"b\\\\\\\"".toList
    let written := literalOf '\x22' ['\x27', '\x22', '\n', '\\']
    (∃ lexemes, cs = lexemes.flatMap Lexeme.chars ++ rest ∧ Tiling rest lexemes ∧
        (lexemes.flatMap Lexeme.chars).length = 14) ∧
      Unclosed '\x22' rest.tail ∧
      tokens written.chars = .ok [written] ∧ literalText written = ['\x27', '\x22', '\n', '\\'] := by
  intro cs rest written
  obtain ⟨_, fails, literals⟩ := tokens_tiling cs
  have failed : tokens cs = .error ⟨14, rest⟩ := by decide +kernel
  obtain ⟨lexemes, quote, more, whole, tiling, same, _, unclosed, _⟩ := (fails _).1 failed
  obtain ⟨offset, shape⟩ := ScanFault.mk.inj same
  obtain ⟨rfl, rfl⟩ := List.cons.inj shape
  exact ⟨⟨lexemes, whole, tiling, offset.symm⟩, unclosed, literals _ _ rfl⟩

end WorkspaceImport.TextFormat
