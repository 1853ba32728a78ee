import WorkspaceImport.TextFormat.Token
import WorkspaceImport.Proofs.Text.Runs
/-!
How the tokens of a text follow from those of its end. A blank in front changes nothing, and a mark,
a word that goes no further or a literal in front is one more token. The body of a literal that was
written from a text gives that text back, whatever characters are in it.
-/
namespace WorkspaceImport.TextFormat

section Lexemes

variable {c : Char} {rest left : List Char} {lexeme : Lexeme}

theorem lexemesFrom_cons (found : nextLexeme? c rest = some (lexeme, left)) (n : Nat) :
    lexemesFrom n (c :: rest) =
      (lexemesFrom (n + lexeme.chars.length) left).map fun more => lexeme :: more := by
  conv => lhs; unfold lexemesFrom
  simp only
  split
  next none =>
    rw [found] at none
    cases none
  next lexeme' left' found' =>
    rw [found] at found'
    cases found'
    cases lexemesFrom (n + lexeme.chars.length) left <;> rfl

theorem lexemesFrom_of_none (failed : nextLexeme? c rest = none) (n : Nat) :
    lexemesFrom n (c :: rest) = .error ⟨n, c :: rest⟩ := by
  unfold lexemesFrom
  split
  next => rfl
  next lexeme left found =>
    rw [failed] at found
    cases found

theorem lexemesFrom_ok (n : Nat) {offset : Nat} {cs : List Char} {lexemes : List Lexeme}
    (scanned : lexemesFrom offset cs = .ok lexemes) : lexemesFrom n cs = .ok lexemes := by
  fun_induction lexemesFrom offset cs generalizing n lexemes with
  | case1 =>
    unfold lexemesFrom
    exact scanned
  | case3 offset c rest lexeme left found shorter more run ih =>
    rw [lexemesFrom_cons found, ih _ run]
    exact scanned
  | _ => cases scanned

theorem tokens_eq_ok_iff {cs : List Char} {ts : List Token} :
    tokens cs = .ok ts ↔
      ∃ lexemes, lexemesFrom 0 cs = .ok lexemes ∧ lexemes.filterMap Lexeme.token? = ts := by
  rw [tokens]
  cases lexemesFrom 0 cs with
  | error fault => simp [Except.map]
  | ok lexemes => simp [Except.map]

theorem tokens_cons (found : nextLexeme? c rest = some (lexeme, left)) {ts : List Token} :
    tokens (c :: rest) = .ok ts ↔
      ∃ us, tokens left = .ok us ∧ ts = lexeme.token?.toList ++ us := by
  simp only [tokens_eq_ok_iff]
  constructor
  · rintro ⟨lexemes, scanned, rfl⟩
    rw [lexemesFrom_cons found] at scanned
    cases run : lexemesFrom (0 + lexeme.chars.length) left with
    | error fault =>
      rw [run] at scanned
      cases scanned
    | ok more =>
      rw [run] at scanned
      cases scanned
      refine ⟨_, ⟨more, lexemesFrom_ok 0 run, rfl⟩, ?_⟩
      cases shape : lexeme.token? <;> simp [shape]
  · rintro ⟨us, ⟨more, run, rfl⟩, rfl⟩
    refine ⟨lexeme :: more, ?_, ?_⟩
    · rw [lexemesFrom_cons found, lexemesFrom_ok _ run]
      rfl
    · cases shape : lexeme.token? <;> simp [shape]

end Lexemes

section Tokens

variable {cs : List Char} {ts : List Token}

theorem nextLexeme?_blank {c : Char} (blank : Text.isBlank c = true) (rest : List Char) :
    nextLexeme? c rest =
      some (.gap (c :: rest.takeWhile Text.isBlank), rest.dropWhile Text.isBlank) := by
  rw [nextLexeme?, if_pos blank]

theorem tokens_blank {c : Char} (blank : Text.isBlank c = true) (scanned : tokens cs = .ok ts) :
    tokens (c :: cs) = .ok ts := by
  rw [tokens_cons (nextLexeme?_blank blank cs)]
  refine ⟨ts, ?_, rfl⟩
  cases cs with
  | nil => exact scanned
  | cons d more =>
    by_cases again : Text.isBlank d = true
    · obtain ⟨us, left, rfl⟩ := (tokens_cons (nextLexeme?_blank again more)).1 scanned
      rw [List.dropWhile_cons_of_pos again]
      exact left
    · rw [List.dropWhile_cons_of_neg again]
      exact scanned

theorem tokens_mark {c : Char} (plain : Text.isBlank c = false ∧ c ≠ '#' ∧ isQuote c = false)
    (mark : isMark c = true) (scanned : tokens cs = .ok ts) :
    tokens (c :: cs) = .ok (.mark c :: ts) := by
  obtain ⟨visible, text, unquoted⟩ := plain
  have found : nextLexeme? c cs = some (.token (.mark c), cs) := by
    simp [nextLexeme?, visible, text, unquoted, mark]
  exact (tokens_cons found).2 ⟨ts, scanned, rfl⟩

def IsWord (cs : List Char) : Prop :=
  cs ≠ [] ∧ ∀ c ∈ cs, isWordChar c = true

instance (cs : List Char) : Decidable (IsWord cs) :=
  decidable_of_iff (cs.isEmpty = false ∧ cs.all isWordChar = true) (by simp [IsWord])

theorem nextLexeme?_word {c : Char} {more : List Char} (all : ∀ d ∈ c :: more, isWordChar d = true)
    (ends : ∀ d ∈ cs.head?, isWordChar d = false) :
    nextLexeme? c (more ++ cs) = some (.token (.word (c :: more)), cs) := by
  obtain ⟨first, others⟩ := List.forall_mem_cons.1 all
  obtain ⟨taken, dropped⟩ := span_eq others ends
  simp only [isWordChar, Bool.and_eq_true, Bool.not_eq_true', bne_iff_ne, ne_eq] at first
  obtain ⟨⟨⟨visible, unmarked⟩, unquoted⟩, text⟩ := first
  simp [nextLexeme?, visible, text, unquoted, unmarked, taken, dropped]

theorem tokens_word {w : List Char} (word : IsWord w) (ends : ∀ c ∈ cs.head?, isWordChar c = false)
    (scanned : tokens cs = .ok ts) : tokens (w ++ cs) = .ok (.word w :: ts) := by
  obtain ⟨nonempty, all⟩ := word
  obtain ⟨c, more, rfl⟩ := List.exists_cons_of_ne_nil nonempty
  exact (tokens_cons (nextLexeme?_word all ends)).2 ⟨ts, scanned, rfl⟩

end Tokens

section Literals

variable {quote : Char}

theorem isQuote_iff {c : Char} : isQuote c = true ↔ c = '\x22' ∨ c = '\x27' := by
  simp [isQuote]

theorem backslash_ne_quote (quotes : isQuote quote = true) : '\\' ≠ quote := by
  rcases isQuote_iff.1 quotes with rfl | rfl <;> decide

theorem quote_plain (quotes : isQuote quote = true) :
    Text.isBlank quote = false ∧ quote ≠ '#' := by
  rcases isQuote_iff.1 quotes with rfl | rfl <;> decide

theorem escapeChar_cases (quotes : isQuote quote = true) (c : Char) :
    (escapeChar quote c = [c] ∧ c ≠ '\\' ∧ c ≠ quote) ∨
      ∃ d, escapeChar quote c = ['\\', d] ∧ d ≠ '\n' ∧ escaped d = c := by
  unfold escapeChar
  split
  next itself =>
    refine .inr ⟨c, rfl, ?_⟩
    rcases itself with rfl | rfl
    · decide
    · rcases isQuote_iff.1 quotes with rfl | rfl <;> decide
  next plain =>
    obtain ⟨noEscape, noQuote⟩ := not_or.1 plain
    split
    next line => exact .inr ⟨'n', rfl, by decide, line.symm⟩
    next =>
      split
      next tab => exact .inr ⟨'t', rfl, by decide, tab.symm⟩
      next =>
        split
        next back => exact .inr ⟨'r', rfl, by decide, back.symm⟩
        next => exact .inl ⟨rfl, noEscape, noQuote⟩

theorem literalBody_quote (done rest : List Char) :
    literalBody quote done (quote :: rest) = some (done.reverse, rest) := by
  unfold literalBody
  rw [if_pos rfl]

theorem literalBody_plain {c : Char} (noEscape : c ≠ '\\') (noQuote : c ≠ quote)
    (done rest : List Char) :
    literalBody quote done (c :: rest) = literalBody quote (c :: done) rest := by
  conv => lhs; unfold literalBody
  rw [if_neg noQuote, if_neg noEscape]

theorem literalBody_escaped {d : Char} (quotes : isQuote quote = true) (goesOn : d ≠ '\n')
    (done rest : List Char) :
    literalBody quote done ('\\' :: d :: rest) = literalBody quote (d :: '\\' :: done) rest := by
  conv => lhs; unfold literalBody
  rw [if_neg (backslash_ne_quote quotes), if_pos rfl]
  simp only [if_neg goesOn]

theorem literalBody_flatMap (quotes : isQuote quote = true) (cs done rest : List Char) :
    literalBody quote done (cs.flatMap (escapeChar quote) ++ quote :: rest) =
      some (done.reverse ++ cs.flatMap (escapeChar quote), rest) := by
  induction cs generalizing done with
  | nil =>
    rw [List.flatMap_nil, List.nil_append, literalBody_quote, List.append_nil]
  | cons c more ih =>
    rcases escapeChar_cases quotes c with ⟨written, noEscape, noQuote⟩ | ⟨d, written, goesOn, _⟩
    · rw [List.flatMap_cons, written, List.append_assoc, List.singleton_append,
        literalBody_plain noEscape noQuote, ih]
      simp
    · rw [List.flatMap_cons, written, List.append_assoc, List.cons_append, List.singleton_append,
        literalBody_escaped quotes goesOn, ih]
      simp

theorem tokens_literal (quotes : isQuote quote = true) (s : List Char) {rest : List Char}
    {ts : List Token} (scanned : tokens rest = .ok ts) :
    tokens ((literalOf quote s).chars ++ rest) = .ok (literalOf quote s :: ts) := by
  have found : nextLexeme? quote (s.flatMap (escapeChar quote) ++ quote :: rest) =
      some (.token (literalOf quote s), rest) := by
    simp [nextLexeme?, quote_plain quotes, quotes, literalBody_flatMap, literalOf]
  rw [literalOf, Token.chars, List.cons_append, List.append_assoc, List.singleton_append]
  exact (tokens_cons found).2 ⟨ts, scanned, rfl⟩

theorem unescape_plain {c : Char} (noEscape : c ≠ '\\') (rest : List Char) :
    unescape (c :: rest) = c :: unescape rest := by
  rw [unescape]
  · exact fun _ same => absurd same noEscape
  · exact fun _ _ same => absurd same noEscape

theorem unescape_escaped {d : Char} (goesOn : d ≠ '\n') (rest : List Char) :
    unescape ('\\' :: d :: rest) = escaped d :: unescape rest := by
  rw [unescape]
  exact goesOn

theorem unescape_flatMap (quotes : isQuote quote = true) (cs : List Char) :
    unescape (cs.flatMap (escapeChar quote)) = cs := by
  induction cs with
  | nil => rfl
  | cons c more ih =>
    rw [List.flatMap_cons]
    rcases escapeChar_cases quotes c with ⟨written, noEscape, _⟩ | ⟨d, written, goesOn, same⟩
    · rw [written, List.singleton_append, unescape_plain noEscape, ih]
    · rw [written, List.cons_append, List.singleton_append, unescape_escaped goesOn, ih, same]

end Literals

end WorkspaceImport.TextFormat
