import WorkspaceImport.Proofs.TextFormat.Grammar
import WorkspaceImport.Proofs.TextFormat.Tiling
/-!
Texts of messages put together. Only two things at the end of a text can go on in what is put behind
it: a word, and a comment on the last line. So two messages with the end of a line between them are
one message with the fields of both, and between two fields of a message there may be any number of
blanks, comments, commas and semicolons.
-/
namespace WorkspaceImport.TextFormat

section Lexemes

variable {c : Char} {rest left : List Char} {lexeme : Lexeme}

/-- What is put behind a text does not change its first lexeme, unless that is all of the text, and
blank, a comment or a word. -/
theorem nextLexeme?_append (found : nextLexeme? c rest = some (lexeme, left)) :
    (∀ more, nextLexeme? c (rest ++ more) = some (lexeme, left ++ more)) ∨
      left = [] ∧ ((lexeme.token? = none ∧ ∀ d ∈ c :: rest, Text.isBlank d = true) ∨
        (lexeme.token? = none ∧ c = '#' ∧ '\n' ∉ rest) ∨
        (lexeme.token? = some (.word (c :: rest)) ∧ IsWord (c :: rest))) := by
  obtain ⟨before, whole⟩ := before_of_nextLexeme? found
  have again {more : List Char} (still : lexeme.Before (left ++ more)) :
      nextLexeme? c (rest ++ more) = some (lexeme, left ++ more) := by
    obtain ⟨d, behind, shape, next⟩ := still.found
    rw [← List.append_assoc, ← whole, List.cons_append] at shape
    cases shape
    exact next
  cases left with
  | cons d later => exact .inl fun more => again (before.append more)
  | nil =>
    rw [List.append_nil] at whole
    cases before with
    | blanks _ blank => exact .inr ⟨rfl, .inl ⟨rfl, whole ▸ blank⟩⟩
    | comment inLine =>
      cases whole
      exact .inr ⟨rfl, .inr (.inl ⟨rfl, rfl, inLine⟩)⟩
    | literal _ quotes isBody => exact .inl fun more => again (.literal _ quotes isBody)
    | mark _ mark => exact .inl fun more => again (.mark _ mark)
    | word word => exact .inr ⟨rfl, .inr (.inr ⟨by rw [whole]; rfl, whole ▸ word⟩)⟩

end Lexemes

theorem dropWhile_line {line : List Char} (inLine : '\n' ∉ line) (more : List Char) :
    (line ++ more).dropWhile (· ≠ '\n') = more.dropWhile (· ≠ '\n') := by
  apply List.dropWhile_append_of_pos
  intro c member
  simpa using fun same : c = '\n' => inLine (same ▸ member)

inductive GoesOn (cs : List Char) (ts : List Token) : Prop
  | apart (behind : ∀ {more us}, (∀ c ∈ more.head?, isWordChar c = false) → tokens more = .ok us →
      tokens (cs ++ more) = .ok (ts ++ us))
  | comment (behind : ∀ {more vs}, tokens (cs ++ more) = .ok vs ↔
      ∃ us, tokens (more.dropWhile (· ≠ '\n')) = .ok us ∧ vs = ts ++ us)

section Tokens

variable {c : Char} {cs rest left more : List Char} {lexeme : Lexeme} {ts us : List Token}

theorem tokens_blanks (blank : ∀ c ∈ cs, Text.isBlank c = true) (scanned : tokens more = .ok ts) :
    tokens (cs ++ more) = .ok ts := by
  induction cs with
  | nil => exact scanned
  | cons c rest ih =>
    obtain ⟨first, others⟩ := List.forall_mem_cons.1 blank
    exact tokens_blank first (ih others)

theorem tokens_comment :
    tokens ('#' :: cs) = .ok ts ↔ tokens (cs.dropWhile (· ≠ '\n')) = .ok ts := by
  have found : nextLexeme? '#' cs =
      some (.gap ('#' :: cs.takeWhile (· ≠ '\n')), cs.dropWhile (· ≠ '\n')) := rfl
  rw [tokens_cons found]
  simp [Lexeme.token?]

theorem GoesOn.cons (found : ∀ more, nextLexeme? c (rest ++ more) = some (lexeme, left ++ more))
    (goesOn : GoesOn left ts) : GoesOn (c :: rest) (lexeme.token?.toList ++ ts) := by
  cases goesOn with
  | apart behind =>
    refine .apart fun {more us} ends scanned => ?_
    rw [List.cons_append, tokens_cons (found more), List.append_assoc]
    exact ⟨_, behind ends scanned, rfl⟩
  | comment behind =>
    refine .comment fun {more vs} => ?_
    rw [List.cons_append, tokens_cons (found more)]
    constructor
    · rintro ⟨ws, scanned, rfl⟩
      obtain ⟨us, line, rfl⟩ := behind.1 scanned
      exact ⟨us, line, (List.append_assoc _ _ _).symm⟩
    · rintro ⟨us, line, rfl⟩
      exact ⟨_, behind.2 ⟨us, line, rfl⟩, List.append_assoc _ _ _⟩

theorem goesOn_of_lexemes {offset : Nat} {lexemes : List Lexeme}
    (scanned : lexemesFrom offset cs = .ok lexemes) :
    GoesOn cs (lexemes.filterMap Lexeme.token?) := by
  fun_induction lexemesFrom offset cs generalizing lexemes with
  | case1 =>
    cases scanned
    exact .apart fun _ scanned => scanned
  | case3 offset c rest lexeme left found shorter more run ih =>
    cases scanned
    have first : (lexeme :: more).filterMap Lexeme.token? =
        lexeme.token?.toList ++ more.filterMap Lexeme.token? := by
      cases shape : lexeme.token? <;> simp [shape]
    rw [first]
    rcases nextLexeme?_append found with same | ⟨rfl, last⟩
    · exact (ih run).cons same
    · unfold lexemesFrom at run
      cases run
      rcases last with ⟨gap, blank⟩ | ⟨gap, rfl, line⟩ | ⟨token, word⟩
      · rw [gap]
        exact .apart fun _ scanned => tokens_blanks blank scanned
      · rw [gap]
        refine .comment fun {more vs} => ?_
        rw [List.cons_append, tokens_comment, dropWhile_line line]
        simp
      · rw [token]
        exact .apart fun ends scanned => tokens_word word ends scanned
  | _ => cases scanned

theorem goesOn (scanned : tokens cs = .ok ts) : GoesOn cs ts := by
  obtain ⟨lexemes, found, rfl⟩ := tokens_eq_ok_iff.1 scanned
  exact goesOn_of_lexemes found

theorem tokens_line (first : tokens cs = .ok ts) (second : tokens more = .ok us) :
    tokens (cs ++ '\n' :: more) = .ok (ts ++ us) := by
  have line : tokens ('\n' :: more) = .ok us := tokens_blank (by decide) second
  cases goesOn first with
  | apart behind => exact behind (fun c first => by cases first; decide) line
  | comment behind => exact behind.2 ⟨us, line, rfl⟩

end Tokens

/-- What may stand between two fields: blanks, commas and semicolons, and comments with the ends of
their lines. -/
inductive IsPadding : List Char → Prop
  | empty : IsPadding []
  | blank {c : Char} {rest : List Char} (isBlank : Text.isBlank c = true) (more : IsPadding rest) :
      IsPadding (c :: rest)
  | separator {c : Char} {rest : List Char} (separates : c = ',' ∨ c = ';')
      (more : IsPadding rest) : IsPadding (c :: rest)
  | comment {line rest : List Char} (inLine : '\n' ∉ line) (more : IsPadding rest) :
      IsPadding ('#' :: (line ++ '\n' :: rest))

def AreSeparators (ts : List Token) : Prop :=
  ∀ t ∈ ts, t = .mark ',' ∨ t = .mark ';'

namespace IsPadding

variable {padding more : List Char} {ts us : List Token}

theorem tokens_append (isPadding : IsPadding padding) (scanned : tokens more = .ok us) :
    ∃ marks, AreSeparators marks ∧ tokens (padding ++ more) = .ok (marks ++ us) := by
  induction isPadding with
  | empty => exact ⟨[], nofun, scanned⟩
  | blank isBlank _ ih =>
    obtain ⟨marks, separators, found⟩ := ih
    exact ⟨marks, separators, tokens_blank isBlank found⟩
  | @separator c rest separates _ ih =>
    obtain ⟨marks, separators, found⟩ := ih
    refine ⟨.mark c :: marks, ?_, ?_⟩
    · refine List.forall_mem_cons.2 ⟨?_, separators⟩
      simpa using separates
    · rcases separates with rfl | rfl
      · exact tokens_mark (by decide) rfl found
      · exact tokens_mark (by decide) rfl found
  | @comment line rest inLine _ ih =>
    obtain ⟨marks, separators, found⟩ := ih
    refine ⟨marks, separators, ?_⟩
    rw [List.cons_append, List.append_assoc, tokens_comment, dropWhile_line inLine]
    exact tokens_blank (by decide) found

theorem dropWhile_append (isPadding : IsPadding padding) :
    (∃ left, IsPadding left ∧ ∀ more, (padding ++ more).dropWhile (· ≠ '\n') = left ++ more) ∨
      ∀ more, (padding ++ more).dropWhile (· ≠ '\n') = more.dropWhile (· ≠ '\n') := by
  induction isPadding with
  | empty => exact .inr fun _ => rfl
  | @blank c rest isBlank isPadding ih =>
    by_cases ends : c = '\n'
    · exact .inl ⟨c :: rest, .blank isBlank isPadding, fun more => by simp [ends]⟩
    · simpa [ends] using ih
  | @separator c rest separates _ ih =>
    have inLine : c ≠ '\n' := by
      rcases separates with rfl | rfl <;> decide
    simpa [inLine] using ih
  | @comment line rest inLine isPadding ih =>
    have inLine' : '\n' ∉ '#' :: line := by simpa using inLine
    refine .inl ⟨'\n' :: rest, .blank (by decide) isPadding, fun more => ?_⟩
    rw [← List.cons_append, List.append_assoc, dropWhile_line inLine']
    rfl

theorem tokens_between (isPadding : IsPadding padding) {cs : List Char} (first : tokens cs = .ok ts)
    (second : tokens more = .ok us) (between : tokens (cs ++ more) = .ok (ts ++ us)) :
    ∃ marks, AreSeparators marks ∧ tokens (cs ++ (padding ++ more)) = .ok (ts ++ (marks ++ us)) := by
  cases goesOn first with
  | apart behind =>
    obtain ⟨marks, separators, found⟩ := isPadding.tokens_append second
    cases isPadding with
    | empty => exact ⟨[], nofun, between⟩
    | blank isBlank _ =>
      refine ⟨marks, separators, behind (fun c first => ?_) found⟩
      cases first
      simp [isWordChar, isBlank]
    | separator separates _ =>
      refine ⟨marks, separators, behind (fun c first => ?_) found⟩
      cases first
      rcases separates with rfl | rfl <;> decide
    | comment inLine _ =>
      refine ⟨marks, separators, behind (fun c first => ?_) found⟩
      cases first
      decide
  | comment behind =>
    -- The first text ends in a comment, which takes the first line of the padding.
    obtain ⟨us', line, same⟩ := behind.1 between
    obtain rfl := List.append_cancel_left same
    rcases isPadding.dropWhile_append with ⟨left, isPadding', dropped⟩ | dropped
    · obtain ⟨marks, separators, found⟩ := isPadding'.tokens_append second
      exact ⟨marks, separators, behind.2 ⟨_, by rw [dropped]; exact found, rfl⟩⟩
    · exact ⟨[], nofun, behind.2 ⟨_, by rw [dropped]; exact line, rfl⟩⟩

end IsPadding

section Fields

variable {ts us : List Token} {m n : Message}

/-- The fields of a message may be followed by those of another. Only messages are of interest in the
induction, which goes over fields and values too. -/
theorem IsMessage.append (first : IsMessage ts m) (second : IsMessage us n) :
    IsMessage (ts ++ us) (m ++ n) := by
  refine @IsMessage.rec (fun ts m _ => IsMessage (ts ++ us) (m ++ n)) (fun _ _ _ _ => True)
    (fun _ _ _ => True) second ?_ ?_ ?_ ?_ ?_ ?_ ?_ ?_ ts m first
  case refine_1 => exact fun separates _ more => .separator separates more
  case refine_2 =>
    intro ts rest name item m entry _ _ more
    rw [List.append_assoc]
    exact .field entry more
  all_goals intros; trivial

theorem AreSeparators.isMessage (separators : AreSeparators ts) (message : IsMessage us m) :
    IsMessage (ts ++ us) m := by
  induction ts with
  | nil => exact message
  | cons t rest ih =>
    obtain ⟨first, others⟩ := List.forall_mem_cons.1 separators
    rcases first with rfl | rfl
    · exact .separator (.inl rfl) (ih others)
    · exact .separator (.inr rfl) (ih others)

namespace Message

def names (m : Message) : List String :=
  (m.map (·.1)).eraseDups

/-- What stands beside a name, in the order of the text. -/
def values (m : Message) (name : String) : List Value :=
  (m.filter (·.1 = name)).map fun f => f.2.toValue

/-- The names of a message, each with its values. -/
def lists (m : Message) : List (String × List Value) :=
  m.names.map fun name => (name, m.values name)

end Message

/-- A mapping from names to lists as a data value. -/
def ofLists (lists : List (String × List Value)) : Value :=
  .ofFields (lists.map fun g => (g.1, .list g.2))

/-- Two mappings to lists as one: the names of the first, then the new names of the second, and beside
each the list in the first followed by the list in the second. -/
def mergeLists (g h : List (String × List Value)) : List (String × List Value) :=
  (g.map fun e => (e.1, e.2 ++ (valueAt? e.1 h).getD [])) ++
    h.filter fun e => (valueAt? e.1 g).isNone

namespace Message

theorem toValue_eq (m : Message) : m.toValue = ofLists m.lists := by
  rw [toValue, toValue_message, ofLists, lists, List.map_map]
  rfl

theorem names_append (m n : Message) :
    (m ++ n).names = m.names ++ n.names.filter fun name => decide (name ∉ m.names) := by
  rw [names, List.map_append, List.eraseDups_append, List.removeAll, eraseDups_filter]
  simp only [names, List.elem_eq_mem, decide_not, List.mem_eraseDups]

theorem values_append (m n : Message) (name : String) :
    (m ++ n).values name = m.values name ++ n.values name := by
  rw [values, List.filter_append, List.map_append, values, values]

theorem values_eq_nil {m : Message} {name : String} (absent : name ∉ m.names) :
    m.values name = [] := by
  rw [values, List.map_eq_nil_iff, List.filter_eq_nil_iff]
  intro f member same
  exact absent (List.mem_eraseDups.2 (List.mem_map.2 ⟨f, member, of_decide_eq_true same⟩))

theorem valueAt?_lists (m : Message) (name : String) :
    valueAt? name m.lists = if name ∈ m.names then some (m.values name) else none :=
  OrderedMap.valueAt?_map m.names m.values name

theorem getD_lists (m : Message) (name : String) :
    (valueAt? name m.lists).getD [] = m.values name := by
  rw [valueAt?_lists]
  split
  next => rfl
  next absent => rw [values_eq_nil absent, Option.getD_none]

theorem lists_append (m n : Message) : (m ++ n).lists = mergeLists m.lists n.lists := by
  have first : m.names.map (fun name => (name, (m ++ n).values name)) =
      m.lists.map fun e => (e.1, e.2 ++ (valueAt? e.1 n.lists).getD []) := by
    have shape : m.lists = m.names.map fun name => (name, m.values name) := rfl
    rw [shape, List.map_map]
    apply List.map_congr_left
    intro name _
    simp only [Function.comp_apply, values_append, getD_lists]
  have second : (n.names.filter fun name => decide (name ∉ m.names)).map
      (fun name => (name, (m ++ n).values name)) =
        n.lists.filter fun e => (valueAt? e.1 m.lists).isNone := by
    have new : (fun e : String × List Value => (valueAt? e.1 m.lists).isNone) ∘
        (fun name => (name, n.values name)) = fun name => decide (name ∉ m.names) := by
      funext name
      by_cases known : name ∈ m.names <;> simp [valueAt?_lists, known]
    have shape : n.lists = n.names.map fun name => (name, n.values name) := rfl
    rw [shape, List.filter_map, new]
    apply List.map_congr_left
    intro name member
    have absent : name ∉ m.names := of_decide_eq_true (List.mem_filter.1 member).2
    rw [values_append, values_eq_nil absent, List.nil_append]
  rw [mergeLists, ← first, ← second, ← List.map_append, ← names_append, lists]

end Message

end Fields

/-- The second text has tokens of its own behind the first: neither a word nor a comment is cut. -/
def IsCut (s t : String) : Prop :=
  ∃ ts us, tokens s.toList = .ok ts ∧ tokens t.toList = .ok us ∧
    tokens (s ++ t).toList = .ok (ts ++ us)

/-- Two texts that are messages, with the end of a line between them, are one message: the names of the
first in their order, then the new names of the second, each with its values in the first and then
those in the second. The same holds of a text that is cut between two of its fields, and whatever
padding is put there changes nothing. -/
theorem parse_append {s t : String} {m n : Message} (first : parse s = .ok m)
    (second : parse t = .ok n) :
    m.toValue = ofLists m.lists ∧ n.toValue = ofLists n.lists ∧
      (parse (s ++ "\n" ++ t)).map Message.toValue = .ok (ofLists (mergeLists m.lists n.lists)) ∧
      (IsCut s t →
        (parse (s ++ t)).map Message.toValue = .ok (ofLists (mergeLists m.lists n.lists)) ∧
          ∀ padding : String, IsPadding padding.toList →
            parse (s ++ padding ++ t) = parse (s ++ t)) := by
  obtain ⟨ts, scanned, message, shallow⟩ := parse_eq_ok_iff.1 first
  obtain ⟨us, scanned', message', shallow'⟩ := parse_eq_ok_iff.1 second
  have both := message.append message'
  have shallow : nesting (m ++ n) ≤ nestingLimit :=
    nesting_le_iff.2 (List.forall_mem_append.2
      ⟨nesting_le_iff.1 shallow, nesting_le_iff.1 shallow'⟩)
  have merged : (m ++ n).toValue = ofLists (mergeLists m.lists n.lists) := by
    rw [Message.toValue_eq, Message.lists_append]
  refine ⟨m.toValue_eq, n.toValue_eq, ?_, ?_⟩
  · have line : tokens (s ++ "\n" ++ t).toList = .ok (ts ++ us) := by
      have joined := tokens_line scanned scanned'
      simpa using joined
    rw [parse_eq_ok_iff.2 ⟨_, line, both, shallow⟩, ← merged]
    rfl
  · rintro ⟨ts', us', known, known', between⟩
    rw [scanned] at known
    rw [scanned'] at known'
    cases known
    cases known'
    have cut := parse_eq_ok_iff.2 ⟨_, between, both, shallow⟩
    constructor
    · rw [cut, ← merged]
      rfl
    · intro padding isPadding
      rw [String.toList_append] at between
      -- Padding adds nothing but separators between the tokens of the two texts.
      obtain ⟨marks, separators, found⟩ := isPadding.tokens_between scanned scanned' between
      have padded : tokens (s ++ padding ++ t).toList = .ok (ts ++ (marks ++ us)) := by
        simpa using found
      rw [cut]
      exact parse_eq_ok_iff.2
        ⟨_, padded, message.append (separators.isMessage message'), shallow⟩

/-- The first text ends in a comment, to which the first line of the padding belongs; the second
repeats a name. -/
theorem parse_append_sample :
    let s := "a: 'x' b <c: 1> # end"
    let t := "\n; d 'y'\n a: z"
    let whole : Value := .ofFields [("a", .list [.text "x", .text "z"]),
      ("b", .list [.ofFields [("c", .list [.text "1"])]]), ("d", .list [.text "y"])]
    (parse (s ++ "\n" ++ t)).map Message.toValue = .ok whole ∧
      (parse (s ++ ", # more\n ;" ++ t)).map Message.toValue = .ok whole := by
  intro s t whole
  have scanned : tokens s.toList = .ok [.word ['a'], .mark ':', .literal '\'' ['x'], .word ['b'],
      .mark '<', .word ['c'], .mark ':', .word ['1'], .mark '>'] := by
    decide +kernel
  have scanned' : tokens t.toList = .ok [.mark ';', .word ['d'], .literal '\'' ['y'], .word ['a'],
      .mark ':', .word ['z']] := by
    decide +kernel
  have inner : IsMessage ([.word ['c'], .mark ':', .word ['1']] ++ []) [("c", .scalar "1")] :=
    .field (.colon (.word ['1'])) .empty
  have a : IsField [.word ['a'], .mark ':', .literal '\'' ['x']] "a" (.scalar "x") :=
    .colon (.literals (List.cons_ne_nil _ _) (by decide))
  have b : IsField (.word ['b'] :: .mark '<' :: _) "b" _ := .plain (.angles inner)
  have d : IsField [.word ['d'], .literal '\'' ['y']] "d" (.scalar "y") :=
    .plain (.literals (List.cons_ne_nil _ _) (by decide))
  have a' : IsField [.word ['a'], .mark ':', .word ['z']] "a" (.scalar "z") := .colon (.word ['z'])
  have first := parse_eq_ok_iff.2 ⟨_, scanned, .field a (.field b .empty), by decide⟩
  have second := parse_eq_ok_iff.2
    ⟨_, scanned', .separator (.inr rfl) (.field d (.field a' .empty)), by decide⟩
  obtain ⟨_, _, line, cut⟩ := parse_append first second
  obtain ⟨joined, padded⟩ := cut ⟨_, _, scanned, scanned', by decide +kernel⟩
  refine ⟨line, ?_⟩
  rw [padded, joined]
  · rfl
  · have more : IsPadding (", # more\n ;").toList :=
      .separator (.inl rfl) (.blank rfl (@IsPadding.comment " more".toList _ (by decide)
        (.blank rfl (.separator (.inr rfl) .empty))))
    exact more

end WorkspaceImport.TextFormat
