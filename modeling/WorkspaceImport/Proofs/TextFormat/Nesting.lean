import WorkspaceImport.Proofs.TextFormat.Printing
/-!
Messages that are nested too deep. The reader gives up where a message opens inside as many others as
there may be. What comes behind is not looked at, so it gives up whether or not the text is a message.
-/
namespace WorkspaceImport.TextFormat

/-- The beginning of a field, up to the mark that opens a message. -/
inductive IsOpening : List Token → Prop
  | plain (name : List Char) {c d : Char} (closes : closer? c = some d) :
      IsOpening [.word name, .mark c]
  | colon (name : List Char) {c d : Char} (closes : closer? c = some d) :
      IsOpening [.word name, .mark ':', .mark c]

/-- This many messages open inside each other, each of them behind a row of complete fields. -/
inductive Opens : Nat → List Token → Prop
  | here (ts : List Token) : Opens 0 ts
  | inside {n : Nat} {before opening after : List Token} {m : Message}
      (message : IsMessage before m) (isOpening : IsOpening opening) (deeper : Opens n after) :
      Opens (n + 1) (before ++ (opening ++ after))

section Opens

variable {n : Nat} {ts us : List Token} {name : String} {item : Item}

theorem Opens.separator {c : Char} (separates : c = ',' ∨ c = ';') (opens : Opens (n + 1) ts) :
    Opens (n + 1) (.mark c :: ts) := by
  cases opens with
  | inside message isOpening deeper => exact .inside (.separator separates message) isOpening deeper

theorem Opens.field (first : IsField ts name item) (opens : Opens (n + 1) us) :
    Opens (n + 1) (ts ++ us) := by
  cases opens with
  | inside message isOpening deeper =>
    rw [← List.append_assoc]
    exact .inside (.field first message) isOpening deeper

theorem Opens.of_dropColon (name : List Char) {c d : Char} (closes : closer? c = some d)
    (dropped : dropColon ts = .mark c :: us) (deeper : Opens n us) :
    Opens (n + 1) (.word name :: ts) := by
  unfold dropColon at dropped
  split at dropped
  next =>
    rw [dropped]
    exact .inside .empty (.colon name closes) deeper
  next =>
    rw [dropped]
    exact .inside .empty (.plain name closes) deeper

end Opens

theorem opens_of_fields {depth : Nat} {closing : Option Char} {ts : List Token}
    (stopped : fields depth closing ts = .error .nestedTooDeep) : Opens (depth + 1) ts := by
  -- A message opens too deep at this mark, inside the message that opens here, or behind this field.
  fun_induction fields depth closing ts with
  | case4 depth closing c rest awaited separates fault run ih =>
    cases stopped
    exact (ih run).separator separates
  | case10 =>
    rename_i closing name rest short opener after dropped closer closes
    exact .of_dropColon name closes dropped (.here after)
  | case11 =>
    rename_i closing name rest short opener after dropped closer closes deeper inside fault run ih
    cases stopped
    exact .of_dropColon name closes dropped (ih run)
  | case12 =>
    rename_i closing name rest short opener after dropped closer closes deeper inside inner left run
      bound fault run' ih ih'
    cases stopped
    obtain ⟨ts, _, whole, message, _, ends⟩ := isMessage_of_fields run
    cases ends
    obtain ⟨vs, split, field⟩ := isField_of_nested name dropped closes whole message
    rw [split]
    exact (ih' run').field field
  | case14 =>
    rename_i depth closing name rest short quote body after dropped inside fault run ih
    cases stopped
    obtain ⟨vs, split, field⟩ := isField_of_literals name dropped
    rw [split]
    exact (ih run).field field
  | case16 =>
    rename_i depth closing name rest short cs after dropped inside fault run ih
    cases stopped
    obtain ⟨vs, split, field⟩ := isField_of_dropColon name after dropped (.word cs)
    rw [split]
    exact (ih run).field field
  | _ => cases stopped

def GivesUp (depth : Nat) (closing : Option Char) (ts : List Token) : Prop :=
  fields depth closing ts = .error .nestedTooDeep

section GivesUp

variable {depth : Nat} {closing : Option Char} {ts us vs inner : List Token} {m : Message}

theorem givesUp_iff : GivesUp depth closing ts ↔
    reading depth closing ts = .error .nestedTooDeep :=
  reading_eq_nestedTooDeep_iff.symm

theorem GivesUp.separator {c : Char} (awaited : closing ≠ some c) (separates : c = ',' ∨ c = ';')
    (givesUp : GivesUp depth closing ts) : GivesUp depth closing (.mark c :: ts) := by
  rw [givesUp_iff, reading_separator awaited separates]
  exact givesUp_iff.1 givesUp

theorem GivesUp.word (name cs : List Char) (dropped : dropColon ts = .word cs :: us)
    (givesUp : GivesUp depth closing us) : GivesUp depth closing (.word name :: ts) := by
  rw [givesUp_iff, reading_word name cs dropped, givesUp_iff.1 givesUp]
  rfl

theorem GivesUp.literals (name : List Char) {quote : Char} {body : List Char}
    (all : ∀ t ∈ us, isLiteral t = true) (maximal : ∀ t ∈ vs.head?, isLiteral t = false)
    (dropped : dropColon ts = .literal quote body :: (us ++ vs)) (givesUp : GivesUp depth closing vs) :
    GivesUp depth closing (.word name :: ts) := by
  rw [givesUp_iff, reading_literals name all maximal dropped, givesUp_iff.1 givesUp]
  rfl

section Nested

variable (name : List Char) {c d : Char} (closes : closer? c = some d)
  (dropped : dropColon ts = .mark c :: inner)
include closes dropped

theorem GivesUp.bottom : GivesUp 0 closing (.word name :: ts) :=
  givesUp_iff.2 (reading_bottom name closes dropped)

theorem GivesUp.inside (givesUp : GivesUp depth (some d) inner) :
    GivesUp (depth + 1) closing (.word name :: ts) := by
  rw [givesUp_iff, reading_nested name closes dropped, givesUp_iff.1 givesUp]
  rfl

theorem GivesUp.behind (inside : Reads depth (some d) inner m us)
    (givesUp : GivesUp (depth + 1) closing us) : GivesUp (depth + 1) closing (.word name :: ts) := by
  rw [givesUp_iff, reading_nested name closes dropped, reads_iff.1 inside]
  exact except_map_eq_error.2 (givesUp_iff.1 givesUp)

/-- A message that is read inside another one stops the reader if it goes too deep itself, or if that
happens behind it. -/
theorem GivesUp.nested (givesUp : ∀ {depth}, depth < nesting m → GivesUp depth (some d) inner)
    (reads : ∀ {depth}, nesting m ≤ depth → Reads depth (some d) inner m us)
    (deep : depth < nesting m + 1 ∨ GivesUp depth closing us) :
    GivesUp depth closing (.word name :: ts) := by
  cases depth with
  | zero => exact .bottom name closes dropped
  | succ depth =>
    rcases Nat.lt_or_ge depth (nesting m) with deeper | shallow
    · exact .inside name closes dropped (givesUp deeper)
    · refine .behind name closes dropped (reads shallow) (deep.resolve_left ?_)
      omega

end Nested

end GivesUp

mutual

theorem IsMessage.givesUp {ts us : List Token} {m : Message} {depth : Nat} {closing : Option Char}
    (message : IsMessage ts m) (distinct : Distinct closing)
    (maximal : ∀ t ∈ us.head?, isLiteral t = false)
    (deep : depth < nesting m ∨ GivesUp depth closing us) : GivesUp depth closing (ts ++ us) :=
  match message with
  | .empty => deep.resolve_left (Nat.not_lt_zero _)
  | .separator separates more =>
    .separator (distinct.ne separates) separates (more.givesUp distinct maximal deep)
  | @IsMessage.field _ _ _ item _ first more => by
    rw [List.append_assoc]
    refine first.givesUp (more.head? maximal) ?_
    rcases Nat.lt_or_ge depth item.nesting with deeper | shallow
    · exact .inl deeper
    · refine .inr (more.givesUp distinct maximal (deep.imp_left fun deeper => ?_))
      rw [nesting] at deeper
      omega

theorem IsField.givesUp {ts us : List Token} {name : String} {item : Item} {depth : Nat}
    {closing : Option Char} (field : IsField ts name item)
    (maximal : ∀ t ∈ us.head?, isLiteral t = false)
    (deep : depth < item.nesting ∨ GivesUp depth closing us) : GivesUp depth closing (ts ++ us) :=
  match field with
  | .plain value => value.givesUp _ (value.dropColon_append us) maximal deep
  | .colon value => value.givesUp _ rfl maximal deep

theorem IsValue.givesUp {ts us vs : List Token} {item : Item} {depth : Nat} {closing : Option Char}
    (value : IsValue ts item) (name : List Char) (dropped : dropColon vs = ts ++ us)
    (maximal : ∀ t ∈ us.head?, isLiteral t = false)
    (deep : depth < item.nesting ∨ GivesUp depth closing us) : GivesUp depth closing (.word name :: vs) :=
  match value with
  | .braces inside => by
    rw [List.cons_append, List.append_assoc] at dropped
    have ends : Ends (some '}') (.mark '}' :: us) us := .mark '}' us
    have distinct := distinct_closer (c := '{') rfl
    exact .nested name rfl dropped (fun deeper => inside.givesUp distinct ends.head? (.inl deeper))
      (fun shallow => inside.reads shallow distinct ends) deep
  | .angles inside => by
    rw [List.cons_append, List.append_assoc] at dropped
    have ends : Ends (some '>') (.mark '>' :: us) us := .mark '>' us
    have distinct := distinct_closer (c := '<') rfl
    exact .nested name rfl dropped (fun deeper => inside.givesUp distinct ends.head? (.inl deeper))
      (fun shallow => inside.reads shallow distinct ends) deep
  | .word cs => .word name cs dropped (deep.resolve_left (Nat.not_lt_zero _))
  | .literals nonempty all => by
    obtain ⟨first, more, rfl⟩ := List.exists_cons_of_ne_nil nonempty
    have literal := all first List.mem_cons_self
    cases first with
    | literal quote body =>
      exact .literals name (fun t later => all t (List.mem_cons_of_mem _ later)) maximal dropped
        (deep.resolve_left (Nat.not_lt_zero _))
    | mark c => cases literal
    | word cs => cases literal

end

theorem IsOpening.word {opening after : List Token} (isOpening : IsOpening opening) :
    ∃ name ts c d, opening ++ after = .word name :: ts ∧ closer? c = some d ∧
      dropColon ts = .mark c :: after := by
  cases isOpening with
  | colon name closes => exact ⟨name, _, _, _, rfl, closes, rfl⟩
  | plain name closes =>
    rcases closer?_eq_some closes with ⟨rfl, _⟩ | ⟨rfl, _⟩
    · exact ⟨name, _, _, _, rfl, closes, rfl⟩
    · exact ⟨name, _, _, _, rfl, closes, rfl⟩

theorem Opens.givesUp {depth : Nat} {closing : Option Char} {ts : List Token}
    (opens : Opens (depth + 1) ts) (distinct : Distinct closing) : GivesUp depth closing ts := by
  induction depth generalizing closing ts with
  | zero =>
    cases opens with
    | inside message isOpening _ =>
      obtain ⟨name, ts, c, d, split, closes, dropped⟩ := isOpening.word
      rw [split]
      exact message.givesUp distinct (by simp [isLiteral]) (.inr (.bottom name closes dropped))
  | succ depth ih =>
    cases opens with
    | inside message isOpening deeper =>
      obtain ⟨name, ts, c, d, split, closes, dropped⟩ := isOpening.word
      rw [split]
      exact message.givesUp distinct (by simp [isLiteral])
        (.inr (.inside name closes dropped (ih deeper (distinct_closer closes))))

theorem ofTokens_of_givesUp {depth : Nat} {ts : List Token} (givesUp : GivesUp depth none ts) :
    ofTokens depth ts = .error .nestedTooDeep := by
  rw [ofTokens, givesUp]
  rfl

theorem ofTokens_eq_nestedTooDeep_iff {depth : Nat} {ts : List Token} :
    ofTokens depth ts = .error .nestedTooDeep ↔ Opens (depth + 1) ts := by
  constructor
  · intro stopped
    unfold ofTokens at stopped
    cases run : fields depth none ts with
    | error stop =>
      rw [run] at stopped
      cases stopped
      exact opens_of_fields run
    | ok answer =>
      rw [run] at stopped
      cases stopped
  · exact fun opens => ofTokens_of_givesUp (opens.givesUp distinct_none)

theorem IsMessage.ofTokens {depth : Nat} {ts : List Token} {m : Message} (message : IsMessage ts m) :
    ofTokens depth ts = if nesting m ≤ depth then .ok m else .error .nestedTooDeep := by
  split
  next shallow => exact ofTokens_eq_ok_iff.2 ⟨message, shallow⟩
  next deep =>
    have givesUp : GivesUp depth none (ts ++ []) :=
      message.givesUp distinct_none nofun (.inl (Nat.lt_of_not_le deep))
    rw [List.append_nil] at givesUp
    exact ofTokens_of_givesUp givesUp

/-- A text whose tokens were found is read as a message exactly if the grammar derives its tokens with
no more messages inside each other than may be open at once. What comes out is the message that was
derived, grouped by names. The reader gives up where one message too many opens, and it refuses every
other text for its grammar. -/
theorem parse_iff_isMessage {s : String} {ts : List Token} (scanned : tokens s.toList = .ok ts)
    (depth : Nat) :
    (∀ v, (parseWithin depth s).map Message.toValue = .ok v ↔
        ∃ m, IsMessage ts m ∧ nesting m ≤ depth ∧ (Item.message m).Groups v) ∧
      (parseWithin depth s = .error (.stop .nestedTooDeep) ↔ Opens (depth + 1) ts) ∧
      ((∃ fault, parseWithin depth s = .error (.stop (.grammar fault))) ↔
        (¬∃ m, IsMessage ts m) ∧ ¬Opens (depth + 1) ts) := by
  rw [parseWithin_of_tokens scanned, ← ofTokens_eq_nestedTooDeep_iff]
  cases read : TextFormat.ofTokens depth ts with
  | ok m =>
    obtain ⟨message, shallow⟩ := ofTokens_eq_ok_iff.1 read
    refine ⟨fun v => ?_, iff_of_false nofun nofun, iff_of_false nofun fun refused => ?_⟩
    · constructor
      · intro same
        cases same
        exact ⟨m, message, shallow, (Item.message m).groups_toValue⟩
      · rintro ⟨other, message, shallow, groups⟩
        rw [ofTokens_eq_ok_iff.2 ⟨message, shallow⟩] at read
        cases read
        rw [Item.groups_iff.1 groups]
        rfl
    · exact refused.1 ⟨m, message⟩
  | error stop =>
    have refused : ¬∃ m, IsMessage ts m ∧ nesting m ≤ depth := by
      rintro ⟨m, derived⟩
      rw [ofTokens_eq_ok_iff.2 derived] at read
      cases read
    refine ⟨fun v => iff_of_false nofun ?_, by simp [Except.mapError], ?_⟩
    · rintro ⟨m, message, shallow, _⟩
      exact refused ⟨m, message, shallow⟩
    · cases stop with
      | nestedTooDeep => exact iff_of_false nofun fun none => none.2 rfl
      | grammar fault =>
        refine iff_of_true ⟨fault, rfl⟩ ⟨?_, nofun⟩
        rintro ⟨m, message⟩
        rw [message.ofTokens, if_neg fun shallow => refused ⟨m, message, shallow⟩] at read
        cases read

/-- Brackets of both kinds in each other, two literals in a row, and a name that occurs again. Where one
message only may be open the same text is nested too deep. -/
theorem parse_iff_isMessage_sample :
    let s := "a: \x7b b <c: \"x\" 'y'>; \x7d, a z"
    ∃ ts, tokens s.toList = .ok ts ∧ (∃ m, IsMessage ts m) ∧
      (parse s).map Message.toValue = .ok (.ofFields [("a",
        .list [.ofFields [("b", .list [.ofFields [("c", .list [.text "xy"])]])], .text "z"])]) ∧
      parseWithin 1 s = .error (.stop .nestedTooDeep) := by
  intro s
  have scanned : tokens s.toList = .ok [.word ['a'], .mark ':', .mark '{', .word ['b'], .mark '<',
      .word ['c'], .mark ':', .literal '"' ['x'], .literal '\'' ['y'], .mark '>', .mark ';', .mark '}',
      .mark ',', .word ['a'], .word ['z']] := by
    decide +kernel
  have texts : IsMessage ([.word ['c'], .mark ':', .literal '"' ['x'], .literal '\'' ['y']] ++ [])
      [("c", .scalar "xy")] :=
    .field (.colon (.literals (List.cons_ne_nil _ _) (by decide))) .empty
  have deeper : IsMessage (_ ++ [.mark ';']) [("b", .message [("c", .scalar "xy")])] :=
    .field (.plain (.angles texts)) (.separator (.inr rfl) .empty)
  have first : IsField (.word ['a'] :: .mark ':' :: _) "a" _ := .colon (.braces deeper)
  have second : IsField [.word ['a'], .word ['z']] "a" (.scalar "z") := .plain (.word ['z'])
  have message := IsMessage.field first (.separator (.inl rfl) (.field second .empty))
  refine ⟨_, scanned, ⟨_, message⟩, ?_, ?_⟩
  · refine ((parse_iff_isMessage scanned nestingLimit).1 _).2 ⟨_, message, by decide, ?_⟩
    rw [Item.groups_iff]
    rfl
  · exact (parse_iff_isMessage scanned 1).2.1.2 (.inside .empty (.colon ['a'] (c := '{') rfl)
      (.inside .empty (.plain ['b'] (c := '<') rfl) (.here _)))

/-- This many messages, each the only field of the one before it. -/
def nested : Nat → List (Word × Draft)
  | 0 => []
  | n + 1 => [(word "x", .block (nested n))]

theorem nesting_nested (n : Nat) : nesting (Draft.rowItems (nested n)) = n := by
  induction n with
  | zero => rfl
  | succ n ih => simp [nested, Draft.rowItems, Draft.item, nesting, Item.nesting, ih]

/-- A text that the grammar derives, and that the reader gives up. -/
theorem parse_nested :
    let s := Draft.print (nested (nestingLimit + 1))
    (∃ ts m, tokens s.toList = .ok ts ∧ IsMessage ts m) ∧
      parse s = .error (.stop .nestedTooDeep) := by
  intro s
  have scanned := Draft.tokens_print (nested (nestingLimit + 1))
  have message := Draft.isMessage (nested (nestingLimit + 1))
  refine ⟨⟨_, _, scanned, message⟩, ?_⟩
  rw [parse, parseWithin_of_tokens scanned, message.ofTokens, nesting_nested,
    if_neg (Nat.not_succ_le_self _)]
  rfl

end WorkspaceImport.TextFormat
