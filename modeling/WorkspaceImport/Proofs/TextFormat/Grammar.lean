import WorkspaceImport.Proofs.Outcome
import WorkspaceImport.Proofs.TextFormat.Grouping
import WorkspaceImport.Proofs.Text.Runs
/-!
The grammar of messages, told apart from the reader. A message is a row of fields with commas and
semicolons wherever one likes; a field is a word, a colon or none, and a value; a value is a message
between brackets of one kind, a run of literals, or a word. Of the lists of tokens the reader accepts
exactly those that the grammar derives with no more messages inside each other than it may open, and
its answer is what was derived.
-/
namespace WorkspaceImport.TextFormat

mutual

/-- A list of tokens is a message with these fields. -/
inductive IsMessage : List Token → Message → Prop where
  | empty : IsMessage [] []
  | separator {c : Char} {ts : List Token} {m : Message} (separates : c = ',' ∨ c = ';')
      (rest : IsMessage ts m) : IsMessage (.mark c :: ts) m
  | field {ts us : List Token} {name : String} {item : Item} {m : Message}
      (first : IsField ts name item) (rest : IsMessage us m) :
      IsMessage (ts ++ us) ((name, item) :: m)

inductive IsField : List Token → String → Item → Prop where
  | plain {name : List Char} {ts : List Token} {item : Item} (value : IsValue ts item) :
      IsField (.word name :: ts) (String.ofList name) item
  | colon {name : List Char} {ts : List Token} {item : Item} (value : IsValue ts item) :
      IsField (.word name :: .mark ':' :: ts) (String.ofList name) item

/-- A list of tokens is one value. No field begins with a literal, so a run of literals that is a value
inside a message has no literal behind it. -/
inductive IsValue : List Token → Item → Prop where
  | braces {ts : List Token} {m : Message} (inside : IsMessage ts m) :
      IsValue (.mark '{' :: (ts ++ [.mark '}'])) (.message m)
  | angles {ts : List Token} {m : Message} (inside : IsMessage ts m) :
      IsValue (.mark '<' :: (ts ++ [.mark '>'])) (.message m)
  | literals {ts : List Token} (nonempty : ts ≠ []) (all : ∀ t ∈ ts, isLiteral t = true) :
      IsValue ts (.scalar (String.ofList (ts.flatMap literalText)))
  | word (cs : List Char) : IsValue [.word cs] (.scalar (String.ofList cs))

end

mutual

/-- How many messages are inside each other in a value. -/
def Item.nesting : Item → Nat
  | .scalar _ => 0
  | .message fields => nesting fields + 1

/-- How many messages are inside each other in the fields of a message. -/
def nesting : List (String × Item) → Nat
  | [] => 0
  | (_, item) :: rest => max item.nesting (nesting rest)

end

theorem nesting_le_iff {m : Message} {n : Nat} : nesting m ≤ n ↔ ∀ f ∈ m, f.2.nesting ≤ n := by
  induction m with
  | nil => simp [nesting]
  | cons f rest ih => rw [nesting, Nat.max_le, ih, List.forall_mem_cons]

/-- A message ends at the mark that is awaited, or where the tokens end. -/
inductive Ends : Option Char → List Token → List Token → Prop where
  | tokens : Ends none [] []
  | mark (c : Char) (rest : List Token) : Ends (some c) (.mark c :: rest) rest

theorem closer?_eq_some {c d : Char} (closes : closer? c = some d) :
    (c = '{' ∧ d = '}') ∨ (c = '<' ∧ d = '>') := by
  unfold closer? at closes
  split at closes
  next brace => exact .inl ⟨brace, (Option.some.inj closes).symm⟩
  next =>
    split at closes
    next angle => exact .inr ⟨angle, (Option.some.inj closes).symm⟩
    next => cases closes

theorem IsValue.nested {c d : Char} {ts : List Token} {m : Message} (closes : closer? c = some d)
    (inside : IsMessage ts m) : IsValue (.mark c :: (ts ++ [.mark d])) (.message m) := by
  rcases closer?_eq_some closes with ⟨rfl, rfl⟩ | ⟨rfl, rfl⟩
  · exact .braces inside
  · exact .angles inside

section Sound

variable {depth : Nat} {closing : Option Char} {ts : List Token} {m : Message} {item : Item}

theorem isField_of_dropColon (name : List Char) (us : List Token) {rest : List Token}
    (dropped : dropColon rest = ts ++ us) (value : IsValue ts item) :
    ∃ vs, .word name :: rest = vs ++ us ∧ IsField vs (String.ofList name) item := by
  unfold dropColon at dropped
  split at dropped
  next after =>
    refine ⟨.word name :: .mark ':' :: ts, ?_, .colon value⟩
    rw [dropped, List.cons_append, List.cons_append]
  next =>
    refine ⟨.word name :: ts, ?_, .plain value⟩
    rw [dropped, List.cons_append]

theorem isField_of_literals (name : List Char) {rest : List Token} {quote : Char} {body : List Char}
    {after : List Token} (dropped : dropColon rest = .literal quote body :: after) :
    ∃ vs, .word name :: rest = vs ++ after.dropWhile isLiteral ∧
      IsField vs (String.ofList name)
        (.scalar (String.ofList (unescape body ++ (after.takeWhile isLiteral).flatMap literalText))) := by
  have all : ∀ t ∈ Token.literal quote body :: after.takeWhile isLiteral, isLiteral t = true := by
    intro t member
    rcases List.mem_cons.1 member with rfl | later
    · rfl
    · exact List.mem_takeWhile_imp later
  exact isField_of_dropColon name (after.dropWhile isLiteral)
    (by rw [dropped, List.cons_append, List.takeWhile_append_dropWhile])
    (.literals (List.cons_ne_nil _ _) all)

theorem isField_of_nested (name : List Char) {rest us : List Token} {c d : Char} {after : List Token}
    (dropped : dropColon rest = .mark c :: after) (closes : closer? c = some d)
    (whole : after = ts ++ .mark d :: us) (message : IsMessage ts m) :
    ∃ vs, .word name :: rest = vs ++ us ∧ IsField vs (String.ofList name) (.message m) :=
  isField_of_dropColon name us
    (by rw [dropped, whole, List.cons_append, List.append_assoc, List.singleton_append])
    (.nested closes message)

theorem isMessage_of_fields {left : { rest : List Token // rest.length ≤ ts.length }}
    (read : fields depth closing ts = .ok (m, left)) :
    ∃ inner tail, ts = inner ++ tail ∧ IsMessage inner m ∧ nesting m ≤ depth ∧
      Ends closing tail left.1 := by
  -- The cases in which the reader returns: the end of the tokens, the mark that was awaited, a
  -- separator, a message, literals, a word.
  fun_induction fields depth closing ts generalizing m with
  | case1 =>
    cases read
    exact ⟨[], [], rfl, .empty, Nat.zero_le _, .tokens⟩
  | case3 depth c rest =>
    cases read
    exact ⟨[], .mark c :: rest, rfl, .empty, Nat.zero_le _, .mark c rest⟩
  | case5 depth closing c rest awaited separates more left run ih =>
    cases read
    obtain ⟨inner, tail, whole, message, shallow, ends⟩ := ih run
    exact ⟨.mark c :: inner, tail, by rw [whole, List.cons_append],
      .separator separates message, shallow, ends⟩
  | case13 =>
    rename_i closing name rest key short opener after dropped closer closes deeper inside inner left
      run bound more left' run' ih ih'
    cases read
    obtain ⟨ts, _, whole, message, shallow, ends⟩ := ih run
    obtain ⟨us, tail, whole', others, shallow', ends'⟩ := ih' run'
    cases ends
    obtain ⟨vs, split, field⟩ := isField_of_nested name dropped closes whole message
    exact ⟨vs ++ us, tail, by rw [split, whole', List.append_assoc], .field field others,
      Nat.max_le.2 ⟨Nat.succ_le_succ shallow, shallow'⟩, ends'⟩
  | case15 =>
    rename_i depth closing name rest key short quote body after dropped literals text inside more left
      run ih
    cases read
    obtain ⟨us, tail, whole, others, shallow, ends⟩ := ih run
    obtain ⟨vs, split, field⟩ := isField_of_literals name dropped
    exact ⟨vs ++ us, tail, by rw [split, whole, List.append_assoc], .field field others,
      Nat.max_le.2 ⟨Nat.zero_le _, shallow⟩, ends⟩
  | case17 =>
    rename_i depth closing name rest key short cs after dropped inside more left run ih
    cases read
    obtain ⟨us, tail, whole, others, shallow, ends⟩ := ih run
    obtain ⟨vs, split, field⟩ := isField_of_dropColon name after dropped (.word cs)
    exact ⟨vs ++ us, tail, by rw [split, whole, List.append_assoc], .field field others,
      Nat.max_le.2 ⟨Nat.zero_le _, shallow⟩, ends⟩
  | _ => cases read

end Sound

def Reads (depth : Nat) (closing : Option Char) (ts : List Token) (m : Message)
    (rest : List Token) : Prop :=
  ∃ short, fields depth closing ts = .ok (m, ⟨rest, short⟩)

section Complete

variable {depth : Nat} {closing : Option Char} {ts us vs rest : List Token} {m : Message}
  {name : String} {item : Item}

/-- What is read and what is left of the tokens, without the bound that `fields` carries for it. -/
def reading (depth : Nat) (closing : Option Char) (ts : List Token) :
    Except Stop (Message × List Token) :=
  (fields depth closing ts).map fun answer => (answer.1, answer.2.1)

theorem reads_iff : Reads depth closing ts m rest ↔ reading depth closing ts = .ok (m, rest) := by
  constructor
  · rintro ⟨short, run⟩
    rw [reading, run]
    rfl
  · intro read
    unfold reading at read
    cases run : fields depth closing ts with
    | error stop =>
      rw [run] at read
      cases read
    | ok answer =>
      rw [run] at read
      cases read
      exact ⟨answer.2.2, run⟩

theorem reading_eq_nestedTooDeep_iff : reading depth closing ts = .error .nestedTooDeep ↔
    fields depth closing ts = .error .nestedTooDeep :=
  except_map_eq_error

def withField (name : List Char) (item : Item) (answer : Message × List Token) : Message × List Token :=
  ((String.ofList name, item) :: answer.1, answer.2)

theorem reading_separator {c : Char} (awaited : closing ≠ some c) (separates : c = ',' ∨ c = ';') :
    reading depth closing (.mark c :: ts) = reading depth closing ts := by
  rw [reading, reading, fields, if_neg awaited, if_pos separates]
  cases fields depth closing ts <;> rfl

theorem reading_word (name cs : List Char) (dropped : dropColon ts = .word cs :: us) :
    reading depth closing (.word name :: ts) =
      (reading depth closing us).map (withField name (.scalar (String.ofList cs))) := by
  rw [reading, reading, fields]
  split <;> rename_i value <;> rw [dropped] at value <;> cases value
  cases fields depth closing us <;> rfl

theorem reading_literals (name : List Char) {quote : Char} {body : List Char}
    (all : ∀ t ∈ us, isLiteral t = true) (maximal : ∀ t ∈ vs.head?, isLiteral t = false)
    (dropped : dropColon ts = .literal quote body :: (us ++ vs)) :
    reading depth closing (.word name :: ts) = (reading depth closing vs).map (withField name
      (.scalar (String.ofList ((Token.literal quote body :: us).flatMap literalText)))) := by
  obtain ⟨taken, left⟩ := span_eq all maximal
  rw [← left, reading, reading, fields]
  split <;> rename_i value <;> rw [dropped] at value <;> cases value
  rw [List.flatMap_cons, literalText]
  simp only [taken]
  cases fields depth closing ((us ++ vs).dropWhile isLiteral) <;> rfl

section Nested

variable (name : List Char) {c d : Char} {inner : List Token} (closes : closer? c = some d)
  (dropped : dropColon ts = .mark c :: inner)
include closes dropped

theorem reading_bottom : reading 0 closing (.word name :: ts) = .error .nestedTooDeep := by
  rw [reading, fields]
  split <;> rename_i value <;> rw [dropped] at value <;> cases value
  simp only [closes]
  rfl

theorem reading_nested : reading (depth + 1) closing (.word name :: ts) =
    reading depth (some d) inner >>= fun opened =>
      (reading (depth + 1) closing opened.2).map (withField name (.message opened.1)) := by
  rw [reading, fields]
  split <;> rename_i value <;> rw [dropped] at value <;> cases value
  simp only [closes, reading]
  cases fields depth (some d) inner with
  | error stop => rfl
  | ok opened =>
    simp only [Except.map]
    change _ = Except.map _ _
    cases fields (depth + 1) closing opened.2.1 <;> rfl

end Nested

theorem Ends.reads (ends : Ends closing ts rest) : Reads depth closing ts [] rest := by
  cases ends with
  | tokens => exact ⟨Nat.le_refl _, by rw [fields]⟩
  | mark c => exact ⟨Nat.le_succ _, by rw [fields, if_pos rfl]⟩

theorem Reads.separator {c : Char} (awaited : closing ≠ some c) (separates : c = ',' ∨ c = ';')
    (reads : Reads depth closing ts m rest) : Reads depth closing (.mark c :: ts) m rest := by
  rw [reads_iff, reading_separator awaited separates]
  exact reads_iff.1 reads

theorem Reads.word (name cs : List Char) (dropped : dropColon ts = .word cs :: us)
    (reads : Reads depth closing us m rest) :
    Reads depth closing (.word name :: ts) ((String.ofList name, .scalar (String.ofList cs)) :: m)
      rest := by
  rw [reads_iff, reading_word name cs dropped, reads_iff.1 reads]
  rfl

theorem Reads.literals (name : List Char) {quote : Char} {body : List Char}
    (all : ∀ t ∈ us, isLiteral t = true) (maximal : ∀ t ∈ vs.head?, isLiteral t = false)
    (dropped : dropColon ts = .literal quote body :: (us ++ vs)) (reads : Reads depth closing vs m rest) :
    Reads depth closing (.word name :: ts)
      ((String.ofList name,
        .scalar (String.ofList ((Token.literal quote body :: us).flatMap literalText))) :: m) rest := by
  rw [reads_iff, reading_literals name all maximal dropped, reads_iff.1 reads]
  rfl

theorem Reads.nested (name : List Char) {c d : Char} {inner : List Token} {more : Message}
    (closes : closer? c = some d) (dropped : dropColon ts = .mark c :: inner)
    (inside : Reads depth (some d) inner m us) (reads : Reads (depth + 1) closing us more rest) :
    Reads (depth + 1) closing (.word name :: ts) ((String.ofList name, .message m) :: more) rest := by
  rw [reads_iff, reading_nested name closes dropped, reads_iff.1 inside]
  exact congrArg (Except.map _) (reads_iff.1 reads)

def Distinct (closing : Option Char) : Prop :=
  closing ≠ some ',' ∧ closing ≠ some ';'

theorem Distinct.ne (distinct : Distinct closing) {c : Char} (separates : c = ',' ∨ c = ';') :
    closing ≠ some c := by
  rcases separates with rfl | rfl
  · exact distinct.1
  · exact distinct.2

theorem distinct_none : Distinct none :=
  ⟨nofun, nofun⟩

theorem distinct_closer {c d : Char} (closes : closer? c = some d) : Distinct (some d) := by
  rcases closer?_eq_some closes with ⟨_, rfl⟩ | ⟨_, rfl⟩
  · exact ⟨by decide, by decide⟩
  · exact ⟨by decide, by decide⟩

theorem IsField.head? (first : IsField ts name item) : ∃ cs more, ts = .word cs :: more := by
  cases first with
  | plain value => exact ⟨_, _, rfl⟩
  | colon value => exact ⟨_, _, rfl⟩

theorem Ends.head? (ends : Ends closing us rest) : ∀ t ∈ us.head?, isLiteral t = false := by
  intro t first
  cases ends with
  | tokens => cases first
  | mark c =>
    cases first
    rfl

theorem IsMessage.head? (message : IsMessage ts m) (maximal : ∀ t ∈ us.head?, isLiteral t = false) :
    ∀ t ∈ (ts ++ us).head?, isLiteral t = false := by
  intro t first
  cases message with
  | empty => exact maximal t first
  | separator separates more =>
    cases first
    rfl
  | field field more =>
    obtain ⟨cs, others, rfl⟩ := field.head?
    cases first
    rfl

theorem IsValue.dropColon_append (value : IsValue ts item) (us : List Token) :
    dropColon (ts ++ us) = ts ++ us := by
  cases value with
  | braces inside => rfl
  | angles inside => rfl
  | word cs => rfl
  | literals nonempty all =>
    obtain ⟨first, more, rfl⟩ := List.exists_cons_of_ne_nil nonempty
    have literal := all first List.mem_cons_self
    cases first with
    | literal quote body => rfl
    | mark c => cases literal
    | word cs => cases literal

mutual

theorem IsMessage.reads {ts us rest : List Token} {m : Message} {depth : Nat} {closing : Option Char}
    (message : IsMessage ts m) (shallow : nesting m ≤ depth) (distinct : Distinct closing)
    (ends : Ends closing us rest) : Reads depth closing (ts ++ us) m rest :=
  match message with
  | .empty => ends.reads
  | .separator separates more =>
    .separator (distinct.ne separates) separates (more.reads shallow distinct ends)
  | .field first more => by
    obtain ⟨shallow, shallow'⟩ := Nat.max_le.1 shallow
    rw [List.append_assoc]
    exact first.reads shallow (more.head? ends.head?) (more.reads shallow' distinct ends)

theorem IsField.reads {ts us rest : List Token} {name : String} {item : Item} {m : Message}
    {depth : Nat} {closing : Option Char} (field : IsField ts name item)
    (shallow : item.nesting ≤ depth) (maximal : ∀ t ∈ us.head?, isLiteral t = false)
    (others : Reads depth closing us m rest) : Reads depth closing (ts ++ us) ((name, item) :: m) rest :=
  match field with
  | .plain value => value.reads shallow _ (value.dropColon_append us) maximal others
  | .colon value => value.reads shallow _ rfl maximal others

theorem IsValue.reads {ts us vs rest : List Token} {item : Item} {m : Message} {depth : Nat}
    {closing : Option Char} (value : IsValue ts item) (shallow : item.nesting ≤ depth)
    (name : List Char) (dropped : dropColon vs = ts ++ us)
    (maximal : ∀ t ∈ us.head?, isLiteral t = false) (others : Reads depth closing us m rest) :
    Reads depth closing (.word name :: vs) ((String.ofList name, item) :: m) rest :=
  match value, depth with
  | .braces inside, depth + 1 => by
    rw [List.cons_append, List.append_assoc] at dropped
    exact .nested name rfl dropped
      (inside.reads (Nat.le_of_succ_le_succ shallow) (distinct_closer (c := '{') rfl) (.mark '}' us))
      others
  | .angles inside, depth + 1 => by
    rw [List.cons_append, List.append_assoc] at dropped
    exact .nested name rfl dropped
      (inside.reads (Nat.le_of_succ_le_succ shallow) (distinct_closer (c := '<') rfl) (.mark '>' us))
      others
  | .word cs, _ => .word name cs dropped others
  | .literals nonempty all, _ => by
    obtain ⟨first, more, rfl⟩ := List.exists_cons_of_ne_nil nonempty
    have literal := all first List.mem_cons_self
    cases first with
    | literal quote body =>
      exact .literals name (fun t later => all t (List.mem_cons_of_mem _ later)) maximal dropped others
    | mark c => cases literal
    | word cs => cases literal

end

end Complete

theorem ofTokens_eq_ok_iff {depth : Nat} {ts : List Token} {m : Message} :
    ofTokens depth ts = .ok m ↔ IsMessage ts m ∧ nesting m ≤ depth := by
  constructor
  · intro read
    unfold ofTokens at read
    cases run : fields depth none ts with
    | error fault =>
      rw [run] at read
      cases read
    | ok answer =>
      obtain ⟨found, left⟩ := answer
      rw [run] at read
      cases read
      obtain ⟨inner, tail, whole, message, shallow, ends⟩ := isMessage_of_fields run
      generalize left.1 = rest at ends
      cases ends
      rw [List.append_nil] at whole
      exact ⟨whole ▸ message, shallow⟩
  · rintro ⟨message, shallow⟩
    have reads := message.reads shallow distinct_none .tokens
    rw [List.append_nil] at reads
    obtain ⟨short, run⟩ := reads
    rw [ofTokens, run]
    rfl

theorem parseWithin_of_tokens {s : String} {ts : List Token} (scanned : tokens s.toList = .ok ts)
    (depth : Nat) : parseWithin depth s = (ofTokens depth ts).mapError .stop := by
  simp only [parseWithin, scanned]

theorem parse_eq_ok_iff {s : String} {m : Message} :
    parse s = .ok m ↔ ∃ ts, tokens s.toList = .ok ts ∧ IsMessage ts m ∧ nesting m ≤ nestingLimit := by
  cases scanned : tokens s.toList with
  | error fault => simp [parse, parseWithin, scanned]
  | ok ts => simp [parse, parseWithin_of_tokens scanned, except_mapError_eq_ok, ofTokens_eq_ok_iff]

end WorkspaceImport.TextFormat
