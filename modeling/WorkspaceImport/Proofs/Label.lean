import WorkspaceImport.Label
import WorkspaceImport.Proofs.Text.Runs
/-!
Labels read back from their texts. What the reader accepts is well formed, the text of a well formed
label is read as that label again, and the canonical spelling belongs to the same package. So a text
and its canonical spelling never disagree about the package of a target.
-/
namespace WorkspaceImport

namespace Text

def Trimmed (cs : List Char) : Prop :=
  (∀ c ∈ cs.head?, isBlank c = false) ∧ ∀ c ∈ cs.getLast?, isBlank c = false

theorem head?_trimStart (cs : List Char) : ∀ c ∈ (trimStart cs).head?, isBlank c = false :=
  head?_dropWhile_eq_false isBlank cs

theorem getLast?_trimEnd (cs : List Char) : ∀ c ∈ (trimEnd cs).getLast?, isBlank c = false := by
  intro c last
  rw [trimEnd, List.getLast?_reverse] at last
  exact head?_trimStart cs.reverse c last

theorem trimEnd_append (cs : List Char) : ∃ blanks, cs = trimEnd cs ++ blanks := by
  obtain ⟨blanks, whole⟩ := List.dropWhile_suffix isBlank (l := cs.reverse)
  refine ⟨blanks.reverse, ?_⟩
  rw [trimEnd, ← List.reverse_append, whole, List.reverse_reverse]

theorem trimmed_trim (cs : List Char) : Trimmed (trim cs) := by
  refine ⟨?_, getLast?_trimEnd _⟩
  intro c first
  obtain ⟨blanks, whole⟩ := trimEnd_append (trimStart cs)
  apply head?_trimStart cs c
  rw [whole, List.head?_append]
  rw [trim] at first
  rw [Option.mem_def.1 first]
  rfl

theorem trimStart_eq_self {cs : List Char} (plain : ∀ c ∈ cs.head?, isBlank c = false) :
    trimStart cs = cs := by
  cases cs with
  | nil => rfl
  | cons c rest =>
    have first : isBlank c = false := plain c rfl
    rw [trimStart, List.dropWhile_cons, first, if_neg Bool.false_ne_true]

theorem trim_eq_self {cs : List Char} (trimmed : Trimmed cs) : trim cs = cs := by
  have back : trimStart cs.reverse = cs.reverse :=
    trimStart_eq_self (by rw [List.head?_reverse]; exact trimmed.2)
  rw [trim, trimStart_eq_self trimmed.1, trimEnd]
  rw [trimStart] at back
  rw [back, List.reverse_reverse]

theorem trimEnd_append_cons {c : Char} (plain : isBlank c = false) (before after : List Char) :
    ∃ rest, trimEnd (before ++ c :: after) = before ++ c :: rest := by
  have stop : (c :: before.reverse).dropWhile isBlank = c :: before.reverse := by
    rw [List.dropWhile_cons, plain, if_neg Bool.false_ne_true]
  have turned : (before ++ c :: after).reverse = after.reverse ++ c :: before.reverse := by simp
  rw [trimEnd, turned, List.dropWhile_append]
  split
  next => exact ⟨[], by rw [stop]; simp⟩
  next => exact ⟨(after.reverse.dropWhile isBlank).reverse, by simp⟩

end Text

namespace Label

theorem splitSlashes_eq {cs before after : List Char} (found : splitSlashes cs = some (before, after)) :
    cs = before ++ '/' :: '/' :: after := by
  fun_induction splitSlashes cs generalizing before with
  | case1 => cases found
  | case2 rest => cases found; rfl
  | case3 c rest _ ih =>
    obtain ⟨parts, inner, same⟩ := Option.map_eq_some_iff.1 found
    cases same
    rw [ih inner]
    rfl

theorem splitSlashes_append {cs before after : List Char}
    (found : splitSlashes cs = some (before, after)) (rest : List Char) :
    splitSlashes (before ++ '/' :: '/' :: rest) = some (before, rest) := by
  fun_induction splitSlashes cs generalizing before with
  | case1 => cases found
  | case2 => cases found; rfl
  | case3 c tail noSlashes ih =>
    obtain ⟨⟨inside, _⟩, inner, same⟩ := Option.map_eq_some_iff.1 found
    cases same
    have split := ih inner
    rw [splitSlashes_eq inner] at noSlashes
    rw [List.cons_append, splitSlashes, split]
    · rfl
    · -- a slash in front of the two would have been found one place earlier
      intro more slash slashes
      cases inside with
      | nil =>
        simp only [List.nil_append, List.cons.injEq] at slashes
        exact noSlashes _ slash rfl
      | cons d inside =>
        simp only [List.cons_append, List.cons.injEq] at slashes
        rw [slashes.1] at noSlashes
        exact noSlashes _ slash rfl

theorem splitColon_eq {path : List Char} (plain : ':' ∉ path) (target : Option (List Char)) :
    splitColon (path ++ target.elim [] (':' :: ·)) = (path, target) := by
  have keep : ∀ c ∈ path, decide (c ≠ ':') = true := by
    intro c member
    exact decide_eq_true fun same => plain (same ▸ member)
  cases target with
  | none =>
    simp only [splitColon, Option.elim, List.append_nil, List.takeWhile_eq_self_iff.2 keep,
      List.dropWhile_eq_nil_iff.2 keep]
    rfl
  | some t =>
    simp only [splitColon, Option.elim, List.takeWhile_append_of_pos keep,
      List.dropWhile_append_of_pos keep]
    simp

theorem splitColon_append (cs : List Char) :
    ':' ∉ (splitColon cs).1 ∧ cs = (splitColon cs).1 ++ (splitColon cs).2.elim [] (':' :: ·) := by
  constructor
  · intro member
    have differ := List.mem_takeWhile_imp member
    simp at differ
  · have whole := List.takeWhile_append_dropWhile (p := (· ≠ ':')) (l := cs)
    cases colon : cs.dropWhile (· ≠ ':') with
    | nil =>
      rw [colon] at whole
      simp only [splitColon, colon, List.tail?_nil, Option.elim]
      exact whole.symm
    | cons c rest =>
      have first := List.head?_dropWhile_not (· ≠ ':') cs
      rw [colon] at first whole
      simp only [List.head?_cons, decide_eq_false_iff_not, not_not] at first
      simp only [splitColon, colon, List.tail?_cons, Option.elim]
      simp only [first] at whole
      exact whole.symm

theorem toList_text (l : Label) : l.text.toList = l.repository.toList ++ '/' :: '/' ::
    (l.packagePath.toList ++ (l.target.map String.toList).elim [] (':' :: ·)) := by
  have slashes : "//".toList = ['/', '/'] := by decide
  have colon : ":".toList = [':'] := by decide
  cases named : l.target with
  | none => simp [text, named, package, slashes]
  | some t => simp [text, named, package, slashes, colon]

/-- What distinguishes the labels that can be read: the repository is where the first two slashes are
found, the path holds no colon, and the text has no blank at its end. -/
structure WellFormed (l : Label) : Prop where
  repository : l.repository = "" ∨ l.repository.toList.head? = some '@'
  notMain : l.repository ≠ "@"
  slashes : ∀ rest, splitSlashes (l.repository.toList ++ '/' :: '/' :: rest) =
    some (l.repository.toList, rest)
  colon : ':' ∉ l.packagePath.toList
  ending : ∀ c ∈ l.text.toList.getLast?, Text.isBlank c = false

theorem dropMainRepository_eq_self {cs before after : List Char}
    (found : splitSlashes cs = some (before, after)) (notMain : before ≠ ['@']) :
    dropMainRepository cs = cs := by
  unfold dropMainRepository
  split
  next rest =>
    have lone : splitSlashes ('@' :: '/' :: '/' :: rest) = some (['@'], rest) := by
      rw [splitSlashes, splitSlashes] <;> simp
    rw [lone] at found
    cases found
    exact absurd rfl notMain
  next => rfl

theorem before_dropMainRepository_ne {cs before after : List Char}
    (found : splitSlashes (dropMainRepository cs) = some (before, after)) : before ≠ ['@'] := by
  rintro rfl
  have whole := splitSlashes_eq found
  unfold dropMainRepository at whole
  split at whole
  next rest => cases whole
  next other => exact other _ (by simpa using whole)

theorem getLast?_dropMainRepository (cs : List Char) :
    (dropMainRepository cs).getLast? = cs.getLast? := by
  unfold dropMainRepository
  split
  next rest => rw [List.getLast?_cons_cons, List.getLast?_cons_cons]; rfl
  next => rfl

theorem ofChars?_repository {l : Label} (wellFormed : l.WellFormed) (body : List Char) :
    ofChars? (l.repository.toList ++ '/' :: '/' :: body) = some ⟨l.repository,
      String.ofList (splitColon body).1, (splitColon body).2.map String.ofList⟩ := by
  have notMain : l.repository.toList ≠ ['@'] := by
    intro same
    apply wellFormed.notMain
    rw [← String.toList_inj, same]
    decide
  have accepted : (l.repository.toList.isEmpty || l.repository.toList.head? == some '@') = true := by
    rcases wellFormed.repository with none | at_
    · rw [none]
      decide
    · rw [at_]
      simp
  rw [ofChars?, dropMainRepository_eq_self (wellFormed.slashes _) notMain, wellFormed.slashes]
  simp only [accepted, if_true, String.ofList_toList]

theorem ofChars?_text {l : Label} (wellFormed : l.WellFormed) :
    ofChars? l.text.toList = some l := by
  rw [toList_text, ofChars?_repository wellFormed, splitColon_eq wellFormed.colon]
  have restored : String.ofList ∘ String.toList = id := by
    funext s
    exact String.ofList_toList
  simp only [String.ofList_toList, Option.map_map, restored, Option.map_id_fun, id]

theorem ofChars?_eq_some {cs : List Char} {l : Label} (found : ofChars? cs = some l) :
    l.text.toList = dropMainRepository cs ∧
      (l.repository = "" ∨ l.repository.toList.head? = some '@') ∧
      ':' ∉ l.packagePath.toList ∧
      splitSlashes (dropMainRepository cs) = some (l.repository.toList,
        l.packagePath.toList ++ (l.target.map String.toList).elim [] (':' :: ·)) := by
  unfold ofChars? at found
  split at found
  next => cases found
  next before body split_ =>
    split at found
    next accepted =>
      obtain ⟨plain, whole⟩ := splitColon_append body
      generalize splitColon body = parts at found plain whole
      cases found
      have restored : String.toList ∘ String.ofList = id := by
        funext s
        exact String.toList_ofList
      simp only [toList_text, String.toList_ofList, Option.map_map, restored, Option.map_id_fun,
        id, ← whole]
      refine ⟨(splitSlashes_eq split_).symm, ?_, plain, split_⟩
      simp only [Bool.or_eq_true, List.isEmpty_iff, beq_iff_eq] at accepted
      rcases accepted with none | at_
      · left
        rw [none]
      · exact Or.inr at_
    next => cases found

theorem wellFormed_of_ofChars? {cs : List Char} {l : Label} (trimmed : Text.Trimmed cs)
    (found : ofChars? cs = some l) : l.WellFormed := by
  obtain ⟨whole, repository, colon, split_⟩ := ofChars?_eq_some found
  refine ⟨repository, ?_, splitSlashes_append split_, colon, ?_⟩
  · intro main
    exact before_dropMainRepository_ne split_ (by rw [main]; decide)
  · rw [whole, getLast?_dropMainRepository]
    exact trimmed.2

theorem parse_eq_ok_iff {s : String} {l : Label} :
    parse s = .ok l ↔ ofChars? (Text.trim s.toList) = some l := by
  unfold parse
  by_cases blank : (Text.trim s.toList).isEmpty = true
  · rw [if_pos blank, List.isEmpty_iff.1 blank]
    simp [ofChars?, dropMainRepository, splitSlashes]
  · rw [if_neg blank]
    cases ofChars? (Text.trim s.toList) <;> simp

theorem wellFormed_of_parse {s : String} {l : Label} (found : parse s = .ok l) : l.WellFormed :=
  wellFormed_of_ofChars? (Text.trimmed_trim _) (parse_eq_ok_iff.1 found)

theorem WellFormed.trimmed {l : Label} (wellFormed : l.WellFormed) :
    Text.Trimmed l.text.toList := by
  refine ⟨?_, wellFormed.ending⟩
  intro c first
  rw [toList_text] at first
  rcases wellFormed.repository with none | at_
  · rw [none] at first
    cases first
    decide
  · rw [List.head?_append, at_] at first
    cases first
    decide

theorem parse_text {l : Label} (wellFormed : l.WellFormed) : parse l.text = .ok l := by
  rw [parse_eq_ok_iff, Text.trim_eq_self wellFormed.trimmed]
  exact ofChars?_text wellFormed

theorem package_canonical (l : Label) : l.canonical.package = l.package := by
  unfold canonical
  split <;> rfl

theorem canonical_canonical (l : Label) : l.canonical.canonical = l.canonical := by
  by_cases named : (l.isShort && l.packagePath != "" && !l.isRecursive) = true
  · have long : l.canonical.isShort = false := by
      rw [canonical, if_pos named]
      rfl
    rw [canonical, long]
    rfl
  · rw [canonical, canonical, if_neg named, if_neg named]

theorem canonical_eq_self {l : Label} (wild : l.isWildcard = true) : l.canonical = l := by
  rw [canonical, if_neg]
  intro named
  simp only [isShort, Bool.and_eq_true, Option.isNone_iff_eq_none, Bool.not_eq_true'] at named
  rw [isWildcard, named.2, named.1.1] at wild
  cases wild

theorem isWildcard_canonical {l : Label} (wild : l.isWildcard = true) :
    l.canonical.isWildcard = true := by
  rw [canonical_eq_self wild]
  exact wild

theorem getLast?_text (l : Label) : l.text.toList.getLast? =
    (l.target.elim l.packagePath.toList fun t => ':' :: t.toList).getLast?.or (some '/') := by
  have slashes (cs : List Char) : ('/' :: '/' :: cs).getLast? = cs.getLast?.or (some '/') := by
    rw [List.getLast?_cons, List.getLast?_cons]
    cases cs.getLast? <;> rfl
  rw [toList_text, List.getLast?_append, slashes]
  cases l.target with
  | none => cases end_ : l.packagePath.toList.getLast? <;> simp [end_]
  | some t =>
    simp only [Option.map_some, Option.elim, List.getLast?_append, List.getLast?_cons]
    rfl

theorem getLast?_lastSegment (l : Label) : l.lastSegment.toList.getLast? = none ∨
    l.lastSegment.toList.getLast? = l.packagePath.toList.getLast? := by
  rw [lastSegment, String.toList_ofList, List.getLast?_reverse, ← List.head?_reverse]
  cases l.packagePath.toList.reverse with
  | nil => exact Or.inl rfl
  | cons c rest =>
    rw [List.takeWhile_cons]
    split
    next => exact Or.inr rfl
    next => exact Or.inl rfl

theorem WellFormed.canonical {l : Label} (wellFormed : l.WellFormed) : l.canonical.WellFormed := by
  unfold Label.canonical
  split
  next named =>
    simp only [isShort, Bool.and_eq_true, Option.isNone_iff_eq_none] at named
    refine ⟨wellFormed.repository, wellFormed.notMain, wellFormed.slashes, wellFormed.colon, ?_⟩
    intro c last
    rw [getLast?_text] at last
    simp only [Option.elim, List.getLast?_cons] at last
    cases segment : l.lastSegment.toList.getLast? with
    | none =>
      -- the path ends in a slash, and the text in the colon
      rw [segment] at last
      cases last
      decide
    | some d =>
      have path := (getLast?_lastSegment l).resolve_left (by rw [segment]; exact nofun)
      apply wellFormed.ending c
      rw [getLast?_text, named.1.1, Option.elim, ← path, segment]
      rw [segment] at last
      exact last
  next => exact wellFormed

theorem exists_of_toBool {s : String} (read : (parse s).toBool = true) : ∃ l, parse s = .ok l := by
  cases parsed : parse s with
  | ok l => exact ⟨l, rfl⟩
  | error fault =>
    rw [parsed] at read
    cases read

theorem exists_single {s : String}
    (read : (parse s).toOption.any (fun l => !l.isWildcard) = true) :
    ∃ l, parse s = .ok l ∧ l.isWildcard = false := by
  cases result : parse s with
  | ok l =>
    rw [result] at read
    exact ⟨l, rfl, by simpa [Except.toOption] using read⟩
  | error fault =>
    rw [result] at read
    cases read

theorem parse_canonical {s : String} {l : Label} (read : parse s = .ok l) :
    parse l.canonical.text = .ok l.canonical :=
  parse_text (wellFormed_of_parse read).canonical

theorem exists_parse_package {l : Label} (wellFormed : l.WellFormed) :
    ∃ l', parse l.package = .ok l' := by
  have slashes : "//".toList = ['/', '/'] := by decide
  have chars : l.package.toList = (l.repository.toList ++ ['/']) ++ '/' :: l.packagePath.toList := by
    simp [package, slashes]
  have start : Text.trimStart l.package.toList = l.package.toList := by
    apply Text.trimStart_eq_self
    intro c first
    apply wellFormed.trimmed.1 c
    rw [chars] at first
    rw [toList_text]
    cases repository : l.repository.toList <;> simpa [repository] using first
  obtain ⟨rest, ended⟩ := Text.trimEnd_append_cons (c := '/') (by decide)
    (l.repository.toList ++ ['/']) l.packagePath.toList
  have trimmed : Text.trim l.package.toList = l.repository.toList ++ '/' :: '/' :: rest := by
    rw [Text.trim, start, chars, ended, List.append_assoc]
    rfl
  have found := ofChars?_repository wellFormed rest
  rw [← trimmed] at found
  exact ⟨_, parse_eq_ok_iff.2 found⟩

theorem parse_strip (s : String) (l : Label) : parse (Text.strip s) = .ok l ↔ parse s = .ok l := by
  rw [parse_eq_ok_iff, parse_eq_ok_iff, Text.strip, String.toList_ofList,
    Text.trim_eq_self (Text.trimmed_trim _)]

end Label

theorem parse_canonicalLabel {s : String} {l : Label} (read : Label.parse s = .ok l) :
    Label.parse (canonicalLabel s) = .ok l.canonical := by
  rw [canonicalLabel, read]
  exact Label.parse_canonical read

theorem canonicalLabel_canonicalLabel (s : String) :
    canonicalLabel (canonicalLabel s) = canonicalLabel s := by
  cases read : Label.parse s with
  | ok l =>
    have spelled : canonicalLabel s = l.canonical.text := by
      rw [canonicalLabel, read]
    rw [spelled, canonicalLabel, Label.parse_canonical read]
    simp only [Label.canonical_canonical]
  | error fault =>
    have stripped : canonicalLabel s = Text.strip s := by
      rw [canonicalLabel, read]
    have still : Text.strip (Text.strip s) = Text.strip s := by
      rw [Text.strip, Text.strip, String.toList_ofList, Text.trim_eq_self (Text.trimmed_trim _)]
    rw [stripped, canonicalLabel]
    cases again : Label.parse (Text.strip s) with
    | ok l =>
      rw [(Label.parse_strip s l).1 again] at read
      cases read
    | error _ => exact still

theorem packageOf_eq_of_canonicalLabel {s t : String} {l : Label} (spelled : canonicalLabel s = t)
    (found : Label.parse t = .ok l) : packageOf s = l.package := by
  unfold canonicalLabel at spelled
  unfold packageOf
  cases read : Label.parse s with
  | ok l' =>
    simp only [read] at spelled
    have again := Label.parse_canonical read
    rw [spelled, found] at again
    cases again
    exact (Label.package_canonical l').symm
  | error fault =>
    simp only [read] at spelled
    rw [← spelled, Label.parse_strip, read] at found
    cases found

theorem exists_parse_of_packageOf {s t : String} {l : Label} (read : Label.parse t = .ok l)
    (same : packageOf s = l.package) : ∃ l', Label.parse s = .ok l' := by
  cases parsed : Label.parse s with
  | ok l' => exact ⟨l', rfl⟩
  | error fault =>
    rw [packageOf, parsed] at same
    obtain ⟨l', inside⟩ := Label.exists_parse_package (Label.wellFormed_of_parse read)
    rw [← same, parsed] at inside
    cases inside

theorem packageOf_congr {s s' t : String} {l : Label} (read : Label.parse t = .ok l)
    (owner : packageOf s = l.package) (same : canonicalLabel s' = canonicalLabel s) :
    packageOf s' = l.package := by
  obtain ⟨l', inside⟩ := exists_parse_of_packageOf read owner
  have found := parse_canonicalLabel inside
  rw [packageOf_eq_of_canonicalLabel same found, ← owner]
  exact (packageOf_eq_of_canonicalLabel rfl found).symm

end WorkspaceImport
