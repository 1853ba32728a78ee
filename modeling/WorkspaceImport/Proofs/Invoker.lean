import WorkspaceImport.Tool
import WorkspaceImport.Proofs.Label
import WorkspaceImport.Proofs.Text.Lines
/-!
Artifacts that the build tool lists. The tool prints the mark of an artifact and its path on a line of
its own, with or without blanks around them, among any lines about other things. A run gives back the
paths as they were printed, those of the error stream first, whatever the exit code is.
-/
namespace WorkspaceImport

namespace Text

theorem trim_between {left cs right : List Char} (trimmed : Trimmed cs)
    (before : ∀ c ∈ left, isBlank c = true) (after : ∀ c ∈ right, isBlank c = true) :
    trim (left ++ cs ++ right) = trim cs := by
  have front : trimStart (left ++ cs ++ right) = trimStart (cs ++ right) := by
    rw [trimStart, List.append_assoc, List.dropWhile_append_of_pos before, trimStart]
  have back (ds : List Char) : trimEnd (ds ++ right) = trimEnd ds := by
    have turned : ∀ c ∈ right.reverse, isBlank c = true := fun c member =>
      after c (List.mem_reverse.1 member)
    rw [trimEnd, List.reverse_append, List.dropWhile_append_of_pos turned, trimEnd]
  rw [trim, trim, front]
  cases cs with
  | nil =>
    have none : trimStart right = [] := List.dropWhile_eq_nil_iff.2 after
    rw [List.nil_append, none]
    rfl
  | cons c rest =>
    have plain : ∀ d ∈ ((c :: rest) ++ right).head?, isBlank d = false := trimmed.1
    rw [trimStart_eq_self plain, trimStart_eq_self trimmed.1, back]

theorem trimmed_of_strip {s : String} (same : strip s = s) : Trimmed s.toList := by
  have chars : trim s.toList = s.toList := by
    rw [← String.toList_ofList (l := trim s.toList)]
    exact congrArg String.toList same
  rw [← chars]
  exact trimmed_trim s.toList

end Text

namespace Variant

/-- What is printed on a line where a variant lists its artifacts: an artifact with its mark, which may
have blanks around it, or something that is no artifact without the blanks around it. -/
inductive Prints (v : Variant) : String → Option String → Prop where
  | artifact {left path right : String}
      (blank : ∀ c ∈ left.toList ++ right.toList, Text.isBlank c = true)
      (stripped : Text.strip path = path) (ends : v.artifactSuffix.toList <:+ path.toList) :
      v.Prints (left ++ ">>>" ++ path ++ right) (some path)
  | other {line : String} (other : ¬(artifactMark <+: (Text.strip line).toList ∧
      v.artifactSuffix.toList <:+ (Text.strip line).toList)) :
      v.Prints line none

variable {v : Variant}

theorem artifactIn?_eq_none {line : String} (other : ¬(artifactMark <+: (Text.strip line).toList ∧
    v.artifactSuffix.toList <:+ (Text.strip line).toList)) : v.artifactIn? line = none := by
  rw [Text.strip, String.toList_ofList] at other
  have fails : ¬(artifactMark.isPrefixOf (Text.trim line.toList) &&
      v.artifactSuffix.toList.isSuffixOf (Text.trim line.toList)) = true := by
    rw [Bool.and_eq_true, List.isPrefixOf_iff_prefix, List.isSuffixOf_iff_suffix]
    exact other
  rw [artifactIn?]
  exact if_neg fails

theorem artifactIn?_marked {left path right : String}
    (blank : ∀ c ∈ left.toList ++ right.toList, Text.isBlank c = true)
    (stripped : Text.strip path = path) (ends : v.artifactSuffix.toList <:+ path.toList) :
    v.artifactIn? (left ++ ">>>" ++ path ++ right) = some path := by
  obtain ⟨before, after⟩ := List.forall_mem_append.1 blank
  have trimmed := Text.trimmed_of_strip stripped
  have nonempty : path.toList ≠ [] := by
    rintro none
    rw [none, List.suffix_nil] at ends
    cases v <;> cases ends
  have marked : Text.Trimmed (artifactMark ++ path.toList) := by
    refine ⟨fun c first => ?_, fun c last => trimmed.2 c ?_⟩
    · cases first
      rfl
    · rwa [List.getLast?_append_of_ne_nil _ nonempty] at last
  have line : Text.trim (left ++ ">>>" ++ path ++ right).toList = artifactMark ++ path.toList := by
    have chars : (left ++ ">>>" ++ path ++ right).toList =
        left.toList ++ (artifactMark ++ path.toList) ++ right.toList := by
      simp [String.toList_append, artifactMark]
    rw [chars, Text.trim_between marked before after, Text.trim_eq_self marked]
  have lists : (artifactMark.isPrefixOf (artifactMark ++ path.toList) &&
      v.artifactSuffix.toList.isSuffixOf (artifactMark ++ path.toList)) = true := by
    rw [Bool.and_eq_true, List.isPrefixOf_iff_prefix, List.isSuffixOf_iff_suffix]
    exact ⟨List.prefix_append _ _, ends.trans (List.suffix_append _ _)⟩
  rw [artifactIn?, line, if_pos lists, List.drop_left, Text.trim_eq_self trimmed,
    String.ofList_toList]

theorem Prints.artifactIn? {line : String} {path? : Option String} (prints : v.Prints line path?) :
    v.artifactIn? line = path? := by
  cases prints with
  | artifact blank stripped ends => exact artifactIn?_marked blank stripped ends
  | other other => exact artifactIn?_eq_none other

theorem filterMap_artifactIn? {ls : List String} {paths : List (Option String)}
    (prints : List.Forall₂ v.Prints ls paths) : ls.filterMap v.artifactIn? = paths.reduceOption := by
  induction prints with
  | nil => rfl
  | cons first _ ih =>
    rw [List.filterMap_cons, first.artifactIn?, ih]
    rfl

end Variant

namespace Invoker

/-- A run gives back the artifacts that were listed, in the order in which they were printed. -/
theorem run_artifacts {v : Variant} {tool : Invoker} {executor : Executor} {name : String}
    {arguments : List String} {directory : String} {exitCode : Int} {errors output : List String}
    {errorPaths outputPaths : List (Option String)} {errorsEnded outputEnded : Bool}
    (named : tool.executable.text?.isSome = true) (plain : ∀ line ∈ errors ++ output, Text.IsLine line)
    (listedFirst : List.Forall₂ v.Prints errors errorPaths)
    (listedThen : List.Forall₂ v.Prints output outputPaths)
    (ran : executor (tool.command name arguments directory) = .ok {
      exitCode := exitCode
      stdout := Text.printed output outputEnded
      stderr := Text.printed errors errorsEnded }) :
    (tool.run executor name arguments directory v.artifactIn?).outcome =
      .ok ⟨errorPaths.reduceOption ++ outputPaths.reduceOption, exitCode⟩ := by
  obtain ⟨first, second⟩ := List.forall_mem_append.1 plain
  have empty : v.artifactIn? "" = none := by cases v <;> rfl
  have kept : (Text.lines (Text.printed errors errorsEnded) ++
      Text.lines (Text.printed output outputEnded)).filterMap v.artifactIn? =
        errorPaths.reduceOption ++ outputPaths.reduceOption := by
    rw [List.filterMap_append, Text.filterMap_lines_printed empty first,
      Text.filterMap_lines_printed empty second, Variant.filterMap_artifactIn? listedFirst,
      Variant.filterMap_artifactIn? listedThen]
  have text : ¬tool.executable.text?.isNone = true := by
    rw [← Option.not_isSome, named]
    exact Bool.false_ne_true
  simp only [run, if_neg text, ran, Output.lines, kept]

/-- One artifact is listed with blanks around it, and another one twice. The run has failed. -/
theorem run_artifacts_sample :
    let errors := ["INFO: >>>", " \t" ++ ">>>" ++ "/out/a b.intellij-info.txt" ++ "\u00a0", "",
      ">>>/out/a.bzleclipse-build.json"]
    let output := ["" ++ ">>>" ++ "out/c.intellij-info.txt" ++ " ",
      "" ++ ">>>" ++ "out/c.intellij-info.txt" ++ ""]
    let executor := Executor.ofTable
      [("//a:*", .ok ⟨1, Text.printed output false, Text.printed errors true⟩)]
    (Invoker.run ⟨.text "bazel", .null⟩ executor "build" ["//a:*"] "/ws"
      Variant.modern.artifactIn?).outcome =
        .ok ⟨["/out/a b.intellij-info.txt", "out/c.intellij-info.txt", "out/c.intellij-info.txt"],
          1⟩ := by
  intro errors output executor
  have artifact (left path right : String)
      (fits : (left.toList ++ right.toList).all Text.isBlank = true ∧ Text.strip path = path ∧
        Variant.modern.artifactSuffix.toList <:+ path.toList) :
      Variant.modern.Prints (left ++ ">>>" ++ path ++ right) (some path) :=
    .artifact (List.all_eq_true.1 fits.1) fits.2.1 fits.2.2
  have listedFirst : List.Forall₂ Variant.modern.Prints errors
      [none, some "/out/a b.intellij-info.txt", none, none] :=
    .cons (.other (by decide +kernel)) (.cons (artifact _ _ _ (by decide +kernel))
      (.cons (.other (by decide +kernel)) (.cons (.other (by decide +kernel)) .nil)))
  have listedThen : List.Forall₂ Variant.modern.Prints output
      [some "out/c.intellij-info.txt", some "out/c.intellij-info.txt"] :=
    .cons (artifact _ _ _ (by decide +kernel)) (.cons (artifact _ _ _ (by decide +kernel)) .nil)
  exact run_artifacts rfl (by decide +kernel) listedFirst listedThen rfl

end Invoker

end WorkspaceImport
