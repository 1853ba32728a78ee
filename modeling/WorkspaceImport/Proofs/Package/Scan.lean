import WorkspaceImport.Proofs.Package.Cover
/-!
Scans of a workspace. The packages in a directory are those in its children that are not left out, with
the package of the directory itself over them if it has a build file; so a scan that comes to its end
has found every package once, wherever it is within reach.
-/
namespace WorkspaceImport.Package

section Directories

variable {root : Path} {e : Entry} {place : List String} {children : List (String × Entry)}
  {name : String}

theorem packagesBelow_eq (path : String) :
    packagesBelow root path children =
      (children.filter fun c => !isSkipped c.1).map fun c =>
        (c.1, packagesIn root (childPath path c.1) c.2) := by
  induction children with
  | nil => rfl
  | cons c rest ih =>
    obtain ⟨name, child⟩ := c
    rw [packagesBelow]
    split
    next skipped => rw [ih, List.filter_cons_of_neg (by simp [skipped])]
    next visible => rw [ih, List.filter_cons_of_pos (by simp [visible]), List.map_cons]

theorem below_iff (found : e.get? place = some (.directory children)) {p : List String}
    (package : IsPackage root e p) :
    (∃ c ∈ children, isSkipped c.1 = false ∧ place ++ [c.1] <+: p) ↔ Below place p := by
  constructor
  · rintro ⟨c, _, _, rest, rfl⟩
    refine ⟨⟨c.1 :: rest, by simp⟩, fun same => ?_⟩
    have lengths := congrArg List.length same
    simp at lengths
  · rintro ⟨⟨rest, rfl⟩, proper⟩
    cases rest with
    | nil => exact absurd (List.append_nil place).symm proper
    | cons name more =>
      obtain ⟨inner, there, _⟩ := package.built
      rw [Entry.get?_append, found, Option.bind_some, Entry.get?] at there
      obtain ⟨child, named, _⟩ := Option.bind_eq_some_iff.1 there
      exact ⟨(name, child), OrderedMap.mem_of_valueAt? named, package.visible name (by simp),
        more, by simp⟩

theorem sorted_mergeSort {parts : List (String × List PackageNode)}
    (distinct : (parts.map (·.1)).Nodup) :
    (parts.mergeSort fun a b => decide (a.1 ≤ b.1)).Pairwise fun a b => a.1 < b.1 := by
  have order : (parts.mergeSort fun a b => decide (a.1 ≤ b.1)).Pairwise fun a b =>
      decide (a.1 ≤ b.1) = true := by
    refine List.pairwise_mergeSort ?_ ?_ parts
    · intro a b c first second
      exact decide_eq_true (String.le_trans (of_decide_eq_true first) (of_decide_eq_true second))
    · intro a b
      simpa using String.le_total a.1 b.1
  have same : ((parts.mergeSort fun a b => decide (a.1 ≤ b.1)).map (·.1)).Nodup :=
    ((List.mergeSort_perm parts _).map (·.1)).nodup_iff.2 distinct
  refine order.imp₂ (fun a b le apart => ?_) (List.pairwise_map.1 same)
  apply String.not_le.1
  intro back
  exact apart (String.le_antisymm (of_decide_eq_true le) back)

theorem not_isPackage_of_file {content : ByteArray} (found : e.get? place = some (.file content))
    {p : List String} (below : place <+: p) : ¬IsPackage root e p := by
  intro package
  obtain ⟨rest, rfl⟩ := below
  obtain ⟨inner, there, _⟩ := package.built
  rw [Entry.get?_append, found, Option.bind_some] at there
  obtain rfl := Entry.get?_file ⟨_, there⟩
  cases there

theorem mem_packagesBelow {path : String} {part : String × List PackageNode} :
    part ∈ packagesBelow root path children ↔
      ∃ c ∈ children, isSkipped c.1 = false ∧
        part = (c.1, packagesIn root (childPath path c.1) c.2) := by
  rw [packagesBelow_eq, List.mem_map]
  constructor
  · rintro ⟨c, kept, rfl⟩
    obtain ⟨inside, visible⟩ := List.mem_filter.1 kept
    exact ⟨c, inside, by simpa using visible, rfl⟩
  · rintro ⟨c, inside, visible, rfl⟩
    exact ⟨c, List.mem_filter.2 ⟨inside, by simpa using visible⟩, rfl⟩

theorem covers_packagesBelow {path : String}
    (found : e.get? place = some (.directory children)) (distinct : (children.map (·.1)).Nodup)
    (each : ∀ c ∈ children, isSkipped c.1 = false →
      Covers root e (place ++ [c.1] <+: ·) (packagesIn root (childPath path c.1) c.2)) :
    Covers root e (Below place) (inOrder (packagesBelow root path children)) := by
  have apart : ((packagesBelow root path children).map (·.1)).Nodup := by
    rw [packagesBelow_eq, List.map_map]
    exact (List.filter_sublist.map _).nodup distinct
  have parts : ∀ part ∈ (packagesBelow root path children).mergeSort fun a b => decide (a.1 ≤ b.1),
      Covers root e (place ++ [part.1] <+: ·) part.2 := by
    intro part member
    obtain ⟨c, inside, visible, rfl⟩ := mem_packagesBelow.1 (List.mem_mergeSort.1 member)
    exact each c inside visible
  refine (Covers.flatMap (sorted_mergeSort apart) parts).congr fun p package => ?_
  rw [← below_iff found package]
  constructor
  · rintro ⟨part, member, below⟩
    obtain ⟨c, inside, visible, rfl⟩ := mem_packagesBelow.1 (List.mem_mergeSort.1 member)
    exact ⟨c, inside, visible, below⟩
  · rintro ⟨c, inside, visible, below⟩
    exact ⟨_, List.mem_mergeSort.2 (mem_packagesBelow.2 ⟨c, inside, visible, rfl⟩), below⟩

theorem covers_packagesIn {entry : Entry} (sound : entry.Sound)
    (found : e.get? place = some entry) (visible : ∀ s ∈ place, isSkipped s = false)
    (named : ∀ s ∈ place, Path.IsName s) :
    Covers root e (place <+: ·) (packagesIn root (String.intercalate "/" place) entry) := by
  induction sound generalizing place with
  | file content =>
    rw [packagesIn]
    exact .nil fun p below => not_isPackage_of_file found below
  | @directory children distinct spelled _ ih =>
    -- what was found below belongs to this directory only if it is a package itself
    have nested : Covers root e (Below place)
        (inOrder (packagesBelow root (String.intercalate "/" place) children)) := by
      refine covers_packagesBelow found distinct fun c inside shown => ?_
      have name := isName_of_visible shown (spelled c inside)
      rw [childPath_intercalate named]
      refine ih c inside ?_ ?_ ?_
      · rwa [Entry.get?_name found, OrderedMap.valueAt?_eq_some_iff distinct]
      · simpa [or_imp, forall_and, shown] using visible
      · simpa [or_imp, forall_and, name] using named
    rw [packagesIn]
    split
    next reached =>
      have reached := (isReached_iff named).1 reached
      split
      next package =>
        have top : place ≠ [] := mt (Path.intercalate_eq_empty_iff named).2 package.1
        have isPackage : IsPackage root e place := ⟨top, visible, reached, children, found, package.2⟩
        exact nested.package (Path.segments_intercalate named) ⟨rfl, rfl⟩ isPackage
      next other =>
        refine nested.congr fun p package => ⟨And.left, fun within => ⟨within, ?_⟩⟩
        rintro rfl
        obtain ⟨inner, there, built⟩ := package.built
        rw [found] at there
        cases there
        exact other ⟨mt (Path.intercalate_eq_empty_iff named).1 package.below, built⟩
    next hidden =>
      refine .nil fun p within package => hidden ((isReached_iff named).2 ?_)
      exact package.reached.of_above within

theorem treeOf_lists (sound : e.Sound) : Lists root e (treeOf root e) := by
  have covers : Covers root e ([] <+: ·) (packagesIn root (String.intercalate "/" []) e) :=
    covers_packagesIn sound rfl (by simp) (by simp)
  have nested : Covers root e (Below []) (packagesIn root "" e) := covers.congr fun p package =>
    ⟨fun within => ⟨within, package.below.symm⟩, And.left⟩
  have heads : Heads root e (treeOf root e) := nested.heads ⟨rfl, rfl⟩ (.inl rfl)
  exact heads.lists rfl

theorem mem_inOrder {parts : List (String × List PackageNode)} {n : PackageNode} :
    n ∈ inOrder parts ↔ ∃ part ∈ parts, n ∈ part.2 := by
  simp [inOrder]

theorem walkWithin_inOrder {path : String} {depth : Nat}
    (each : ∀ c ∈ children, ∀ path, levels root path c.2 ≤ depth →
      ∀ n ∈ packagesIn root path c.2, n.walkWithin depth = some n.walk)
    (shallow : levelsBelow root path children ≤ depth) :
    ∀ n ∈ inOrder (packagesBelow root path children), n.walkWithin depth = some n.walk := by
  intro n member
  obtain ⟨part, found, member⟩ := mem_inOrder.1 member
  obtain ⟨c, inside, visible, rfl⟩ := mem_packagesBelow.1 found
  refine each c inside _ (Nat.le_of_not_lt fun deep => ?_) n member
  exact absurd (lt_levelsBelow_iff.2 ⟨c, inside, visible, deep⟩) (Nat.not_lt.2 shallow)

theorem walkWithin_packagesIn {entry : Entry} (sound : entry.Sound) {path : String} {depth : Nat}
    (shallow : levels root path entry ≤ depth) :
    ∀ n ∈ packagesIn root path entry, n.walkWithin depth = some n.walk := by
  induction sound generalizing path depth with
  | file content => simp [packagesIn]
  | @directory children distinct spelled _ ih =>
    have nested {k : Nat} (shallow : levelsBelow root path children ≤ k) :=
      walkWithin_inOrder (fun c inside _ within => ih c inside within) shallow
    rw [levels] at shallow
    rw [packagesIn]
    split
    next reached =>
      rw [if_pos reached] at shallow
      split
      next =>
        obtain ⟨k, rfl⟩ := Nat.exists_eq_add_of_le' shallow
        exact List.forall_mem_singleton.2
          (PackageNode.walkWithin_succ (nested (Nat.le_add_left _ _)))
      next => exact nested (Nat.le_of_succ_le shallow)
    next => simp

theorem walkWithin_treeOf (sound : (Entry.directory children).Sound) {depth : Nat}
    (reached : isReached root "" = true) (shallow : levels root "" (.directory children) ≤ depth) :
    (treeOf root (.directory children)).walkWithin depth =
      some (treeOf root (.directory children)).walk := by
  obtain ⟨_, _, below⟩ := Entry.sound_directory_iff.1 sound
  rw [levels, if_pos reached] at shallow
  obtain ⟨k, rfl⟩ := Nat.exists_eq_add_of_le' shallow
  have nested : packagesIn root "" (.directory children) = inOrder (packagesBelow root "" children) := by
    simp [packagesIn, reached]
  refine PackageNode.walkWithin_succ ?_
  rw [treeOf, nested]
  exact walkWithin_inOrder (fun c inside _ within => walkWithin_packagesIn (below c inside) within)
    (Nat.le_add_left _ _)

end Directories

section Scans

variable {files : FileTree} {root : Path} {children : List (String × Entry)} {names : List String}
  {name : String}

/-- The names are asked for up to the first that is a file, and the system takes the path of each. -/
def AskedFit (root : Path) (children : List (String × Entry)) : List String → Prop
  | [] => True
  | name :: rest =>
    IsReached root [name] ∧ (holdsFile [name] children = true ∨ AskedFit root children rest)

theorem holdsFile_cons :
    holdsFile (name :: names) children = (holdsFile [name] children || holdsFile names children) := by
  rw [Bool.eq_iff_iff, Bool.or_eq_true]
  simp only [holdsFile, List.any_eq_true, ← exists_or, ← and_or_left]
  simp [← or_and_right]

theorem holdsFile_singleton (distinct : (children.map (·.1)).Nodup) :
    holdsFile [name] children = (valueAt? name children).any fun e => !e.isDirectory := by
  rw [Bool.eq_iff_iff, holdsFile, List.any_eq_true, Option.any_eq_true]
  simp only [OrderedMap.valueAt?_eq_some_iff distinct, Bool.and_eq_true, List.contains_iff_mem,
    List.mem_singleton]
  constructor
  · rintro ⟨⟨_, e⟩, inside, rfl, isFile⟩
    exact ⟨e, inside, isFile⟩
  · rintro ⟨e, inside, isFile⟩
    exact ⟨(name, e), inside, rfl, isFile⟩

/-- A name that a marker of a workspace has, or that a file in a directory can have. -/
structure IsPlain (name : String) : Prop where
  named : Path.IsName name
  spelled : name ≠ ".." ∧ '\x00' ∉ name.toList ∧ name.utf8ByteSize ≤ 255

theorem isPlain_workspaceFileNames : ∀ name ∈ workspaceFileNames, IsPlain name := by
  intro name member
  have spelled : name ≠ "" ∧ name ≠ "." ∧ '/' ∉ name.toList ∧
      name ≠ ".." ∧ '\x00' ∉ name.toList ∧ name.utf8ByteSize ≤ 255 := by
    revert name
    decide
  exact ⟨⟨spelled.1, spelled.2.1, spelled.2.2.1⟩, spelled.2.2.2⟩

section Asking

variable (found : files.lookup root = .ok (.directory children))
  (distinct : (children.map (·.1)).Nodup)
include found distinct

theorem isFile_marker (plain : IsPlain name) (reached : IsReached root [name]) :
    files.isFile (root.join (Path.ofString name)) = .ok (holdsFile [name] children) := by
  rw [Path.ofString_name plain.named, FileTree.isFile_name found plain.spelled reached,
    holdsFile_singleton distinct]

theorem anyFile_eq_ok (plain : ∀ name ∈ names, IsPlain name)
    (fit : AskedFit root children names) :
    anyFile files root names = .ok (holdsFile names children) := by
  induction names with
  | nil => simp [anyFile, holdsFile]
  | cons name rest ih =>
    obtain ⟨first, others⟩ := List.forall_mem_cons.1 plain
    obtain ⟨reached, later⟩ := fit
    rw [@holdsFile_cons children rest name, anyFile, isFile_marker found distinct first reached]
    cases there : holdsFile [name] children with
    | true => rfl
    | false => exact ih others (later.resolve_left (by simp [there]))

theorem anyFile_eq_error (plain : ∀ name ∈ names, IsPlain name)
    (unfit : ¬AskedFit root children names) :
    ∃ name ∈ names, anyFile files root names =
      .error ⟨.nameTooLong, (root.join ⟨.relative, [name]⟩).text⟩ := by
  induction names with
  | nil => exact absurd trivial unfit
  | cons name rest ih =>
    obtain ⟨first, others⟩ := List.forall_mem_cons.1 plain
    by_cases reached : IsReached root [name]
    · cases there : holdsFile [name] children with
      | true => exact absurd ⟨reached, .inl there⟩ unfit
      | false =>
        obtain ⟨other, member, failed⟩ := ih others fun fit => unfit ⟨reached, .inr fit⟩
        refine ⟨other, List.mem_cons_of_mem name member, ?_⟩
        rw [anyFile, isFile_marker found distinct first reached, there]
        exact failed
    · refine ⟨name, List.mem_cons_self, ?_⟩
      rw [anyFile, Path.ofString_name first.named,
        FileTree.isFile_name_tooLong found first.spelled.2.1 reached]
      rfl

end Asking

section Outcome

variable (found : files.lookup root = .ok (.directory children))
  (sound : (Entry.directory children).Sound)
include found sound

theorem scanWithin_of_unfit (depth : Nat) (unfit : ¬AskedFit root children workspaceFileNames) :
    ∃ name ∈ workspaceFileNames, (scanWithin depth files root).outcome =
      .error (.read (.os ⟨.nameTooLong, (root.join ⟨.relative, [name]⟩).text⟩)) := by
  obtain ⟨distinct, _⟩ := Entry.sound_directory_iff.1 sound
  obtain ⟨name, member, failed⟩ := anyFile_eq_error found distinct isPlain_workspaceFileNames unfit
  refine ⟨name, member, ?_⟩
  simp only [scanWithin, failed]

variable (marked : holdsFile workspaceFileNames children = true)
  (fit : AskedFit root children workspaceFileNames)
include marked fit

theorem scanWithin_of_fit (depth : Nat) : (scanWithin depth files root).outcome =
    if levels root "" (.directory children) ≤ depth then .ok (treeOf root (.directory children))
    else .error .nestedTooDeep := by
  obtain ⟨distinct, _⟩ := Entry.sound_directory_iff.1 sound
  have isWorkspace := anyFile_eq_ok found distinct isPlain_workspaceFileNames fit
  simp only [scanWithin, isWorkspace, marked, found]
  split <;> rfl

end Outcome

theorem levels_le_iff (sound : (Entry.directory children).Sound) {depth : Nat} :
    levels root "" (.directory children) ≤ depth ↔
      ∀ place, IsListed root (.directory children) place → place.length < depth := by
  have deeper : depth < levels root (String.intercalate "/" []) (.directory children) ↔
      ∃ place, IsListed root (.directory children) ([] ++ place) ∧ depth ≤ place.length :=
    lt_levels_iff sound rfl (by simp) (by simp)
  rw [← Nat.not_lt]
  simpa using not_congr deeper

/-- A scan of a workspace returns the tree of its packages, whatever directories there are, and who
could go through the directories can walk through the tree. There is no such tree if more than `depth`
directories are listed inside each other, nor if the names that mark a workspace cannot be asked for,
since the path of its root leaves no room for them. -/
theorem scan_lists (found : files.lookup root = .ok (.directory children))
    (sound : (Entry.directory children).Sound)
    (marked : holdsFile workspaceFileNames children = true) (depth : Nat) :
    (AskedFit root children workspaceFileNames →
        (∀ place, IsListed root (.directory children) place → place.length < depth) →
          ∃ tree, (scanWithin depth files root).outcome = .ok tree ∧
            Lists root (.directory children) tree ∧ tree.walkWithin depth = some tree.walk) ∧
      (AskedFit root children workspaceFileNames →
        ∀ place, IsListed root (.directory children) place → depth ≤ place.length →
          (scanWithin depth files root).outcome = .error .nestedTooDeep) ∧
      (¬AskedFit root children workspaceFileNames →
        ∃ name ∈ workspaceFileNames, (scanWithin depth files root).outcome =
          .error (.read (.os ⟨.nameTooLong, (root.join ⟨.relative, [name]⟩).text⟩))) := by
  refine ⟨fun fit shallow => ?_, fun fit place listed deep => ?_, scanWithin_of_unfit found sound depth⟩
  · have within := (levels_le_iff sound).2 shallow
    refine ⟨treeOf root (.directory children), ?_, treeOf_lists sound, ?_⟩
    · rw [scanWithin_of_fit found sound marked fit, if_pos within]
    · have top : IsReached root [] := fit.1.of_above List.nil_prefix
      exact walkWithin_treeOf sound ((@isReached_iff root [] (by simp)).2 top) within
  · rw [scanWithin_of_fit found sound marked fit, if_neg]
    rw [levels_le_iff sound]
    exact fun shallow => absurd (shallow place listed) (Nat.not_lt.2 deep)

/-- A workspace in which names, directories without build files and directories that are left out
get in each other's way. -/
def sampleWorkspace : List (String × Entry) :=
  let built (children : List (String × Entry)) : Entry :=
    .directory (("BUILD", .file .empty) :: children)
  [("b", .directory [("BUILD", .emptyDirectory), ("c", built [])]),
    ("a-b", built []),
    ("MODULE.bazel", .file .empty),
    ("a", built [("c", .directory [("d", built []), (".e", built [])]), ("bazel-out", built [])])]

theorem sampleWorkspace_sound : (Entry.directory sampleWorkspace).Sound := by
  simp [sampleWorkspace, Entry.sound_directory_iff, Entry.sound_file, Entry.emptyDirectory]

theorem scan_lists_sample :
    let files : FileTree := ⟨.directory [("ws", .directory sampleWorkspace)], []⟩
    let root : Path := ⟨.slash, ["ws"]⟩
    (∃ tree, (scan files root).outcome = .ok tree ∧ Lists root (.directory sampleWorkspace) tree) ∧
      (scanWithin 2 files root).outcome = .error .nestedTooDeep := by
  intro files root
  have fit : AskedFit root sampleWorkspace workspaceFileNames :=
    ⟨by decide, .inr ⟨by decide, .inr ⟨by decide, .inl (by decide)⟩⟩⟩
  have within : levels root "" (.directory sampleWorkspace) ≤ nestingLimit := by decide +kernel
  have shallow := (levels_le_iff sampleWorkspace_sound).1 within
  have inner : IsListed root (.directory sampleWorkspace) ["b", "c"] :=
    ⟨by decide, by decide, _, rfl⟩
  have ends (depth : Nat) :=
    @scan_lists files root sampleWorkspace rfl sampleWorkspace_sound (by decide) depth
  obtain ⟨tree, scanned, lists, _⟩ := (ends nestingLimit).1 fit shallow
  exact ⟨⟨tree, scanned, lists⟩, (ends 2).2.1 fit _ inner (Nat.le_refl 2)⟩

/-- This many directories in each other, down to an entry. -/
def chain : Nat → Entry → Entry
  | 0, e => e
  | n + 1, e => .directory [("a", chain n e)]

theorem get?_chain (n m : Nat) (e : Entry) :
    (chain (n + m) e).get? (List.replicate n "a") = some (chain m e) := by
  induction n with
  | zero => simp [Entry.get?]
  | succ n ih =>
    rw [Nat.succ_add, chain, List.replicate_succ, Entry.get?]
    simpa [valueAt?] using ih

theorem locate_chain (n m : Nat) (e : Entry) :
    (List.replicate m "a").foldlM (chain (n + m) e).step (List.replicate n "a") =
      .ok (List.replicate (n + m) "a") := by
  induction m generalizing n with
  | zero => rfl
  | succ m ih =>
    have here : (chain (n + (m + 1)) e).step (List.replicate n "a") "a" =
        .ok (List.replicate (n + 1) "a") := by
      have short : ¬255 < "a".utf8ByteSize := by decide
      rw [Entry.step, get?_chain, chain]
      simp [short, valueAt?, List.replicate_succ']
    have shifted : n + (m + 1) = n + 1 + m := by omega
    rw [List.replicate_succ, List.foldlM_cons, here, shifted]
    exact ih (n + 1)

theorem utf8ByteSize_chain (n : Nat) (name : String) :
    (String.intercalate "/" (List.replicate n "a" ++ [name])).utf8ByteSize =
      2 * n + name.utf8ByteSize := by
  induction n with
  | zero => simp
  | succ n ih =>
    obtain ⟨first, more, shape⟩ := List.exists_cons_of_ne_nil
      (List.append_ne_nil_of_right_ne_nil (List.replicate n "a") (List.cons_ne_nil name []))
    have steps : "a".utf8ByteSize = 1 ∧ "/".utf8ByteSize = 1 := by decide
    rw [List.replicate_succ, List.cons_append, shape, String.intercalate_cons_cons, ← shape,
      String.utf8ByteSize_append, String.utf8ByteSize_append, ih, steps.1, steps.2]
    omega

/-- The root of the workspace, 4080 bytes from the root of the tree. -/
def farRoot : Path :=
  ⟨.slash, List.replicate 2040 "a"⟩

theorem isReached_farRoot_iff (name : String) :
    IsReached farRoot [name] ↔ name.utf8ByteSize ≤ 14 := by
  have slash : "/".utf8ByteSize = 1 := by decide
  have size : (farRoot.join ⟨.relative, [name]⟩).text.utf8ByteSize = 4081 + name.utf8ByteSize := by
    have text : (farRoot.join ⟨.relative, [name]⟩).text =
        "/" ++ String.intercalate "/" (List.replicate 2040 "a" ++ [name]) := rfl
    rw [text, String.utf8ByteSize_append, slash, utf8ByteSize_chain]
    omega
  rw [IsReached, size, FileTree.pathLimit]
  omega

/-- The one marker of this workspace is within reach, but a name that is asked for before it is not. -/
theorem scan_farRoot :
    let children := [("MODULE.bazel", Entry.file .empty)]
    let files : FileTree := ⟨chain 2040 (.directory children), []⟩
    files.lookup farRoot = .ok (.directory children) ∧ (Entry.directory children).Sound ∧
      holdsFile workspaceFileNames children = true ∧
      ∃ path, (scan files farRoot).outcome = .error (.read (.os ⟨.nameTooLong, path⟩)) := by
  intro children files
  have reached : IsReached farRoot [] :=
    ((isReached_farRoot_iff "WORKSPACE").2 (by decide)).of_above List.nil_prefix
  have found : files.lookup farRoot = .ok (.directory children) := by
    have located := locate_chain 0 2040 (.directory children)
    have here := get?_chain 2040 0 (.directory children)
    rw [Nat.zero_add] at located
    rw [Nat.add_zero] at here
    refine FileTree.lookup_eq_ok_iff.2 ⟨?_, List.replicate 2040 "a", located, here⟩
    refine FileTree.spellingFault?_eq_none_iff.2 ⟨fun s member => ?_, ?_⟩
    · obtain rfl := List.eq_of_mem_replicate member
      decide
    · rwa [IsReached, Path.join_nil] at reached
  have sound : (Entry.directory children).Sound := by
    simp [children, Entry.sound_directory_iff, Entry.sound_file]
  -- The second name is asked for, as the first one is not there, and it is too long by one byte.
  have unfit : ¬AskedFit farRoot children workspaceFileNames := by
    rintro ⟨_, there | ⟨reached, _⟩⟩
    · exact absurd there (by decide)
    · exact absurd ((isReached_farRoot_iff _).1 reached) (by decide)
  obtain ⟨_, _, failed⟩ := scanWithin_of_unfit found sound nestingLimit unfit
  exact ⟨found, sound, rfl, _, failed⟩

end Scans

end WorkspaceImport.Package
