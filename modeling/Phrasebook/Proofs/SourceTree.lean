import Phrasebook.Proofs.Rescan
import Mathlib.Data.String.Basic

/-!
# Source files of a tree

On a disk on which every file has a place of its own, a scan lists just the
accepted files below the source directories, in the order of their paths.
What it lists depends on what the disk holds and on what is asked for, and
not on the order in which either is given.
-/

namespace Phrasebook

open Text (Source)

/-! ## Trees -/

namespace Disk

/-- Every file of a disk has a place of its own, and the names that lead to it hold no slashes. -/
structure IsTree (disk : Disk) : Prop where
  distinct : (disk.files.map (·.1)).Nodup
  names : ∀ file ∈ disk.files, ∀ name ∈ file.1, '/' ∉ name.toList

/-- Two disks hold the same files and directories, in whatever order they list them. -/
structure ListsSame (disk other : Disk) : Prop where
  files : disk.files.Perm other.files
  directories : ∀ place, place ∈ disk.directories ↔ place ∈ other.directories
  current : disk.current = other.current

section Trees

variable {disk other : Disk}

theorem IsTree.of_listsSame (isTree : disk.IsTree) (same : disk.ListsSame other) :
    other.IsTree where
  distinct := (same.files.map _).nodup_iff.mp isTree.distinct
  names file fileMem := isTree.names file (same.files.mem_iff.mpr fileMem)

theorem IsTree.fileAt?_eq_some_iff (isTree : disk.IsTree) {place : List String}
    {source : Source} : disk.fileAt? place = some source ↔ (place, source) ∈ disk.files := by
  rw [fileAt?, Option.map_eq_some_iff]
  constructor
  · rintro ⟨⟨found, content⟩, isFound, rfl⟩
    have samePlace := List.find?_some isFound
    obtain rfl := beq_iff_eq.mp samePlace
    exact List.mem_of_find?_eq_some isFound
  · intro fileMem
    have isSome : (disk.files.find? fun file => file.1 == place).isSome = true :=
      List.find?_isSome.mpr ⟨_, fileMem, BEq.rfl⟩
    obtain ⟨found, isFound⟩ := Option.isSome_iff_exists.mp isSome
    have samePlace := List.find?_some isFound
    have isFile : found = (place, source) :=
      List.inj_on_of_nodup_map isTree.distinct (List.mem_of_find?_eq_some isFound) fileMem
        (beq_iff_eq.mp samePlace)
    exact ⟨found, isFound, congrArg Prod.snd isFile⟩

namespace ListsSame

variable (isTree : disk.IsTree) (same : disk.ListsSame other)
include isTree same

theorem fileAt?_eq (place : List String) : other.fileAt? place = disk.fileAt? place := by
  apply Option.ext
  intro source
  rw [(isTree.of_listsSame same).fileAt?_eq_some_iff, isTree.fileAt?_eq_some_iff,
    same.files.mem_iff]

omit isTree in
theorem hasDirectory_eq (place : List String) :
    other.hasDirectory place = disk.hasDirectory place := by
  unfold hasDirectory
  congr 1
  rw [Bool.eq_iff_iff, List.contains_iff_mem, List.contains_iff_mem, same.directories]

theorem walk_eq (here parts : List String) : other.walk here parts = disk.walk here parts := by
  induction parts generalizing here with
  | nil => rfl
  | cons part parts ih =>
      rw [Disk.walk, Disk.walk, same.hasDirectory_eq, same.fileAt?_eq isTree, ih]

theorem placeOf_eq (path : Path) : other.placeOf path = disk.placeOf path := by
  rw [placeOf, placeOf, same.current, same.walk_eq isTree]

theorem isDirectory_eq (path : Path) : other.isDirectory path = disk.isDirectory path := by
  simp only [isDirectory, same.placeOf_eq isTree, same.hasDirectory_eq]

theorem exists?_eq (path : Path) : other.exists? path = disk.exists? path := by
  simp only [exists?, isFile, same.placeOf_eq isTree, same.fileAt?_eq isTree,
    same.isDirectory_eq isTree]

theorem read_eq (path : Path) : other.read path = disk.read path := by
  simp only [read, same.placeOf_eq isTree, same.fileAt?_eq isTree, same.hasDirectory_eq]

omit isTree in
theorem resolve_eq (path : Path) : other.resolve path = disk.resolve path := by
  rw [resolve, resolve, same.current]

end ListsSame

end Trees

end Disk

namespace Scan

/-! ## What a scan looks for -/

/-- The last of the rules that are about a path, if there are any. -/
def lastAbout? (rules : List Rule) (parts : List String) (isDirectory : Bool) : Option Rule :=
  (rules.filter fun rule => rule.isAbout parts isDirectory).getLast?

/-- A path is ignored if there are rules about it, and the last one is not negated. -/
def IsIgnored (rules : List Rule) (parts : List String) (isDirectory : Bool) : Prop :=
  ∃ rule, lastAbout? rules parts isDirectory = some rule ∧ rule.isNegated = false

/-- A file is a source file as far as its own path tells. -/
structure IsAccepted (options : Options) (rules : List Rule) (parts : List String) : Prop where
  name : parts.getLast?.getD "" ∉ options.excludedFiles
  suffix : Text.lower (Disk.suffixOf (parts.getLast?.getD "")) ∈ options.suffixes
  notIgnored : ¬IsIgnored rules parts false

/-- A directory may be entered on the way to a file. -/
structure MayEnter (options : Options) (rules : List Rule) (parts : List String) : Prop where
  name : parts.getLast?.getD "" ∉ neverScanned ++ options.excludedDirectories
  notIgnored : ¬IsIgnored rules parts true

/-- A file is a start or lies below it, and every directory strictly between may be entered. -/
structure IsReached (options : Options) (rules : List Rule) (start parts : List String) : Prop where
  isBelow : start <+: parts
  mayEnter : ∀ directory, start <+: directory → directory <+: parts → directory ≠ start →
    directory ≠ parts → MayEnter options rules directory

/-- A file of a disk is what a scan below a root looks for. -/
structure IsScanned (disk : Disk) (root : Disk.Path) (options : Options) (rules : List Rule)
    (file : SourceFile) : Prop where
  isThere : (root.parts ++ file.parts, file.source) ∈ disk.files
  isAccepted : IsAccepted options rules file.parts
  isReached : ∃ directory ∈ options.directories, ∃ start,
    startOf disk root directory = .ok start ∧ IsReached options rules start file.parts

section Rules

variable {options : Options} {rules : List Rule} {parts start directory : List String}

theorem ignores_iff {isDirectory : Bool} :
    ignores rules parts isDirectory = true ↔ IsIgnored rules parts isDirectory := by
  induction rules using List.reverseRecOn with
  | nil => simp [ignores, IsIgnored, lastAbout?]
  | append_singleton rules last ih =>
      rw [ignores, List.foldl_append, List.foldl_cons, List.foldl_nil]
      by_cases isAbout : last.isAbout parts isDirectory = true
      · simp [IsIgnored, lastAbout?, isAbout]
      · rw [if_neg isAbout]
        rw [ignores] at ih
        simp [ih, IsIgnored, lastAbout?, isAbout]

theorem accepts_iff : options.accepts rules parts = true ↔ IsAccepted options rules parts := by
  simp only [Options.accepts, Bool.and_eq_true, Bool.not_eq_true', Bool.eq_false_iff, ne_eq,
    List.contains_iff_mem, ignores_iff]
  constructor
  · rintro ⟨⟨name, suffix⟩, notIgnored⟩
    exact ⟨name, suffix, notIgnored⟩
  · rintro ⟨name, suffix, notIgnored⟩
    exact ⟨⟨name, suffix⟩, notIgnored⟩

theorem enters_iff : options.enters rules parts = true ↔ MayEnter options rules parts := by
  simp only [Options.enters, Bool.not_eq_true', Bool.eq_false_iff, ne_eq, Bool.or_eq_true,
    List.contains_iff_mem, ignores_iff, not_or]
  constructor
  · rintro ⟨⟨notNever, notExcluded⟩, notIgnored⟩
    exact ⟨by simp [notNever, notExcluded], notIgnored⟩
  · rintro ⟨name, notIgnored⟩
    rw [List.mem_append, not_or] at name
    exact ⟨name, notIgnored⟩

/-- What is between a start and a file are the ways to the file that go on from the start. -/
theorem mem_between (isBelow : start <+: parts) :
    directory ∈ Options.between start parts ↔
      start <+: directory ∧ directory <+: parts ∧ directory ≠ start ∧ directory ≠ parts := by
  rw [Options.between, List.mem_map]
  constructor
  · rintro ⟨index, isIndex, rfl⟩
    rw [List.mem_range] at isIndex
    have isPrefix := List.take_prefix (start.length + index + 1) parts
    have length : (parts.take (start.length + index + 1)).length = start.length + index + 1 := by
      rw [List.length_take]
      omega
    refine ⟨List.prefix_of_prefix_length_le isBelow isPrefix (by omega), isPrefix, ?_, ?_⟩
    · intro isStart
      rw [isStart] at length
      omega
    · intro isFile
      rw [isFile] at length
      omega
  · rintro ⟨isAbove, isPrefix, notStart, notFile⟩
    have longer : start.length < directory.length := by
      refine Nat.lt_of_le_of_ne isAbove.length_le fun sameLength => notStart ?_
      exact (isAbove.eq_of_length sameLength).symm
    have shorter : directory.length < parts.length := by
      refine Nat.lt_of_le_of_ne isPrefix.length_le fun sameLength => notFile ?_
      exact isPrefix.eq_of_length sameLength
    refine ⟨directory.length - start.length - 1, List.mem_range.mpr (by omega), ?_⟩
    have count : start.length + (directory.length - start.length - 1) + 1 = directory.length := by
      omega
    rw [count]
    exact (List.prefix_iff_eq_take.mp isPrefix).symm

theorem reaches_iff :
    options.reaches rules start parts = true ↔ IsReached options rules start parts := by
  rw [Options.reaches, Bool.and_eq_true, List.isPrefixOf_iff_prefix, List.all_eq_true]
  constructor
  · rintro ⟨isBelow, areEntered⟩
    refine ⟨isBelow, fun directory isAbove isPrefix notStart notFile => ?_⟩
    exact enters_iff.mp
      (areEntered directory ((mem_between isBelow).mpr ⟨isAbove, isPrefix, notStart, notFile⟩))
  · rintro ⟨isBelow, mayEnter⟩
    refine ⟨isBelow, fun directory isBetween => enters_iff.mpr ?_⟩
    obtain ⟨isAbove, isPrefix, notStart, notFile⟩ := (mem_between isBelow).mp isBetween
    exact mayEnter directory isAbove isPrefix notStart notFile

end Rules

/-! ## Paths of source files -/

section Paths

variable {disk : Disk} {root : Disk.Path} {options : Options} {rules : List Rule}
  {file other : SourceFile}

/-- Names without slashes are told by their path. -/
theorem path_inj {parts others : List String} (named : parts ≠ []) (otherNamed : others ≠ [])
    (noSlash : ∀ name ∈ parts, '/' ∉ name.toList) (noOther : ∀ name ∈ others, '/' ∉ name.toList)
    (same : "/".intercalate parts = "/".intercalate others) : parts = others := by
  have split {parts : List String} (named : parts ≠ [])
      (noSlash : ∀ name ∈ parts, '/' ∉ name.toList) :
      ("/".intercalate parts).toList.splitOn '/' = parts.map String.toList := by
    rw [String.toList_intercalate]
    exact List.splitOn_intercalate _ (List.forall_mem_map.mpr noSlash) (by simpa using named)
  have sameNames : parts.map String.toList = others.map String.toList := by
    rw [← split named noSlash, same, split otherNamed noOther]
  exact List.map_injective_iff.mpr (fun _ _ => String.toList_inj.mp) sameNames

/-- A source file has a name, because its suffix is not empty. -/
theorem IsAccepted.ne_nil {parts : List String} (accepted : IsAccepted options rules parts) :
    parts ≠ [] := by
  rintro rfl
  obtain ⟨extension, -, isEmpty⟩ := List.mem_map.mp accepted.suffix
  have isList := congrArg String.toList isEmpty
  rw [String.toList_ofList] at isList
  contradiction

/-- What a scan looks for on a tree is told by its path. -/
theorem IsScanned.eq_of_path (isTree : disk.IsTree)
    (isScanned : IsScanned disk root options rules file)
    (isOther : IsScanned disk root options rules other) (samePath : file.path = other.path) :
    file = other := by
  have noSlash {file : SourceFile} (isScanned : IsScanned disk root options rules file) :
      ∀ name ∈ file.parts, '/' ∉ name.toList :=
    fun name nameMem => isTree.names _ isScanned.isThere name (List.mem_append_right _ nameMem)
  have sameParts := path_inj isScanned.isAccepted.ne_nil isOther.isAccepted.ne_nil
    (noSlash isScanned) (noSlash isOther) samePath
  have isThere := isScanned.isThere
  rw [sameParts] at isThere
  have sameFile := List.inj_on_of_nodup_map isTree.distinct isThere isOther.isThere rfl
  cases file
  cases other
  exact (SourceFile.mk.injEq ..).mpr ⟨sameParts, congrArg Prod.snd sameFile⟩

end Paths

/-! ## Scans of trees -/

section Scans

variable {disk other : Disk} {base root : Disk.Path} {options : Options} {rules : List Rule}
  {directories : List String} {files : List SourceFile}

/-- A scan lists what it looks for. -/
theorem mem_sourceFiles_iff (done : sourceFiles disk base options = .ok files) :
    ∃ rules, rulesAt disk (disk.resolve base) = .ok rules ∧
      ∀ file, file ∈ files ↔ IsScanned disk (disk.resolve base) options rules file := by
  obtain ⟨scope, hasScope, isFound⟩ := sourceFiles_eq_ok done
  have starts := mapM_eq_ok_iff.mp hasScope.starts
  refine ⟨scope.rules, hasScope.rules, fun file => ?_⟩
  rw [isFound, Scope.includes, Bool.and_eq_true, accepts_iff, List.any_eq_true]
  constructor
  · rintro ⟨isThere, accepted, start, startMem, reached⟩
    obtain ⟨directory, directoryMem, -, isStart⟩ := exists_mem_zip_right starts startMem
    exact ⟨isThere, accepted, directory, directoryMem, start, isStart, reaches_iff.mp reached⟩
  · rintro ⟨isThere, accepted, directory, directoryMem, start, isStart, reached⟩
    obtain ⟨found, foundMem, -, isFound⟩ := exists_mem_zip_left starts directoryMem
    rw [isStart] at isFound
    obtain rfl := Except.ok.inj isFound
    exact ⟨isThere, accepted, start, foundMem, reaches_iff.mpr reached⟩

theorem pairwise_sorted (files : List SourceFile) :
    (sorted files).Pairwise fun file other => file.path ≤ other.path := by
  have isUpTo (file other : SourceFile) :
      (!decide (other.path < file.path)) = true ↔ file.path ≤ other.path := by
    rw [Bool.not_eq_true', decide_eq_false_iff_not, not_lt]
  have upTo := @List.pairwise_mergeSort SourceFile (fun file other => !(other.path < file.path))
    (fun first second third isFirst isSecond => (isUpTo first third).mpr
      (le_trans ((isUpTo first second).mp isFirst) ((isUpTo second third).mp isSecond)))
    (fun first second => by
      rw [Bool.or_eq_true, isUpTo, isUpTo]
      exact le_total first.path second.path)
    files
  exact upTo.imp fun {file other} => (isUpTo file other).mp

/-- The paths of what a scan of a tree lists increase strictly. -/
theorem pairwise_path_sourceFiles (isTree : disk.IsTree)
    (done : sourceFiles disk base options = .ok files) :
    files.Pairwise fun file other => file.path < other.path := by
  obtain ⟨rules, -, isScanned⟩ := mem_sourceFiles_iff done
  obtain ⟨scope, hasScope⟩ := exists_hasScope done
  rw [hasScope.sourceFiles_eq] at done
  obtain rfl := Except.ok.inj done
  generalize scope.starts.flatMap _ = found at isScanned ⊢
  have once : (sorted (distinct found)).Nodup := by
    rw [sorted, (List.mergeSort_perm _ _).nodup_iff]
    exact nodup_distinct found
  apply ((pairwise_sorted (distinct found)).and once).imp_of_mem
  rintro file other fileMem otherMem ⟨notAfter, different⟩
  apply lt_of_le_of_ne notAfter
  intro samePath
  apply different
  exact ((isScanned file).mp fileMem).eq_of_path isTree ((isScanned other).mp otherMem) samePath

/-- Files whose paths increase strictly are different. -/
theorem nodup_of_pairwise_path (ordered : files.Pairwise fun file other => file.path < other.path) :
    files.Nodup :=
  ordered.imp fun {file other} (isBefore : file.path < other.path) same =>
    lt_irrefl _ (same ▸ isBefore)

theorem startOf_of_listsSame (isTree : disk.IsTree) (same : disk.ListsSame other)
    (directory : String) : startOf other root directory = startOf disk root directory := by
  simp only [startOf, same.resolve_eq, same.exists?_eq isTree]

theorem rulesAt_of_listsSame (isTree : disk.IsTree) (same : disk.ListsSame other) :
    rulesAt other root = rulesAt disk root := by
  simp only [rulesAt, same.read_eq isTree]

/-- What a scan looks for does not depend on the order of what it is given. -/
theorem isScanned_iff_of_listsSame (isTree : disk.IsTree) (same : disk.ListsSame other)
    (sameDirectories : ∀ directory, directory ∈ directories ↔ directory ∈ options.directories)
    {file : SourceFile} :
    IsScanned other root { options with directories } rules file ↔
      IsScanned disk root options rules file := by
  have sameAccepted : IsAccepted { options with directories } rules file.parts ↔
      IsAccepted options rules file.parts := by
    rw [← accepts_iff, ← accepts_iff]
    rfl
  have sameReached (start : List String) :
      IsReached { options with directories } rules start file.parts ↔
        IsReached options rules start file.parts := by
    rw [← reaches_iff, ← reaches_iff]
    rfl
  constructor
  · rintro ⟨isThere, accepted, directory, directoryMem, start, isStart, reached⟩
    rw [startOf_of_listsSame isTree same] at isStart
    exact ⟨same.files.mem_iff.mpr isThere, sameAccepted.mp accepted, directory,
      (sameDirectories directory).mp directoryMem, start, isStart, (sameReached start).mp reached⟩
  · rintro ⟨isThere, accepted, directory, directoryMem, start, isStart, reached⟩
    rw [← startOf_of_listsSame isTree same] at isStart
    exact ⟨same.files.mem_iff.mp isThere, sameAccepted.mpr accepted, directory,
      (sameDirectories directory).mpr directoryMem, start, isStart, (sameReached start).mpr reached⟩

/-- A tree is scanned with the same result in whatever order its files and directories are listed
and the source directories are given. -/
theorem sourceFiles_of_listsSame (isTree : disk.IsTree) (same : disk.ListsSame other)
    (sameDirectories : ∀ directory, directory ∈ directories ↔ directory ∈ options.directories)
    (done : sourceFiles disk base options = .ok files) :
    sourceFiles other base { options with directories } = .ok files := by
  obtain ⟨scope, hasScope, -⟩ := sourceFiles_eq_ok done
  have eachStart : ∀ directory ∈ directories, ∃ start,
      startOf other (disk.resolve base) directory = .ok start := by
    intro directory directoryMem
    obtain ⟨start, -, -, isStart⟩ := exists_mem_zip_left (mapM_eq_ok_iff.mp hasScope.starts)
      ((sameDirectories directory).mp directoryMem)
    exact ⟨start, (startOf_of_listsSame isTree same directory).trans isStart⟩
  obtain ⟨starts, areStarts⟩ := exists_mapM_eq_ok eachStart
  have hasOther : HasScope other (other.resolve base) { options with directories }
      ⟨scope.rules, starts⟩ := by
    rw [same.resolve_eq]
    refine ⟨?_, ?_, areStarts⟩
    · rw [same.isDirectory_eq isTree]
      exact hasScope.isDirectory
    · rw [rulesAt_of_listsSame isTree same]
      exact hasScope.rules
  obtain ⟨others, isDone⟩ := hasOther.sourceFiles
  obtain ⟨rules, isRules, isScanned⟩ := mem_sourceFiles_iff done
  obtain ⟨otherRules, areOtherRules, isOtherScanned⟩ := mem_sourceFiles_iff isDone
  have sameRules : otherRules = rules := by
    rw [same.resolve_eq, rulesAt_of_listsSame isTree same, isRules] at areOtherRules
    exact (Except.ok.inj areOtherRules).symm
  have sameFiles : ∀ file, file ∈ others ↔ file ∈ files := by
    intro file
    rw [isOtherScanned, isScanned, same.resolve_eq, sameRules]
    exact isScanned_iff_of_listsSame isTree same sameDirectories
  have ordered := pairwise_path_sourceFiles isTree done
  have otherOrdered := pairwise_path_sourceFiles (isTree.of_listsSame same) isDone
  have perm : others.Perm files :=
    (List.perm_ext_iff_of_nodup (nodup_of_pairwise_path otherOrdered)
      (nodup_of_pairwise_path ordered)).mpr sameFiles
  rw [isDone]
  congr 1
  exact perm.eq_of_pairwise
    (fun _ _ _ _ isBefore isAfter => absurd (isBefore.trans isAfter) (lt_irrefl _))
    otherOrdered ordered

/-- A scan of a tree lists just the accepted files below the source directories, each of them once
and in the order of their paths, whatever the order of what it is given. -/
theorem sourceFiles_of_tree (isTree : disk.IsTree)
    (done : sourceFiles disk base options = .ok files) :
    (files.Pairwise fun file other => file.path < other.path) ∧
      (∃ rules, rulesAt disk (disk.resolve base) = .ok rules ∧
        ∀ file, file ∈ files ↔ IsScanned disk (disk.resolve base) options rules file) ∧
      ∀ other directories, disk.ListsSame other →
        (∀ directory, directory ∈ directories ↔ directory ∈ options.directories) →
          sourceFiles other base { options with directories } = .ok files :=
  ⟨pairwise_path_sourceFiles isTree done, mem_sourceFiles_iff done,
    fun _ _ same sameDirectories => sourceFiles_of_listsSame isTree same sameDirectories done⟩

end Scans

/-! ## An example -/

/-- A tree with a file that is ignored, one that is taken back, and an ignored directory. -/
def exampleTree : Disk where
  files := [
    (["p", "src", "out", "a.js"], .ofString ""),
    (["p", "src", "lib", "b.jsx"], .ofString ""),
    (["p", "src", "c.gen.js"], .ofString ""),
    (["p", "src", "d.gen.js"], .ofString "d"),
    (["p", ".gitignore"], .ofString "*.gen.js\n!/src/d.*\nout/\n")]
  directories := [["p"], ["p", "src"], ["p", "src", "lib"], ["p", "src", "out"]]

theorem hasScope_exampleTree :
    HasScope exampleTree (exampleTree.resolve (Disk.Path.ofString "/p"))
      { directories := ["src/lib", "src", "src/lib"] }
      ⟨[⟨"*.gen.js", false, false, false⟩, ⟨"src/d.*", false, true, true⟩,
        ⟨"out", true, false, false⟩], [["src", "lib"], ["src"], ["src", "lib"]]⟩ :=
  ⟨by decide +kernel, by decide +kernel, by decide +kernel⟩

/-- Two of the source directories of the tree overlap, and what is found in both counts once. -/
theorem sourceFiles_of_exampleTree :
    sourceFiles exampleTree (Disk.Path.ofString "/p")
        { directories := ["src/lib", "src", "src/lib"] } =
      .ok [⟨["src", "d.gen.js"], .ofString "d"⟩, ⟨["src", "lib", "b.jsx"], .ofString ""⟩] := by
  rw [hasScope_exampleTree.sourceFiles_eq]
  congr 1
  have found : distinct (([["src", "lib"], ["src"], ["src", "lib"]] : List (List String)).flatMap
      (filesFrom { directories := ["src/lib", "src", "src/lib"] }
        [⟨"*.gen.js", false, false, false⟩, ⟨"src/d.*", false, true, true⟩,
          ⟨"out", true, false, false⟩]
        (filesBelow exampleTree (exampleTree.resolve (Disk.Path.ofString "/p"))))) =
      [⟨["src", "d.gen.js"], .ofString "d"⟩, ⟨["src", "lib", "b.jsx"], .ofString ""⟩] := by
    decide +kernel
  rw [found]
  exact List.mergeSort_of_pairwise (by decide +kernel)

/-- The tree is scanned with the same result if everything is given in another order. -/
theorem sourceFiles_of_tree_reversed :
    sourceFiles { exampleTree with files := exampleTree.files.reverse } (Disk.Path.ofString "/p")
        { directories := ["src", "src/lib"] } =
      .ok [⟨["src", "d.gen.js"], .ofString "d"⟩, ⟨["src", "lib", "b.jsx"], .ofString ""⟩] := by
  have isTree : exampleTree.IsTree := ⟨by decide, by decide +kernel⟩
  have same : exampleTree.ListsSame { exampleTree with files := exampleTree.files.reverse } :=
    ⟨(List.reverse_perm _).symm, fun _ => Iff.rfl, rfl⟩
  refine (sourceFiles_of_tree isTree sourceFiles_of_exampleTree).2.2 _ _ same ?_
  intro directory
  grind

end Scan

end Phrasebook
