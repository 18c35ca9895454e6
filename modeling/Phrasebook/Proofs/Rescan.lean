import Phrasebook.Proofs.Growth
import Phrasebook.Proofs.Scanning
import Phrasebook.Proofs.Trial

/-!
# Scanning again

A scan depends on the rules of the ignore file, on the directories that it
starts from and on the files themselves.  A disk that has grown at places
outside the scan is scanned as before.
-/

namespace Phrasebook.Scan

open Text (Source)

/-! ## What a scan finds -/

/-- The rules and the starts of a scan. -/
structure Scope where
  rules : List Rule
  starts : List (List String)

/-- Whether a file is in the scope of a scan, as far as the names that lead to it tell. -/
def Scope.includes (scope : Scope) (options : Options) (parts : List String) : Bool :=
  options.accepts scope.rules parts &&
    scope.starts.any fun start => options.reaches scope.rules start parts

/-- A disk has a scope below a root. -/
structure HasScope (disk : Disk) (root : Disk.Path) (options : Options) (scope : Scope) :
    Prop where
  isDirectory : disk.isDirectory root = true
  rules : rulesAt disk root = .ok scope.rules
  starts : options.directories.mapM (startOf disk root) = .ok scope.starts

section Scope

variable {disk other : Disk} {root base : Disk.Path} {options : Options} {scope : Scope}
  {files : List SourceFile}

theorem below?_ofParts {root : Disk.Path} (isAbsolute : root.slashes = 1)
    {place parts : List String} :
    root.below? (Disk.Path.ofParts place) = some parts ↔ place = root.parts ++ parts := by
  constructor
  · exact fun isBelow => Disk.Path.parts_of_below? isBelow
  · rintro rfl
    simp [Disk.Path.below?, Disk.Path.ofParts, isAbsolute]

theorem mem_filesBelow {file : SourceFile} (isAbsolute : root.slashes = 1) :
    file ∈ filesBelow disk root ↔ (root.parts ++ file.parts, file.source) ∈ disk.files := by
  rw [filesBelow, List.mem_filterMap]
  constructor
  · rintro ⟨⟨place, source⟩, placeMem, isFound⟩
    obtain ⟨parts, isBelow, rfl⟩ := Option.map_eq_some_iff.mp isFound
    obtain rfl := (below?_ofParts isAbsolute).mp isBelow
    exact placeMem
  · intro placeMem
    refine ⟨_, placeMem, ?_⟩
    dsimp only
    rw [(below?_ofParts isAbsolute).mpr rfl]
    rfl

theorem HasScope.sourceFiles_eq (hasScope : HasScope disk (disk.resolve base) options scope) :
    Scan.sourceFiles disk base options = .ok (sorted (distinct (scope.starts.flatMap
      (filesFrom options scope.rules (filesBelow disk (disk.resolve base)))))) := by
  obtain ⟨isDirectory, rules, starts⟩ := hasScope
  unfold Scan.sourceFiles
  dsimp only
  rw [isDirectory, rules, starts]
  rfl

/-- A scan that succeeds has a scope. -/
theorem exists_hasScope (done : sourceFiles disk base options = .ok files) :
    ∃ scope, HasScope disk (disk.resolve base) options scope := by
  unfold sourceFiles at done
  dsimp only at done
  split at done
  · cases done
  · rename_i isDirectory
    obtain ⟨rules, isRules, done⟩ := bind_eq_ok_iff.mp done
    obtain ⟨starts, isStarts, -⟩ := bind_eq_ok_iff.mp done
    exact ⟨⟨rules, starts⟩, ⟨by simpa using isDirectory, isRules, isStarts⟩⟩

/-- A scan finds the files in its scope. -/
theorem sourceFiles_eq_ok (done : sourceFiles disk base options = .ok files) :
    ∃ scope, HasScope disk (disk.resolve base) options scope ∧ ∀ file, file ∈ files ↔
      ((disk.resolve base).parts ++ file.parts, file.source) ∈ disk.files ∧
        scope.includes options file.parts = true := by
  obtain ⟨scope, hasScope⟩ := exists_hasScope done
  refine ⟨scope, hasScope, fun file => ?_⟩
  rw [hasScope.sourceFiles_eq] at done
  obtain rfl := Except.ok.inj done
  rw [sorted, List.mem_mergeSort, mem_distinct, List.mem_flatMap, Scope.includes,
    Bool.and_eq_true, List.any_eq_true]
  simp only [mem_filesFrom]
  rw [mem_filesBelow rfl]
  constructor
  · rintro ⟨start, isStart, isThere, accepted, reached⟩
    exact ⟨isThere, accepted, start, isStart, reached⟩
  · rintro ⟨isThere, accepted, start, isStart, reached⟩
    exact ⟨start, isStart, isThere, accepted, reached⟩

theorem HasScope.sourceFiles (hasScope : HasScope disk (disk.resolve base) options scope) :
    ∃ files, Scan.sourceFiles disk base options = .ok files :=
  ⟨_, hasScope.sourceFiles_eq⟩

theorem startOf_of_growsBy {places : List String → Prop} (grows : disk.GrowsBy places other)
    {directory : String} {start : List String} (isStart : startOf disk root directory = .ok start) :
    startOf other root directory = .ok start := by
  unfold startOf at isStart ⊢
  dsimp only at isStart ⊢
  split at isStart
  · cases isStart
  · rename_i isThere
    have isThere :
        disk.exists? (disk.resolve (root.join (Disk.Path.ofString directory))) = true := by
      simpa using isThere
    rw [grows.resolve_eq, grows.exists? isThere]
    exact isStart

/-- A disk that has grown has the scope that it had if the ignore file is read as before. -/
theorem HasScope.of_growsBy {places : List String → Prop} (grows : disk.GrowsBy places other)
    (sameRules : other.read (root.join (Disk.Path.ofString ".gitignore")) =
      disk.read (root.join (Disk.Path.ofString ".gitignore")))
    (hasScope : HasScope disk root options scope) : HasScope other root options scope where
  isDirectory := grows.isDirectory hasScope.isDirectory
  rules := by
    have isRules := hasScope.rules
    unfold rulesAt at isRules ⊢
    rw [sameRules]
    exact isRules
  starts := mapM_eq_ok_iff.mpr ((mapM_eq_ok_iff.mp hasScope.starts).imp fun _ _ =>
    startOf_of_growsBy grows)

end Scope

/-! ## Paths of scanned files -/

section Paths

variable {scope : Scope} {options : Options} {parts : List String}

/-- The name of a scanned file has an ending. -/
theorem Scope.exists_name (isIncluded : scope.includes options parts = true) :
    ∃ above name, parts = above ++ [name] ∧ name ≠ "" := by
  have isAccepted := (Bool.and_eq_true_iff.mp isIncluded).1
  unfold Options.accepts at isAccepted
  simp only [Bool.and_eq_true] at isAccepted
  have isEnding := List.contains_iff_mem.mp isAccepted.1.2
  have named : parts.getLast?.getD "" ≠ "" := by
    intro isEmpty
    rw [isEmpty] at isEnding
    obtain ⟨extension, -, same⟩ := List.mem_map.mp isEnding
    have isList := congrArg String.toList same
    rw [String.toList_ofList] at isList
    cases isList
  cases isLast : parts.getLast? with
  | none =>
      rw [isLast] at named
      exact absurd rfl named
  | some name =>
      obtain ⟨above, isWhole⟩ := List.getLast?_eq_some_iff.mp isLast
      rw [isLast] at named
      exact ⟨above, name, isWhole, named⟩

theorem path_ne_empty {file : SourceFile} (isIncluded : scope.includes options file.parts = true) :
    file.path ≠ "" := by
  obtain ⟨above, name, isWhole, named⟩ := Scope.exists_name isIncluded
  intro isEmpty
  have isList := congrArg String.toList isEmpty
  rw [SourceFile.path, isWhole, String.toList_intercalate, List.map_append] at isList
  cases above with
  | nil => exact named (String.toList_eq_nil_iff.mp (by simpa using isList))
  | cons first above =>
      cases above <;> simp at isList

end Paths

end Phrasebook.Scan

namespace Phrasebook.Project

open Command
open Scan (HasScope Scope SourceFile)

/-! ## Sources of a project -/

/-- A file is one of the sources of a project: it is on the disk, in the scope of the scan, and not
the book. -/
structure IsSource (project : Project) (disk : Disk) (scope : Scope) (file : SourceFile) :
    Prop where
  isThere : ((disk.resolve project.root).parts ++ file.parts, file.source) ∈ disk.files
  isIncluded : scope.includes (scanOptions project.settings) file.parts = true
  notBook : file.path ≠ Disk.Path.relative disk.current project.root project.bookPath

section Sources

variable {project : Project} {session last : Session} {scope : Scope} {files : List SourceFile}

theorem isSource_of_sourceFiles
    (done : project.sourceFiles.run.run session = (.ok files, last)) :
    ∃ scope, HasScope session.disk (session.disk.resolve project.root)
        (scanOptions project.settings) scope ∧
      ∀ file, file ∈ files ↔ project.IsSource session.disk scope file := by
  obtain ⟨disk, _, isDisk, done⟩ := Book.run_bind_eq_ok_iff.mp done
  cases isDisk
  obtain ⟨scanned, _, isScanned, done⟩ := Book.run_bind_eq_ok_iff.mp done
  obtain ⟨_, _, _, done⟩ := Book.run_bind_eq_ok_iff.mp done
  cases done
  obtain ⟨scope, hasScope, isFound⟩ := Scan.sourceFiles_eq_ok (Book.run_orFail_eq_ok isScanned)
  refine ⟨scope, hasScope, fun file => ?_⟩
  rw [List.mem_filter, isFound, bne_iff_ne]
  constructor
  · exact fun ⟨⟨isThere, isIncluded⟩, notBook⟩ => ⟨isThere, isIncluded, notBook⟩
  · exact fun isSource => ⟨⟨isSource.isThere, isSource.isIncluded⟩, isSource.notBook⟩

theorem exists_sourceFiles (hasScope : HasScope session.disk (session.disk.resolve project.root)
    (scanOptions project.settings) scope) :
    ∃ files last, project.sourceFiles.run.run session = (.ok files, last) ∧
      last.disk = session.disk ∧
      ∀ file, file ∈ files ↔ project.IsSource session.disk scope file := by
  obtain ⟨scanned, isScanned⟩ := hasScope.sourceFiles
  have succeeds : ∃ files last, project.sourceFiles.run.run session = (.ok files, last) := by
    have isDisk : (disk : Command Disk).run.run session = (.ok session.disk, session) := rfl
    unfold sourceFiles
    dsimp only
    rw [run_bind_of_ok isDisk, isScanned]
    exact ⟨_, _, rfl⟩
  obtain ⟨files, last, done⟩ := succeeds
  have sameDisk := keepsDisk_sourceFiles project session
  rw [done] at sameDisk
  obtain ⟨again, hasAgain, isFound⟩ := isSource_of_sourceFiles done
  have sameScope : again = scope := by
    have sameRules := hasAgain.rules.symm.trans hasScope.rules
    have sameStarts := hasAgain.starts.symm.trans hasScope.starts
    cases again
    cases scope
    rw [Scope.mk.injEq]
    exact ⟨Except.ok.inj sameRules, Except.ok.inj sameStarts⟩
  exact ⟨files, last, done, sameDisk, sameScope ▸ isFound⟩

theorem IsSource.place_ne_bookPlace {disk : Disk} {file : SourceFile}
    (isSource : project.IsSource disk scope file) :
    (disk.resolve project.root).parts ++ file.parts ≠ (disk.resolve project.bookPath).parts := by
  intro samePlace
  obtain ⟨above, name, isWhole, -⟩ := Scope.exists_name isSource.isIncluded
  have isBelow : (project.root.resolved disk.current).below?
      (project.bookPath.resolved disk.current) = some file.parts :=
    (Scan.below?_ofParts rfl).mpr samePlace.symm
  apply isSource.notBook
  rw [Disk.Path.relative, isBelow]
  dsimp only
  simp [Disk.Path.written, isWhole, SourceFile.path]

/-- Sources stay sources, and no others are added, on a disk that has grown at the places of the
book and of the stored places, if the latter are not scanned. -/
theorem isSource_iff_of_growsBy {disk other : Disk} {placesPlace : List String}
    (grows : disk.GrowsBy
      (fun place => place = (disk.resolve project.bookPath).parts ∨ place = placesPlace) other)
    (apart : ∀ file, project.IsSource other scope file →
      (other.resolve project.root).parts ++ file.parts ≠ placesPlace) (file : SourceFile) :
    project.IsSource other scope file ↔ project.IsSource disk scope file := by
  have sameIfOutside (outside : (disk.resolve project.root).parts ++ file.parts ≠ placesPlace)
      (notBook : (disk.resolve project.root).parts ++ file.parts ≠
        (disk.resolve project.bookPath).parts) :=
    grows.otherFiles _ file.source (not_or.mpr ⟨notBook, outside⟩)
  constructor
  · intro isSource
    have outside := apart file isSource
    have notBook := isSource.place_ne_bookPlace
    obtain ⟨isThere, isIncluded, isOther⟩ := isSource
    rw [grows.resolve_eq] at outside notBook isThere
    rw [grows.resolve_eq] at notBook
    rw [grows.current] at isOther
    exact ⟨(sameIfOutside outside notBook).mp isThere, isIncluded, isOther⟩
  · intro isSource
    have notBook := isSource.place_ne_bookPlace
    obtain ⟨isThere, isIncluded, isOther⟩ := isSource
    rw [← grows.current] at isOther
    have outside : (disk.resolve project.root).parts ++ file.parts ≠ placesPlace := by
      intro samePlace
      -- what is at the place now would be a source as well
      have wasFile :
          (disk.fileAt? ((disk.resolve project.root).parts ++ file.parts)).isSome = true :=
        (Disk.isSome_fileAt?_iff disk _).mpr (List.mem_map_of_mem (f := (·.1)) isThere)
      have isFile := (Disk.isSome_fileAt?_iff other _).mp (grows.filesStay _ wasFile)
      obtain ⟨⟨place, source⟩, sourceMem, rfl⟩ := List.mem_map.mp isFile
      refine apart ⟨file.parts, source⟩ ⟨?_, isIncluded, isOther⟩ ?_
      · rw [grows.resolve_eq]
        exact sourceMem
      · rw [grows.resolve_eq]
        exact samePlace
    refine ⟨?_, isIncluded, isOther⟩
    rw [grows.resolve_eq]
    exact (sameIfOutside outside notBook).mpr isThere

end Sources

end Phrasebook.Project
