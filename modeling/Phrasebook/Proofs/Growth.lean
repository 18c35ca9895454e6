import Phrasebook.Proofs.Places
import Phrasebook.Proofs.Writing

/-!
# Growing disks

A write makes directories where nothing was, and it gives one file its
content.  Whatever a path led to before, it leads to afterwards, and what was
written can be read and written again.
-/

namespace Phrasebook.Disk

open Text (Source)

/-- A disk that has directories where nothing was before, and whose files differ at some places
only. -/
structure GrowsBy (places : List String → Prop) (disk other : Disk) : Prop where
  current : other.current = disk.current
  directories : ∀ place, disk.hasDirectory place = true → other.hasDirectory place = true
  newDirectories : ∀ place, other.hasDirectory place = true →
    disk.hasDirectory place = true ∨ (disk.fileAt? place).isSome = false
  filesStay : ∀ place, (disk.fileAt? place).isSome = true → (other.fileAt? place).isSome = true
  otherFiles : ∀ place source, ¬places place →
    ((place, source) ∈ other.files ↔ (place, source) ∈ disk.files)

section GrowsBy

variable {places : List String → Prop} {disk between other : Disk}

theorem GrowsBy.refl (places : List String → Prop) (disk : Disk) : GrowsBy places disk disk where
  current := rfl
  directories _ isDirectory := isDirectory
  newDirectories _ isDirectory := .inl isDirectory
  filesStay _ isFile := isFile
  otherFiles _ _ _ := Iff.rfl

theorem GrowsBy.trans (first : GrowsBy places disk between)
    (second : GrowsBy places between other) : GrowsBy places disk other where
  current := second.current.trans first.current
  directories place isDirectory := second.directories place (first.directories place isDirectory)
  newDirectories place isDirectory := by
    rcases second.newDirectories place isDirectory with isOlder | noFile
    · exact first.newDirectories place isOlder
    · refine .inr (Bool.eq_false_iff.mpr fun isFile => ?_)
      rw [first.filesStay place isFile] at noFile
      contradiction
  filesStay place isFile := second.filesStay place (first.filesStay place isFile)
  otherFiles place source outside :=
    (second.otherFiles place source outside).trans (first.otherFiles place source outside)

theorem GrowsBy.mono {more : List String → Prop} (grows : GrowsBy places disk other)
    (implies : ∀ place, places place → more place) : GrowsBy more disk other where
  current := grows.current
  directories := grows.directories
  newDirectories := grows.newDirectories
  filesStay := grows.filesStay
  otherFiles place source outside := grows.otherFiles place source (mt (implies place) outside)

theorem GrowsBy.resolve_eq (grows : GrowsBy places disk other) (path : Path) :
    other.resolve path = disk.resolve path := by
  rw [resolve, resolve, grows.current]

theorem GrowsBy.walk (grows : GrowsBy places disk other) {here there : List String}
    {parts : List String} (reached : disk.walk here parts = .ok there) :
    other.walk here parts = .ok there := by
  induction parts generalizing here with
  | nil => exact reached
  | cons part parts ih =>
      rw [Disk.walk] at reached ⊢
      split at reached
      · rename_i isDirectory
        rw [if_pos (grows.directories here isDirectory)]
        exact ih reached
      · split at reached <;> contradiction

theorem GrowsBy.placeOf (grows : GrowsBy places disk other) {path : Path} {place : List String}
    (isPlace : disk.placeOf path = .ok place) : other.placeOf path = .ok place := by
  unfold Disk.placeOf at isPlace ⊢
  rw [grows.current]
  exact grows.walk isPlace

theorem GrowsBy.isDirectory (grows : GrowsBy places disk other) {path : Path}
    (isThere : disk.isDirectory path = true) : other.isDirectory path = true := by
  unfold Disk.isDirectory at isThere ⊢
  split at isThere
  · rename_i place isPlace
    rw [grows.placeOf isPlace]
    exact grows.directories place isThere
  · contradiction

theorem GrowsBy.isFile (grows : GrowsBy places disk other) {path : Path}
    (isThere : disk.isFile path = true) : other.isFile path = true := by
  unfold Disk.isFile at isThere ⊢
  split at isThere
  · rename_i place isPlace
    rw [grows.placeOf isPlace]
    exact grows.filesStay place isThere
  · contradiction

theorem GrowsBy.exists? (grows : GrowsBy places disk other) {path : Path}
    (isThere : disk.exists? path = true) : other.exists? path = true := by
  unfold Disk.exists? at isThere ⊢
  rw [Bool.or_eq_true] at isThere ⊢
  exact isThere.imp grows.isFile grows.isDirectory

/-- A path that is there leads to a directory if it did before. -/
theorem GrowsBy.isDirectory_eq (grows : GrowsBy places disk other) {path : Path}
    (isThere : disk.exists? path = true) : other.isDirectory path = disk.isDirectory path := by
  cases isDirectory : disk.isDirectory path with
  | true => exact grows.isDirectory isDirectory
  | false =>
      rw [Disk.exists?, isDirectory, Bool.or_false] at isThere
      unfold Disk.isFile at isThere
      unfold Disk.isDirectory at isDirectory ⊢
      split at isThere
      · rename_i place isPlace
        rw [isPlace] at isDirectory
        rw [grows.placeOf isPlace]
        refine Bool.eq_false_iff.mpr fun isNew => ?_
        rcases grows.newDirectories place isNew with wasDirectory | noFile
        · exact Bool.eq_false_iff.mp isDirectory wasDirectory
        · exact Bool.eq_false_iff.mp noFile isThere
      · contradiction

end GrowsBy

/-! ## Growth by writing -/

section Write

variable {places : List String → Prop} {disk : Disk} {path : Path}

theorem growsBy_makeOne {made : Disk} (done : disk.makeOne path = .ok made) :
    GrowsBy places disk made := by
  unfold makeOne at done
  split at done
  · contradiction
  · rename_i place _
    split at done
    · contradiction
    · rename_i isFree
      split at done
      · obtain rfl := Except.ok.inj done
        rw [Bool.or_eq_true, not_or] at isFree
        refine ⟨rfl, fun other isDirectory => ?_, fun other isDirectory => ?_,
          fun _ isFile => isFile, fun _ _ _ => Iff.rfl⟩
        · unfold hasDirectory at isDirectory ⊢
          rw [Bool.or_eq_true] at isDirectory ⊢
          refine isDirectory.imp_right fun isOlder => ?_
          rw [List.contains_iff_mem] at isOlder ⊢
          exact List.mem_append_left _ isOlder
        · unfold hasDirectory at isDirectory ⊢
          rw [Bool.or_eq_true, List.contains_iff_mem, List.mem_append] at isDirectory
          rcases isDirectory with isRoot | isOlder | isNew
          · exact .inl (by simp [isRoot])
          · exact .inl (by simp [isOlder])
          · rw [List.mem_singleton.mp isNew]
            exact .inr (Bool.eq_false_iff.mpr isFree.2)
      · contradiction

theorem growsBy_makeDirectory (fuel : Nat) (path : Path) (disk : Disk) :
    GrowsBy places disk (makeDirectory fuel path disk).2 := by
  induction fuel generalizing path disk with
  | zero => exact .refl places disk
  | succ fuel ih =>
      unfold makeDirectory
      split
      · rename_i made isMade
        exact growsBy_makeOne isMade
      · split
        · exact .refl places disk
        · have above := ih path.parent disk
          split
          · rename_i between isBetween
            rwa [isBetween] at above
          · rename_i between isBetween
            rw [isBetween] at above
            split
            · rename_i made isMade
              exact above.trans (growsBy_makeOne isMade)
            · split <;> exact above
      · split <;> exact .refl places disk

theorem mem_putFile_of_ne {place other : List String} {source content : Source}
    {files : List (List String × Source)} (different : other ≠ place) :
    (other, content) ∈ putFile place source files ↔ (other, content) ∈ files := by
  induction files with
  | nil => simp [putFile, different]
  | cons file files ih =>
      rw [putFile]
      split
      · rename_i isFirst
        have notFirst : (other, content) ≠ file := by
          rintro rfl
          exact different (beq_iff_eq.mp isFirst)
        simp [different, notFirst]
      · rw [List.mem_cons, List.mem_cons, ih]

theorem growsBy_putFile (place : List String) (source : Source) (disk : Disk) :
    GrowsBy (· = place) disk { disk with files := putFile place source disk.files } where
  current := rfl
  directories _ isDirectory := isDirectory
  newDirectories _ isDirectory := .inl isDirectory
  filesStay other isFile := by
    unfold fileAt? at isFile ⊢
    rw [fileAt?_putFile]
    split
    · rfl
    · exact isFile
  otherFiles _ _ outside := mem_putFile_of_ne outside

/-- A write has made the directories above, and then has put the file in its place. -/
theorem write_eq_ok {source : Source} (done : (disk.write path source).1 = .ok ()) :
    ∃ above place, disk.ensureDirectory path.parent = (.ok (), above) ∧
      (path.name == "" || path.name == "..") = false ∧ above.placeOf path = .ok place ∧
      above.hasDirectory place = false ∧
      (disk.write path source).2 = { above with files := putFile place source above.files } := by
  unfold write at done ⊢
  split at done
  · contradiction
  · rename_i above isAbove
    split at done
    · contradiction
    · rename_i isNamed
      split at done
      · contradiction
      · rename_i place isPlace
        split at done
        · contradiction
        · rename_i notDirectory
          refine ⟨above, place, isAbove, Bool.eq_false_iff.mpr isNamed, isPlace,
            Bool.eq_false_iff.mpr notDirectory, ?_⟩
          rw [if_neg isNamed, if_neg notDirectory]

theorem growsBy_write (noDots : ".." ∉ disk.current) {source : Source}
    (done : (disk.write path source).1 = .ok ()) :
    GrowsBy (· = (disk.resolve path).parts) disk (disk.write path source).2 := by
  obtain ⟨above, place, isAbove, _, isPlace, _, isWritten⟩ := write_eq_ok done
  have first : GrowsBy (· = (disk.resolve path).parts) disk
      (makeDirectory (path.parent.parts.length + 1) path.parent disk).2 :=
    growsBy_makeDirectory _ path.parent disk
  unfold ensureDirectory at isAbove
  rw [isAbove] at first
  have isResolved : place = (disk.resolve path).parts := by
    rw [placeOf_eq_ok (first.current ▸ noDots) isPlace, resolve, resolve, first.current]
  rw [isWritten, ← isResolved]
  exact (isResolved ▸ first).trans (growsBy_putFile place source above)

theorem read_write {source : Source} (done : (disk.write path source).1 = .ok ()) :
    (disk.write path source).2.read path = .ok source := by
  obtain ⟨above, place, _, _, isPlace, _, isWritten⟩ := write_eq_ok done
  rw [isWritten]
  have isFile : { above with files := putFile place source above.files }.fileAt? place =
      some source := by
    rw [fileAt?, fileAt?_putFile, if_pos rfl]
  unfold read
  rw [(growsBy_putFile place source above).placeOf isPlace]
  dsimp only
  rw [isFile]

/-- A file that was written can be written again. -/
theorem canWrite_write {source : Source} (done : (disk.write path source).1 = .ok ()) :
    (disk.write path source).2.CanWrite path := by
  obtain ⟨above, place, _, isNamed, isPlace, notDirectory, isWritten⟩ := write_eq_ok done
  have hasParts : path.parts ≠ [] := by
    intro isEmpty
    simp [Path.name, isEmpty] at isNamed
  obtain ⟨parent, isParent, isDirectory⟩ := hasDirectory_parent hasParts isPlace
  have grows := growsBy_putFile place source above
  rw [isWritten]
  intro other
  unfold write
  rw [ensureDirectory_eq_self (grows.placeOf isParent) (grows.directories parent isDirectory)]
  dsimp only
  rw [isNamed, grows.placeOf isPlace]
  change (if above.hasDirectory place = true then _ else _ : Except Fault Unit × Disk).1 = _
  rw [notDirectory]
  rfl

end Write

end Phrasebook.Disk
