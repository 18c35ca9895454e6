import Phrasebook.Disk.Basic
import Phrasebook.Proofs.Outcome

/-!
# Writing files

Whether a file can be written depends on where files and directories are, but
not on what the files hold.  So a file whose content is replaced leaves every
other file as writable as it was.
-/

namespace Phrasebook.Disk

open Text (Source)

/-- Disks with the same directories and with files at the same places. -/
structure SameShape (disk other : Disk) : Prop where
  directories : disk.directories = other.directories
  current : disk.current = other.current
  files : ∀ place, (disk.fileAt? place).isSome = (other.fileAt? place).isSome

theorem SameShape.refl (disk : Disk) : SameShape disk disk :=
  ⟨rfl, rfl, fun _ => rfl⟩

/-- A file can be written, whatever it is to hold. -/
def CanWrite (disk : Disk) (path : Path) : Prop :=
  ∀ source, (disk.write path source).1 = .ok ()

/-! ## Finding places -/

section Places

variable {disk other : Disk}

theorem SameShape.hasDirectory_eq (same : SameShape disk other) (place : List String) :
    disk.hasDirectory place = other.hasDirectory place := by
  unfold hasDirectory
  rw [same.directories]

theorem SameShape.walk_eq (same : SameShape disk other) (here parts : List String) :
    disk.walk here parts = other.walk here parts := by
  induction parts generalizing here with
  | nil => rfl
  | cons part parts ih => simp only [walk, same.hasDirectory_eq here, same.files here, ih]

theorem SameShape.placeOf_eq (same : SameShape disk other) (path : Path) :
    disk.placeOf path = other.placeOf path := by
  unfold placeOf
  rw [same.current, same.walk_eq]

theorem SameShape.isDirectory_eq (same : SameShape disk other) (path : Path) :
    disk.isDirectory path = other.isDirectory path := by
  simp only [isDirectory, same.placeOf_eq path, same.hasDirectory_eq]

/-- To go on along more names is to go along all of them. -/
theorem walk_append_eq_ok {here there : List String} {parts more : List String}
    (reached : disk.walk here (parts ++ more) = .ok there) :
    ∃ between, disk.walk here parts = .ok between ∧ disk.walk between more = .ok there := by
  induction parts generalizing here with
  | nil => exact ⟨here, rfl, reached⟩
  | cons part parts ih =>
      rw [List.cons_append, walk] at reached
      rw [walk]
      split at reached
      · rename_i isDirectory
        rw [if_pos isDirectory]
        exact ih reached
      · split at reached <;> contradiction

/-- The place of a path with a name lies in a directory. -/
theorem hasDirectory_parent {path : Path} {place : List String} (named : path.parts ≠ [])
    (isPlace : disk.placeOf path = .ok place) :
    ∃ parent, disk.placeOf path.parent = .ok parent ∧ disk.hasDirectory parent = true := by
  unfold placeOf at isPlace
  -- the last step of the walk starts at the place of the parent
  rw [← List.dropLast_append_getLast named] at isPlace
  obtain ⟨parent, isParent, last⟩ := walk_append_eq_ok isPlace
  refine ⟨parent, isParent, ?_⟩
  by_contra notDirectory
  rw [walk, if_neg notDirectory] at last
  split at last <;> contradiction

end Places

/-! ## Making directories -/

section Directories

variable {disk other : Disk}

/-- The same outcome on disks of the same shape. -/
def SameEnd (left right : Except Fault Unit × Disk) : Prop :=
  left.1 = right.1 ∧ SameShape left.2 right.2

theorem SameShape.makeOne (same : SameShape disk other) (path : Path) :
    (∃ kind, disk.makeOne path = .error kind ∧ other.makeOne path = .error kind) ∨
      ∃ made otherMade, disk.makeOne path = .ok made ∧ other.makeOne path = .ok otherMade ∧
        SameShape made otherMade := by
  unfold Disk.makeOne
  rw [← same.placeOf_eq path]
  cases disk.placeOf path with
  | error kind => exact .inl ⟨kind, rfl, rfl⟩
  | ok place =>
      dsimp only
      rw [← same.hasDirectory_eq place, ← same.hasDirectory_eq place.dropLast, ← same.files place]
      split
      · exact .inl ⟨_, rfl, rfl⟩
      · split
        · refine .inr ⟨_, _, rfl, rfl, ?_, same.current, same.files⟩
          rw [same.directories]
        · exact .inl ⟨_, rfl, rfl⟩

/-- Something that is in the way is no fault if it is a directory. -/
theorem SameShape.settled (same : SameShape disk other) (path : Path) (fault : Fault) :
    SameEnd (if disk.isDirectory path then (.ok (), disk) else (.error fault, disk))
      (if other.isDirectory path then (.ok (), other) else (.error fault, other)) := by
  rw [← same.isDirectory_eq path]
  split <;> exact ⟨rfl, same⟩

theorem SameShape.makeDirectory (same : SameShape disk other) (fuel : Nat) (path : Path) :
    SameEnd (makeDirectory fuel path disk) (makeDirectory fuel path other) := by
  induction fuel generalizing path disk other with
  | zero => exact ⟨rfl, same⟩
  | succ fuel ih =>
      unfold Disk.makeDirectory
      rcases same.makeOne path with
        ⟨kind, isError, otherError⟩ | ⟨_, _, isMade, otherMade, sameMade⟩
      · rw [isError, otherError]
        cases kind with
        | occupied | notDirectory | isDirectory | busy => exact same.settled path _
        | missing =>
            dsimp only
            split
            · exact ⟨rfl, same⟩
            · -- the directory above is made first, and then this one is tried again
              have sameAbove := ih same path.parent
              generalize Disk.makeDirectory fuel path.parent disk = left at sameAbove ⊢
              generalize Disk.makeDirectory fuel path.parent other = right at sameAbove ⊢
              obtain ⟨outcome, above⟩ := left
              obtain ⟨_, otherAbove⟩ := right
              obtain ⟨rfl, sameAbove⟩ := sameAbove
              cases outcome with
              | error fault => exact ⟨rfl, sameAbove⟩
              | ok _ =>
                  rcases sameAbove.makeOne path with
                    ⟨kind, isError, otherError⟩ | ⟨_, _, isMade, otherMade, sameMade⟩
                  · dsimp only at isError otherError ⊢
                    rw [isError, otherError, ← sameAbove.isDirectory_eq path]
                    dsimp only
                    split <;> exact ⟨rfl, sameAbove⟩
                  · dsimp only at isMade otherMade ⊢
                    rw [isMade, otherMade]
                    exact ⟨rfl, sameMade⟩
      · rw [isMade, otherMade]
        exact ⟨rfl, sameMade⟩

/-- A directory that is there is not made again. -/
theorem ensureDirectory_eq_self {path : Path} {place : List String}
    (isPlace : disk.placeOf path = .ok place) (isDirectory : disk.hasDirectory place = true) :
    disk.ensureDirectory path = (.ok (), disk) := by
  have occupied : disk.makeOne path = .error .occupied := by
    unfold Disk.makeOne
    rw [isPlace]
    dsimp only
    rw [isDirectory]
    rfl
  have isThere : disk.isDirectory path = true := by
    unfold Disk.isDirectory
    rw [isPlace]
    exact isDirectory
  rw [ensureDirectory, Disk.makeDirectory, occupied]
  exact if_pos isThere

end Directories

/-! ## Writing -/

section Write

variable {disk other : Disk} {path : Path}

/-- Whether a file can be written depends on the shape of the disk alone. -/
theorem SameShape.write_outcome (same : SameShape disk other) (path : Path)
    (source otherSource : Source) :
    (disk.write path source).1 = (other.write path otherSource).1 := by
  have sameAbove := same.makeDirectory (path.parent.parts.length + 1) path.parent
  unfold Disk.write ensureDirectory
  generalize Disk.makeDirectory _ path.parent disk = left at sameAbove ⊢
  generalize Disk.makeDirectory _ path.parent other = right at sameAbove ⊢
  obtain ⟨outcome, above⟩ := left
  obtain ⟨_, otherAbove⟩ := right
  obtain ⟨rfl, sameAbove⟩ := sameAbove
  cases outcome with
  | error fault => rfl
  | ok _ =>
      dsimp only at sameAbove ⊢
      split
      · rfl
      · rw [← sameAbove.placeOf_eq path]
        cases above.placeOf path with
        | error kind => rfl
        | ok place =>
            dsimp only
            rw [← sameAbove.hasDirectory_eq place]
            split <;> rfl

/-- A file can be written if some content can be. -/
theorem canWrite_of_write {source : Source} (done : (disk.write path source).1 = .ok ()) :
    CanWrite disk path := by
  intro otherSource
  rw [← (SameShape.refl disk).write_outcome path source otherSource]
  exact done

instance (disk : Disk) (path : Path) : Decidable (CanWrite disk path) :=
  decidable_of_iff ((disk.write path default).1.toOption = some ())
    ⟨fun done => canWrite_of_write (toOption_eq_some_iff.mp done),
      fun canWrite => toOption_eq_some_iff.mpr (canWrite default)⟩

/-- A file that is replaced stays where it was among the files. -/
theorem map_place_putFile {place : List String} {files : List (List String × Source)}
    (isFile : place ∈ files.map (·.1)) (source : Source) :
    (putFile place source files).map (·.1) = files.map (·.1) := by
  induction files with
  | nil => contradiction
  | cons file files ih =>
      rw [putFile]
      by_cases isFirst : file.1 = place
      · rw [if_pos (by simpa using isFirst), List.map_cons, List.map_cons, isFirst]
      · rw [if_neg (by simpa using isFirst), List.map_cons, List.map_cons]
        have isLater : place ∈ files.map (·.1) := by
          simpa [Ne.symm isFirst] using isFile
        rw [ih isLater]

theorem isSome_fileAt?_iff (disk : Disk) (place : List String) :
    (disk.fileAt? place).isSome = true ↔ place ∈ disk.files.map (·.1) := by
  simp [fileAt?]

/-- To replace a file is to change no more than its content. -/
theorem sameShape_write {source : Source} (isRead : disk.read path = .ok source)
    (canWrite : CanWrite disk path) (text : Source) :
    SameShape disk (disk.write path text).2 := by
  have done := canWrite text
  unfold Disk.read at isRead
  cases isPlace : disk.placeOf path with
  | error kind =>
      rw [isPlace] at isRead
      contradiction
  | ok place =>
      rw [isPlace] at isRead
      have isFile : place ∈ disk.files.map (·.1) := by
        rw [← isSome_fileAt?_iff]
        cases found : disk.fileAt? place with
        | none => simp [found] at isRead
        | some _ => rfl
      unfold Disk.write at done ⊢
      by_cases named : path.parts = []
      · have noName : (path.name == "" || path.name == "..") = true := by
          simp [Path.name, named]
        split at done
        · contradiction
        · rw [if_pos noName] at done
          contradiction
      · obtain ⟨parent, isParent, isDirectory⟩ := hasDirectory_parent named isPlace
        rw [ensureDirectory_eq_self isParent isDirectory] at done ⊢
        dsimp only at done ⊢
        split at done
        · contradiction
        · rename_i hasName
          rw [if_neg hasName, isPlace]
          dsimp only
          split
          · exact SameShape.refl disk
          · refine ⟨rfl, rfl, fun other => Bool.eq_iff_iff.mpr ?_⟩
            rw [isSome_fileAt?_iff, isSome_fileAt?_iff, map_place_putFile isFile]

end Write

end Phrasebook.Disk
