import Phrasebook.Disk.Basic
import Mathlib.Data.List.Induction

/-!
# Where paths lead

A path that leads anywhere leads to the place that is found without the disk,
by letting every double dot cancel the name before it.  Writing to a path
changes no file elsewhere.
-/

namespace Phrasebook.Disk

open Text (Source)

/-! ## Names -/

/-- A name as paths hold it: not empty, not a single dot, and without slashes. -/
structure IsName (name : String) : Prop where
  present : name ≠ ""
  notDot : name ≠ "."
  noSlash : '/' ∉ name.toList

/-- The names of a path are names. -/
def Path.HasNames (path : Path) : Prop :=
  ∀ part ∈ path.parts, IsName part

section Names

theorem notMem_of_mem_splitOn {separator : Char} {text part : List Char}
    (partMem : part ∈ text.splitOn separator) : separator ∉ part := by
  induction text generalizing part with
  | nil =>
      rw [List.splitOn_nil] at partMem
      rw [List.mem_singleton.mp partMem]
      exact List.not_mem_nil
  | cons character text ih =>
      rw [List.splitOn_cons_eq_if_modifyHead] at partMem
      split at partMem
      · rcases List.mem_cons.mp partMem with rfl | isLater
        · exact List.not_mem_nil
        · exact ih isLater
      · rename_i different
        obtain ⟨first, others, same⟩ :=
          List.exists_cons_of_ne_nil (List.splitOn_ne_nil separator text)
        rw [same, List.modifyHead_cons] at partMem
        rw [same] at ih
        rcases List.mem_cons.mp partMem with rfl | isLater
        · rw [List.mem_cons, not_or]
          refine ⟨fun equal => different ?_, ih List.mem_cons_self⟩
          rw [equal]
          exact beq_self_eq_true _
        · exact ih (List.mem_cons_of_mem _ isLater)

theorem isName_of_mem_partsOf {text : List Char} {part : String}
    (partMem : part ∈ Path.partsOf text) : IsName part := by
  obtain ⟨isPart, hasName⟩ := List.mem_filter.mp partMem
  obtain ⟨characters, charactersMem, rfl⟩ := List.mem_map.mp isPart
  rw [Bool.and_eq_true, bne_iff_ne, bne_iff_ne] at hasName
  refine ⟨hasName.1, hasName.2, ?_⟩
  rw [String.toList_ofList]
  exact notMem_of_mem_splitOn charactersMem

namespace Path

theorem hasNames_ofString (text : String) : (ofString text).HasNames :=
  fun _ => isName_of_mem_partsOf

section HasNames

variable {path other : Path}

theorem HasNames.join (names : path.HasNames) (otherNames : other.HasNames) :
    (path.join other).HasNames := by
  unfold Path.join
  split
  · exact otherNames
  · exact List.forall_mem_append.mpr ⟨names, otherNames⟩

theorem HasNames.parent (names : path.HasNames) : path.parent.HasNames :=
  fun part partMem => names part (List.dropLast_subset _ partMem)

end HasNames

/-- A path that is written down is read again as it was. -/
theorem ofString_written {parts : List String} (names : ∀ part ∈ parts, IsName part) :
    ofString (Path.mk 0 parts).written = ⟨0, parts⟩ := by
  obtain _ | ⟨first, others⟩ := parts
  · decide
  · have isWritten : (Path.mk 0 (first :: others)).written.toList =
        ['/'].intercalate ((first :: others).map String.toList) := by
      simp [written, String.toList_intercalate]
    have isSplit : (['/'].intercalate ((first :: others).map String.toList)).splitOn '/' =
        (first :: others).map String.toList := by
      refine List.splitOn_intercalate '/' (fun part partMem => ?_) (List.cons_ne_nil _ _)
      obtain ⟨name, nameMem, rfl⟩ := List.mem_map.mp partMem
      exact (names name nameMem).noSlash
    have noSlashes : slashesOf (['/'].intercalate ((first :: others).map String.toList)) = 0 := by
      have isFirst := names first List.mem_cons_self
      obtain ⟨rest, same⟩ : ∃ rest, ['/'].intercalate ((first :: others).map String.toList) =
          first.toList ++ rest := by
        obtain _ | ⟨second, others⟩ := others
        · exact ⟨[], by simp⟩
        · exact ⟨_, by rw [List.map_cons, List.map_cons, List.intercalate_cons_cons,
            List.append_assoc]⟩
      obtain ⟨character, characters, isCons⟩ :=
        List.exists_cons_of_ne_nil (mt String.toList_eq_nil_iff.mp isFirst.present)
      have noSlash : character ≠ '/' := by
        rintro rfl
        exact isFirst.noSlash (isCons ▸ List.mem_cons_self)
      rw [same, isCons, List.cons_append]
      simp [slashesOf, noSlash]
    rw [ofString, isWritten, noSlashes, partsOf, isSplit, List.map_map]
    congr 1
    have same : String.ofList ∘ String.toList = id := funext fun _ => String.ofList_toList
    rw [same, List.map_id]
    refine List.filter_eq_self.mpr fun part partMem => ?_
    have isName := names part partMem
    simp [isName.present, isName.notDot]

end Path

end Names

/-! ## Double dots -/

namespace Path

section Cancelled

variable {left right : List String}

/-- Names after others are kept if no double dot is among them. -/
theorem cancelled_append (left : List String) (noDots : ".." ∉ right) :
    cancelled (left ++ right) = cancelled left ++ right := by
  unfold cancelled
  rw [List.foldl_append]
  -- The names are added to what is left of the front, whatever that is.
  generalize List.foldl _ [] left = done
  induction right generalizing done with
  | nil => exact (List.append_nil done).symm
  | cons part right ih =>
      rw [List.mem_cons, not_or] at noDots
      rw [List.foldl_cons, if_neg (by simpa using Ne.symm noDots.1), ih noDots.2]
      simp

theorem cancelled_eq_self {parts : List String} (noDots : ".." ∉ parts) :
    cancelled parts = parts :=
  cancelled_append [] noDots

/-- What is left is among the names, and no double dot is. -/
theorem mem_cancelled {parts : List String} {part : String} (partMem : part ∈ cancelled parts) :
    part ∈ parts ∧ part ≠ ".." := by
  induction parts using List.reverseRecOn with
  | nil => cases partMem
  | append_singleton parts last ih =>
      rw [cancelled, List.foldl_append] at partMem
      change part ∈ (if last == ".." then (cancelled parts).dropLast
        else cancelled parts ++ [last]) at partMem
      split at partMem
      · obtain ⟨isPart, noDots⟩ := ih (List.dropLast_subset _ partMem)
        exact ⟨List.mem_append_left _ isPart, noDots⟩
      · rename_i noDots
        rcases List.mem_append.mp partMem with isEarlier | isLast
        · obtain ⟨isPart, noDots⟩ := ih isEarlier
          exact ⟨List.mem_append_left _ isPart, noDots⟩
        · obtain rfl := List.mem_singleton.mp isLast
          exact ⟨List.mem_append_right _ isLast, by simpa using noDots⟩

end Cancelled

theorem parts_resolved (directory : List String) (path : Path) :
    (path.resolved directory).parts =
      cancelled ((if path.isAbsolute then [] else directory) ++ path.parts) := by
  unfold resolved Path.join
  split <;> rfl

theorem HasNames.resolved {directory : List String} {path : Path} (names : path.HasNames)
    (directoryNames : ∀ name ∈ directory, IsName name) : (path.resolved directory).HasNames := by
  intro part partMem
  rw [parts_resolved] at partMem
  rcases List.mem_append.mp (mem_cancelled partMem).1 with isAbove | isPart
  · split at isAbove
    · cases isAbove
    · exact directoryNames part isAbove
  · exact names part isPart

/-- The names below a path are found below whatever the path leads to. -/
theorem parts_resolved_join (directory : List String) (path : Path) {parts : List String}
    (noDots : ".." ∉ parts) :
    ((path.join ⟨0, parts⟩).resolved directory).parts =
      (path.resolved directory).parts ++ parts := by
  rw [parts_resolved, parts_resolved, ← cancelled_append _ noDots, List.append_assoc]
  rfl

/-- The names that lead to a path below another one follow its names. -/
theorem parts_of_below? {start path : Path} {parts : List String}
    (isBelow : below? start path = some parts) : path.parts = start.parts ++ parts := by
  unfold below? at isBelow
  obtain ⟨inside, rest⟩ := Option.ite_none_right_eq_some.mp isBelow
  obtain ⟨more, whole⟩ := List.isPrefixOf_iff_prefix.mp (Bool.and_eq_true_iff.mp inside).2
  obtain rfl := Option.some.inj rest
  rw [← whole, List.drop_left]

end Path

/-! ## Places -/

section Places

variable {disk : Disk} {path : Path} {place : List String}

theorem walk_eq_ok {here parts : List String} (done : disk.walk here parts = .ok place) :
    place = parts.foldl
      (fun done part => if part == ".." then done.dropLast else done ++ [part]) here := by
  induction parts generalizing here with
  | nil => exact (Except.ok.inj done).symm
  | cons part parts ih =>
      rw [walk] at done
      split at done
      · exact ih done
      · split at done <;> contradiction

/-- A path leads to no other place than the resolved one. -/
theorem placeOf_eq_ok (noDots : ".." ∉ disk.current) (done : disk.placeOf path = .ok place) :
    place = (disk.resolve path).parts := by
  rw [walk_eq_ok done, resolve, Path.parts_resolved]
  split
  · rfl
  · have above := Path.cancelled_eq_self noDots
    unfold Path.cancelled at above ⊢
    rw [List.foldl_append, above]

theorem fileAt?_of_read (noDots : ".." ∉ disk.current) {source : Source}
    (done : disk.read path = .ok source) :
    disk.fileAt? (disk.resolve path).parts = some source := by
  unfold read at done
  split at done
  · contradiction
  · rename_i place isPlace
    split at done
    · rename_i found isFile
      rw [← placeOf_eq_ok noDots isPlace, isFile, Except.ok.inj done]
    · contradiction

end Places

/-! ## Writing -/

section Write

variable {disk : Disk} {path : Path}

theorem makeOne_keeps {made : Disk} (done : disk.makeOne path = .ok made) :
    made.files = disk.files ∧ made.current = disk.current := by
  unfold makeOne at done
  split at done
  · contradiction
  · split_ifs at done
    obtain rfl := Except.ok.inj done
    exact ⟨rfl, rfl⟩

/-- Making directories changes no file. -/
theorem makeDirectory_keeps (fuel : Nat) (path : Path) (disk : Disk) :
    (makeDirectory fuel path disk).2.files = disk.files ∧
      (makeDirectory fuel path disk).2.current = disk.current := by
  induction fuel generalizing path disk with
  | zero => exact ⟨rfl, rfl⟩
  | succ fuel ih =>
      unfold makeDirectory
      split
      · rename_i made isMade
        exact makeOne_keeps isMade
      · split
        · exact ⟨rfl, rfl⟩
        · have above := ih path.parent disk
          split
          · rename_i between isBetween
            rwa [isBetween] at above
          · rename_i between isBetween
            rw [isBetween] at above
            split
            · rename_i made isMade
              obtain ⟨sameFiles, sameCurrent⟩ := makeOne_keeps isMade
              exact ⟨sameFiles.trans above.1, sameCurrent.trans above.2⟩
            · split <;> exact above
      · split <;> exact ⟨rfl, rfl⟩

/-- Writing gives the place of the path a content, or changes no file. -/
theorem write_cases (noDots : ".." ∉ disk.current) (path : Path) (source : Source) :
    (disk.write path source).2.current = disk.current ∧
      ((∃ fault, (disk.write path source).1 = .error fault ∧
          (disk.write path source).2.files = disk.files) ∨
        (disk.write path source).1 = .ok () ∧
          (disk.write path source).2.files =
            putFile (disk.resolve path).parts source disk.files) := by
  obtain ⟨sameFiles, sameCurrent⟩ :=
    makeDirectory_keeps (path.parent.parts.length + 1) path.parent disk
  unfold write ensureDirectory
  generalize makeDirectory _ path.parent disk = made at sameFiles sameCurrent ⊢
  obtain ⟨outcome, made⟩ := made
  dsimp only at sameFiles sameCurrent ⊢
  cases outcome with
  | error fault => exact ⟨sameCurrent, .inl ⟨fault, rfl, sameFiles⟩⟩
  | ok _ =>
      dsimp only
      split
      · exact ⟨sameCurrent, .inl ⟨_, rfl, sameFiles⟩⟩
      · split
        · exact ⟨sameCurrent, .inl ⟨_, rfl, sameFiles⟩⟩
        · rename_i place isPlace
          split
          · exact ⟨sameCurrent, .inl ⟨_, rfl, sameFiles⟩⟩
          · refine ⟨sameCurrent, .inr ⟨rfl, ?_⟩⟩
            rw [placeOf_eq_ok (sameCurrent ▸ noDots) isPlace, resolve, sameCurrent, ← sameFiles]
            rfl

theorem fileAt?_putFile {place other : List String} {source : Source}
    {files : List (List String × Source)} :
    ((putFile place source files).find? fun file => file.1 == other).map (·.2) =
      if place = other then some source
      else (files.find? fun file => file.1 == other).map (·.2) := by
  induction files with
  | nil =>
      by_cases same : place = other
      · simp [putFile, same]
      · simp [putFile, same]
  | cons file files ih =>
      rw [putFile]
      by_cases isFirst : file.1 = place
      · rw [if_pos (by simpa using isFirst)]
        by_cases same : place = other
        · simp [same]
        · rw [if_neg same]
          have otherFirst : file.1 ≠ other := isFirst ▸ same
          simp [same, otherFirst]
      · rw [if_neg (by simpa using isFirst)]
        by_cases otherFirst : file.1 = other
        · have different : place ≠ other := fun same => isFirst (otherFirst.trans same.symm)
          simp [otherFirst, different]
        · rw [List.find?_cons_of_neg (by simpa using otherFirst), ih,
            List.find?_cons_of_neg (by simpa using otherFirst)]

/-- What was written is there, and every other file is as it was. -/
theorem fileAt?_write (noDots : ".." ∉ disk.current) {source : Source}
    (done : (disk.write path source).1 = .ok ()) (place : List String) :
    (disk.write path source).2.fileAt? place =
      if (disk.resolve path).parts = place then some source else disk.fileAt? place := by
  obtain ⟨_, ⟨fault, failed, _⟩ | ⟨_, files⟩⟩ := write_cases noDots path source
  · rw [done] at failed
    contradiction
  · rw [fileAt?, files, fileAt?_putFile]
    rfl

/-- Every file except the one that is written is as it was, whether this succeeds or not. -/
theorem fileAt?_write_of_ne (noDots : ".." ∉ disk.current) (source : Source) {place : List String}
    (different : (disk.resolve path).parts ≠ place) :
    (disk.write path source).2.fileAt? place = disk.fileAt? place := by
  obtain ⟨_, ⟨_, _, files⟩ | ⟨_, files⟩⟩ := write_cases noDots path source
  · rw [fileAt?, files]
    rfl
  · rw [fileAt?, files, fileAt?_putFile, if_neg different]
    rfl

end Write

end Phrasebook.Disk
