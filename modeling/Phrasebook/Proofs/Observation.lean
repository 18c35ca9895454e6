import Phrasebook.Project.Observation
import Phrasebook.Proofs.Extraction
import Mathlib.Data.List.Nodup

/-!
# What is observed

The phrases of sources are collected by path.  The same sources have the same
marked elements under every version of the normal form, at the same places, so
what is observed under two versions goes together phrase by phrase.
-/

namespace Phrasebook.Book

open Phrase (Origin Refusal)

/-! ## Observations by path -/

section ByPath

/-- Put the phrases of a file in the place of those that were found under its path before. -/
def setFile (observed : Observed) (file : String × List Phrase) : Observed :=
  if (observed.map (·.1)).contains file.1 then
    observed.map fun other => if other.1 = file.1 then file else other
  else observed ++ [file]

/-- The phrases under every path; of files with one path the last counts. -/
def byPath (files : Observed) : Observed :=
  files.foldl setFile []

/-- The phrases of a source with its path. -/
def fileOf (tag : String) (version : Int) (origin : Origin) :
    Except Refusal (String × List Phrase) :=
  (origin.phrases tag version).map (origin.path, ·)

/-- What is observed in sources under a version of the normal form. -/
def collected (tag : String) (version : Int) (origins : List Origin) :
    Except Refusal Observed :=
  (origins.mapM (fileOf tag version)).map byPath

theorem map_path_setFile (observed : Observed) (file : String × List Phrase) :
    (setFile observed file).map (·.1) =
      if file.1 ∈ observed.map (·.1) then observed.map (·.1)
      else observed.map (·.1) ++ [file.1] := by
  unfold setFile
  by_cases isThere : file.1 ∈ observed.map (·.1)
  · rw [if_pos (List.contains_iff_mem.mpr isThere), if_pos isThere, List.map_map]
    refine List.map_congr_left fun other _ => ?_
    by_cases same : other.1 = file.1 <;> simp [same]
  · rw [if_neg (mt List.contains_iff_mem.mp isThere), if_neg isThere, List.map_append]
    rfl

theorem nodup_path_foldl_setFile {observed files : Observed}
    (distinct : (observed.map (·.1)).Nodup) : ((files.foldl setFile observed).map (·.1)).Nodup := by
  induction files generalizing observed with
  | nil => exact distinct
  | cons file files ih =>
      refine ih ?_
      rw [map_path_setFile]
      split
      · exact distinct
      · rename_i isNew
        rw [List.nodup_append_comm]
        exact List.nodup_cons.mpr ⟨isNew, distinct⟩

theorem mem_of_mem_setFile {observed : Observed} {file other : String × List Phrase}
    (otherMem : other ∈ setFile observed file) : other ∈ observed ∨ other = file := by
  unfold setFile at otherMem
  split at otherMem
  · obtain ⟨former, formerMem, rfl⟩ := List.mem_map.mp otherMem
    split
    · exact .inr rfl
    · exact .inl formerMem
  · exact (List.mem_append.mp otherMem).imp_right List.mem_singleton.mp

theorem mem_of_mem_foldl_setFile {observed files : Observed} {file : String × List Phrase}
    (fileMem : file ∈ files.foldl setFile observed) : file ∈ observed ∨ file ∈ files := by
  induction files generalizing observed with
  | nil => exact .inl fileMem
  | cons first files ih =>
      rcases ih fileMem with atFirst | isLater
      · rcases mem_of_mem_setFile atFirst with isThere | rfl
        · exact .inl isThere
        · exact .inr List.mem_cons_self
      · exact .inr (List.mem_cons_of_mem first isLater)

theorem nodup_path_byPath (files : Observed) : ((byPath files).map (·.1)).Nodup :=
  nodup_path_foldl_setFile List.nodup_nil

end ByPath

/-! ## The same sources under two versions -/

/-- Files with one path whose phrases are at the same lines. -/
def IsSameFile (left right : String × List Phrase) : Prop :=
  left.1 = right.1 ∧ List.Forall₂ (fun one other => one.place.line = other.place.line) left.2 right.2

section SameFiles

theorem IsSameFile.setFile {before after : Observed} {old new : String × List Phrase}
    (sameFile : IsSameFile old new) (same : List.Forall₂ IsSameFile before after) :
    List.Forall₂ IsSameFile (setFile before old) (setFile after new) := by
  have samePaths : before.map (·.1) = after.map (·.1) :=
    map_eq_map_of_forall₂ (same.imp fun _ _ => And.left)
  unfold Book.setFile
  rw [samePaths, sameFile.1]
  split
  · rw [List.forall₂_map_left_iff, List.forall₂_map_right_iff]
    refine same.imp fun left right both => ?_
    rw [both.1]
    split
    · exact sameFile
    · exact both
  · exact List.rel_append same (.cons sameFile .nil)

theorem isSameFile_foldl_setFile {before after olds news : Observed}
    (same : List.Forall₂ IsSameFile before after) (sameFiles : List.Forall₂ IsSameFile olds news) :
    List.Forall₂ IsSameFile (olds.foldl setFile before) (news.foldl setFile after) := by
  induction sameFiles generalizing before after with
  | nil => exact same
  | cons sameFile _ ih => exact ih (sameFile.setFile same)

/-- One source has the same phrases under all versions that it can be read under, up to what
the normal form says of them. -/
theorem isSameFile_of_fileOf {tag : String} {old new : Int} {origin : Origin}
    {before after : String × List Phrase} (oldDone : fileOf tag old origin = .ok before)
    (newDone : fileOf tag new origin = .ok after) : IsSameFile before after := by
  obtain ⟨olds, oldPhrases, rfl⟩ := map_eq_ok_iff.mp oldDone
  obtain ⟨news, newPhrases, rfl⟩ := map_eq_ok_iff.mp newDone
  obtain ⟨script, isScript, oldPhrases⟩ := bind_eq_ok_iff.mp oldPhrases
  obtain ⟨again, isAgain, newPhrases⟩ := bind_eq_ok_iff.mp newPhrases
  obtain rfl : script = again := Except.ok.inj (isScript.symm.trans isAgain)
  refine ⟨rfl, ?_⟩
  refine forall₂_of_common (fun element one other isOne isOther => ?_)
    (Phrase.forall₂_isPhraseOf oldPhrases) (Phrase.forall₂_isPhraseOf newPhrases)
  rw [isOne.place, isOther.place]

theorem isSameFile_of_collected {tag : String} {old new : Int} {origins : List Origin}
    {before after : Observed} (oldDone : collected tag old origins = .ok before)
    (newDone : collected tag new origins = .ok after) :
    List.Forall₂ IsSameFile before after := by
  obtain ⟨olds, oldFiles, rfl⟩ := map_eq_ok_iff.mp oldDone
  obtain ⟨news, newFiles, rfl⟩ := map_eq_ok_iff.mp newDone
  refine isSameFile_foldl_setFile .nil
    (forall₂_of_common ?_ (mapM_eq_ok_iff.mp oldFiles) (mapM_eq_ok_iff.mp newFiles))
  exact fun _ _ _ => isSameFile_of_fileOf

theorem nodup_path_of_collected {tag : String} {version : Int} {origins : List Origin}
    {observed : Observed} (done : collected tag version origins = .ok observed) :
    (observed.map (·.1)).Nodup := by
  obtain ⟨files, _, rfl⟩ := map_eq_ok_iff.mp done
  exact nodup_path_byPath files

end SameFiles

/-! ## What a project observes -/

section Command

open Project (Command Session)

variable {α β : Type} {session last : Session}

theorem run_bind_eq_ok_iff {command : Command α} {next : α → Command β} {result : β} :
    (command >>= next).run.run session = (.ok result, last) ↔
      ∃ value between, command.run.run session = (.ok value, between) ∧
        (next value).run.run between = (.ok result, last) := by
  rw [ExceptT.run_bind, StateT.run_bind]
  obtain ⟨outcome, between⟩ := command.run.run session
  cases outcome with
  | error fault =>
      constructor
      · intro done
        cases done
      · rintro ⟨_, _, done, _⟩
        cases done
  | ok value =>
      constructor
      · exact fun done => ⟨value, between, rfl, done⟩
      · rintro ⟨_, _, first, done⟩
        cases first
        exact done

/-- A command for every value succeeds only if it does so for each of them. -/
theorem run_mapM_eq_ok {command : α → Command β} {values : List α} {results : List β}
    (done : (values.mapM command).run.run session = (.ok results, last)) :
    List.Forall₂ (fun value result => ∃ before after,
      (command value).run.run before = (.ok result, after)) values results := by
  induction values generalizing session results with
  | nil =>
      cases done
      exact .nil
  | cons value values ih =>
      rw [List.mapM_cons] at done
      obtain ⟨result, between, first, done⟩ := run_bind_eq_ok_iff.mp done
      obtain ⟨others, _, rest, done⟩ := run_bind_eq_ok_iff.mp done
      cases done
      exact .cons ⟨session, between, first⟩ (ih rest)

theorem run_orFail_eq_ok {ε : Type} {failure : ε → Project.Failure} {outcome : Except ε α}
    {result : α} (done : (Command.orFail failure outcome).run.run session = (.ok result, last)) :
    outcome = .ok result := by
  cases outcome with
  | error fault => cases done
  | ok value =>
      cases done
      rfl

/-- What is observed in source files is found in each of them. -/
def IsObservedIn (tag : String) (version : Int) (files : List Scan.SourceFile)
    (observed : Observed) : Prop :=
  List.Forall₂ (fun file found => fileOf tag version ⟨file.path, file.source⟩ = .ok found)
    files observed

theorem isObservedIn_of_observe {project : Project} {files : List Scan.SourceFile} {version : Int}
    {observed : Observed}
    (done : (project.observe files version).run.run session = (.ok observed, last)) :
    IsObservedIn project.settings.tag version files observed := by
  obtain ⟨found, _, each, done⟩ := run_bind_eq_ok_iff.mp done
  obtain ⟨_, _, _, done⟩ := run_bind_eq_ok_iff.mp done
  cases done
  refine (run_mapM_eq_ok each).imp fun file result ⟨_, _, done⟩ => ?_
  obtain ⟨phrases, _, extracted, done⟩ := run_bind_eq_ok_iff.mp done
  cases done
  obtain ⟨found, _, isFound, done⟩ := run_bind_eq_ok_iff.mp extracted
  obtain ⟨_, _, _, done⟩ := run_bind_eq_ok_iff.mp done
  cases done
  exact map_eq_ok_iff.mpr ⟨phrases, run_orFail_eq_ok isFound, rfl⟩

end Command

end Phrasebook.Book
