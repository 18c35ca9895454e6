import Phrasebook.Scan.Basic
import Mathlib.Data.List.Nodup

/-!
# What a walk finds

A scan walks down from its starts, without entering the directories that are
left out.  It finds just the files that are accepted and lie below a start
with only directories between that may be entered.
-/

namespace Phrasebook.Scan

open Text (Source)

namespace Options

/-- The directories that lie between a start and a file. -/
def between (start parts : List String) : List (List String) :=
  (List.range (parts.length - start.length - 1)).map fun index =>
    parts.take (start.length + index + 1)

/-- Whether a file is found from a start, which is a directory or the file itself. -/
def reaches (options : Options) (rules : List Rule) (start parts : List String) : Bool :=
  start.isPrefixOf parts && (between start parts).all (options.enters rules)

end Options

/-! ## Values once each -/

section Distinct

variable {α : Type} [BEq α] [LawfulBEq α] {value : α} {values : List α}

theorem mem_distinct : value ∈ distinct values ↔ value ∈ values := by
  unfold distinct
  induction values with
  | nil => rfl
  | cons first others ih => rw [List.foldr_cons, List.mem_insert_iff, List.mem_cons, ih]

theorem nodup_distinct (values : List α) : (distinct values).Nodup := by
  unfold distinct
  induction values with
  | nil => exact List.nodup_nil
  | cons first others ih => exact ih.insert

end Distinct

/-! ## Files in directories -/

section Files

variable {name : String} {file : SourceFile} {files : List SourceFile}

theorem mem_filesUnder :
    file ∈ filesUnder name files ↔ ⟨name :: file.parts, file.source⟩ ∈ files := by
  rw [filesUnder, List.mem_filterMap]
  constructor
  · rintro ⟨⟨parts, source⟩, isMem, isFile⟩
    cases parts with
    | nil => contradiction
    | cons first parts =>
        by_cases isName : first = name
        · simp only [isName, BEq.rfl, if_true, Option.some.injEq] at isFile
          rw [← isFile, ← isName]
          exact isMem
        · simp [isName] at isFile
  · intro isMem
    exact ⟨_, isMem, by simp⟩

/-- What is below a start is what the names of the start lead to. -/
theorem mem_foldl_filesUnder (start : List String) :
    file ∈ start.foldl (fun files name => filesUnder name files) files ↔
      ⟨start ++ file.parts, file.source⟩ ∈ files := by
  induction start generalizing files with
  | nil => rfl
  | cons name start ih => rw [List.foldl_cons, ih, mem_filesUnder, List.cons_append]

theorem mem_directoriesAmong :
    name ∈ directoriesAmong files ↔
      ∃ next parts source, ⟨name :: next :: parts, source⟩ ∈ files := by
  rw [directoriesAmong, mem_distinct, List.mem_filterMap]
  constructor
  · rintro ⟨⟨parts, source⟩, isMem, isName⟩
    rcases parts with _ | ⟨first, _ | ⟨next, parts⟩⟩
    · contradiction
    · contradiction
    · obtain rfl := Option.some.inj isName
      exact ⟨next, parts, source, isMem⟩
  · rintro ⟨next, parts, source, isMem⟩
    exact ⟨_, isMem, rfl⟩

theorem length_le_lowestLevel (isMem : file ∈ files) : file.parts.length ≤ lowestLevel files := by
  induction files with
  | nil => contradiction
  | cons first others ih =>
      rw [lowestLevel, List.foldr_cons]
      rcases List.mem_cons.mp isMem with rfl | isLater
      · exact Nat.le_max_left _ _
      · exact Nat.le_trans (ih isLater) (Nat.le_max_right _ _)

end Files

/-! ## The walk -/

section Walk

variable {options : Options} {rules : List Rule} {here start : List String} {file : SourceFile}
  {files : List SourceFile}

theorem between_self (here : List String) : Options.between here here = [] := by
  simp [Options.between]

/-- Nothing is between a directory and the files in it. -/
theorem between_append_singleton (here : List String) (name : String) :
    Options.between here (here ++ [name]) = [] := by
  simp [Options.between]

/-- The first directory on the way comes before the others. -/
theorem between_append_cons (here : List String) (name next : String) (parts : List String) :
    Options.between here (here ++ name :: next :: parts) =
      (here ++ [name]) :: Options.between (here ++ [name]) (here ++ name :: next :: parts) := by
  have count : (here ++ name :: next :: parts).length - here.length - 1 = parts.length + 1 := by
    simp only [List.length_append, List.length_cons]
    omega
  have countLater : (here ++ name :: next :: parts).length - (here ++ [name]).length - 1 =
      parts.length := by
    simp only [List.length_append, List.length_cons, List.length_nil]
    omega
  rw [Options.between, Options.between, count, countLater, List.range_succ_eq_map, List.map_cons,
    List.map_map]
  congr 1
  · simp [List.take_append, List.take_of_length_le]
  · apply List.map_congr_left
    intro index _
    have sameCount : here.length + (index + 1) + 1 = (here ++ [name]).length + index + 1 := by
      rw [List.length_append, List.length_singleton]
      omega
    rw [Function.comp_apply, Nat.succ_eq_add_one, sameCount]

/-- A walk finds the files in a directory, and what walks in the directories below it find. -/
theorem mem_walk_succ {levels : Nat} :
    file ∈ walk options rules (levels + 1) here files ↔
      (∃ name, file.parts = here ++ [name] ∧ ⟨[name], file.source⟩ ∈ files ∧
        options.accepts rules file.parts = true) ∨
      ∃ name ∈ directoriesAmong files, options.enters rules (here ++ [name]) = true ∧
        file ∈ walk options rules levels (here ++ [name]) (filesUnder name files) := by
  rw [walk, List.mem_append, List.mem_filterMap, List.mem_flatMap]
  apply or_congr
  · constructor
    · rintro ⟨⟨parts, source⟩, isMem, isFound⟩
      rcases parts with _ | ⟨name, _ | ⟨next, parts⟩⟩
      · contradiction
      · by_cases accepted : options.accepts rules (here ++ [name]) = true
        · dsimp only at isFound
          rw [if_pos accepted] at isFound
          obtain rfl := Option.some.inj isFound
          exact ⟨name, rfl, isMem, accepted⟩
        · dsimp only at isFound
          rw [if_neg accepted] at isFound
          contradiction
      · contradiction
    · rintro ⟨name, isPlace, isMem, accepted⟩
      refine ⟨_, isMem, ?_⟩
      rw [isPlace] at accepted
      dsimp only
      rw [if_pos accepted, ← isPlace]
  · simp only [List.mem_filter, and_assoc]

/-- A walk finds the files that are accepted and are led to by directories that may be entered. -/
theorem mem_walk {levels : Nat} (low : ∀ file ∈ files, file.parts.length ≤ levels) :
    file ∈ walk options rules levels here files ↔
      ∃ name parts, file.parts = here ++ name :: parts ∧
        ⟨name :: parts, file.source⟩ ∈ files ∧ options.accepts rules file.parts = true ∧
          (Options.between here file.parts).all (options.enters rules) = true := by
  induction levels generalizing here files with
  | zero =>
      constructor
      · intro isFound
        contradiction
      · rintro ⟨name, parts, -, isMem, -⟩
        have := low _ isMem
        contradiction
  | succ levels ih =>
      have lowUnder (name : String) :
          ∀ other ∈ filesUnder name files, other.parts.length ≤ levels := by
        intro other isUnder
        have := low _ (mem_filesUnder.mp isUnder)
        exact Nat.le_of_succ_le_succ this
      rw [mem_walk_succ]
      constructor
      · rintro (⟨name, isPlace, isMem, accepted⟩ | ⟨name, -, isEntered, isFound⟩)
        · refine ⟨name, [], isPlace, isMem, accepted, ?_⟩
          rw [isPlace, between_append_singleton]
          rfl
        · obtain ⟨next, parts, isPlace, isUnder, accepted, areEntered⟩ :=
            (ih (lowUnder name)).mp isFound
          rw [List.append_assoc, List.singleton_append] at isPlace
          refine ⟨name, next :: parts, isPlace, mem_filesUnder.mp isUnder, accepted, ?_⟩
          rw [isPlace] at areEntered ⊢
          rw [between_append_cons, List.all_cons, isEntered, areEntered]
          rfl
      · rintro ⟨name, parts, isPlace, isMem, accepted, areEntered⟩
        cases parts with
        | nil => exact .inl ⟨name, isPlace, isMem, accepted⟩
        | cons next parts =>
            have entered := areEntered
            rw [isPlace, between_append_cons, List.all_cons, Bool.and_eq_true, ← isPlace]
              at entered
            have isDirectory := mem_directoriesAmong.mpr ⟨next, parts, _, isMem⟩
            refine .inr ⟨name, isDirectory, entered.1, (ih (lowUnder name)).mpr
              ⟨next, parts, ?_, mem_filesUnder.mpr isMem, accepted, entered.2⟩⟩
            rw [isPlace, List.append_assoc, List.singleton_append]

theorem mem_filesFrom :
    file ∈ filesFrom options rules files start ↔
      file ∈ files ∧ options.accepts rules file.parts = true ∧
        options.reaches rules start file.parts = true := by
  have low := fun file => @length_le_lowestLevel file
    (start.foldl (fun files name => filesUnder name files) files)
  rw [filesFrom, List.mem_append, mem_walk low, Options.reaches, Bool.and_eq_true,
    List.isPrefixOf_iff_prefix, List.mem_filterMap]
  constructor
  · rintro (⟨other, isInside, isFound⟩ | ⟨name, parts, isPlace, isInside, accepted, areEntered⟩)
    · by_cases accepted : (other.parts.isEmpty && options.accepts rules start) = true
      · rw [if_pos accepted] at isFound
        obtain rfl := Option.some.inj isFound
        rw [Bool.and_eq_true, List.isEmpty_iff] at accepted
        have isMem := (mem_foldl_filesUnder start).mp isInside
        rw [accepted.1, List.append_nil] at isMem
        refine ⟨isMem, accepted.2, List.prefix_rfl, ?_⟩
        rw [between_self]
        rfl
      · rw [if_neg accepted] at isFound
        contradiction
    · have isMem := (mem_foldl_filesUnder start).mp isInside
      dsimp only at isMem
      rw [← isPlace] at isMem
      exact ⟨isMem, accepted, isPlace ▸ List.prefix_append _ _, areEntered⟩
  · rintro ⟨isMem, accepted, ⟨parts, isPlace⟩, areEntered⟩
    cases parts with
    | nil =>
        rw [List.append_nil] at isPlace
        refine .inl ⟨⟨[], file.source⟩, (mem_foldl_filesUnder start).mpr ?_, ?_⟩
        · rw [List.append_nil, isPlace]
          exact isMem
        · rw [isPlace, accepted]
          rfl
    | cons name parts =>
        refine .inr ⟨name, parts, isPlace.symm, (mem_foldl_filesUnder start).mpr ?_, accepted,
          areEntered⟩
        rw [isPlace]
        exact isMem

end Walk

end Phrasebook.Scan
