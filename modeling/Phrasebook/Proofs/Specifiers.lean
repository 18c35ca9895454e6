import Phrasebook.Disk.Specifier
import Phrasebook.Proofs.Places

/-!
# Where specifiers lead

A specifier that is followed from the directory of its importer leads to its
target without the suffix of the file.  It is written as a relative one unless
it goes down from that directory by a name that begins with a dot, since a dot
in front is taken for one that is there already.
-/

namespace Phrasebook.Disk

/-! ## Stems -/

section Stems

variable {name : String}

theorem length_suffixOf_lt (present : name ≠ "") : (suffixOf name).length < name.length := by
  have positive : 0 < name.length := by
    rw [← String.length_toList]
    exact List.length_pos_iff.mpr (mt String.toList_eq_nil_iff.mp present)
  unfold suffixOf
  dsimp only
  split
  · rename_i isSuffix
    rw [Bool.and_eq_true, decide_eq_true_iff] at isSuffix
    rw [String.length_ofList, List.length_cons]
    omega
  · exact positive

/-- What is left of a name without its suffix begins like the name. -/
theorem exists_stemOf (present : name ≠ "") : ∃ first rest more,
    (stemOf name).toList = first :: rest ∧ name.toList = first :: (rest ++ more) := by
  have shorter := length_suffixOf_lt present
  obtain ⟨count, isCount⟩ : ∃ count, name.length - (suffixOf name).length = count + 1 :=
    Nat.exists_eq_add_one_of_ne_zero (by omega)
  obtain ⟨first, rest, isCons⟩ :=
    List.exists_cons_of_ne_nil (mt String.toList_eq_nil_iff.mp present)
  refine ⟨first, rest.take count, rest.drop count, ?_, by rw [isCons, List.take_append_drop]⟩
  rw [stemOf, String.toList_ofList, isCount, isCons, List.take_succ_cons]

theorem head?_stemOf (present : name ≠ "") :
    (stemOf name).toList.head? = name.toList.head? := by
  obtain ⟨first, rest, more, isStem, isWhole⟩ := exists_stemOf present
  rw [isStem, isWhole]
  rfl

theorem stemOf_ne_empty (present : name ≠ "") : stemOf name ≠ "" := by
  obtain ⟨first, rest, _, isStem, _⟩ := exists_stemOf present
  intro isEmpty
  rw [isEmpty] at isStem
  exact List.cons_ne_nil _ _ isStem.symm

theorem noSlash_stemOf (noSlash : '/' ∉ name.toList) : '/' ∉ (stemOf name).toList := by
  rw [stemOf, String.toList_ofList]
  exact fun slash => noSlash (List.take_subset _ _ slash)

theorem isName_stemOf (isName : IsName name) (notDot : stemOf name ≠ ".") :
    IsName (stemOf name) :=
  ⟨stemOf_ne_empty isName.present, notDot, noSlash_stemOf isName.noSlash⟩

end Stems

namespace Path

/-! ## From one path to another -/

/-- The path from a start goes up from it to a directory above both and down from there, and only
down if the start itself is above the other path. -/
theorem exists_fromStart (start goal : List String) : ∃ above left below,
    start = above ++ left ∧ goal = above ++ below ∧
      fromStart start goal = List.replicate left.length ".." ++ below ∧
      (start <+: goal → left = []) := by
  induction start generalizing goal with
  | nil => exact ⟨[], [], goal, rfl, rfl, by simp [fromStart], fun _ => rfl⟩
  | cons part start ih =>
      cases goal with
      | nil => exact ⟨[], part :: start, [], rfl, rfl, by simp [fromStart], by simp⟩
      | cons other goal =>
          rw [fromStart]
          split
          · rename_i same
            obtain rfl := beq_iff_eq.mp same
            obtain ⟨above, left, below, rfl, rfl, isPath, down⟩ := ih goal
            exact ⟨part :: above, left, below, rfl, rfl, isPath,
              fun isAbove => down (List.cons_prefix_cons.mp isAbove).2⟩
          · rename_i different
            refine ⟨[], part :: start, other :: goal, rfl, rfl, rfl, fun isAbove => ?_⟩
            exact absurd (beq_iff_eq.mpr (List.cons_prefix_cons.mp isAbove).1) different

/-- Double dots cancel as many names before them. -/
theorem cancelled_append_replicate (parts : List String) (count : Nat) :
    cancelled (parts ++ List.replicate count "..") =
      (cancelled parts).take ((cancelled parts).length - count) := by
  induction count with
  | zero => simp
  | succ count ih =>
      have cancelledLast (parts : List String) :
          cancelled (parts ++ [".."]) = (cancelled parts).dropLast := by
        rw [cancelled, List.foldl_append]
        rfl
      rw [List.replicate_succ', ← List.append_assoc, cancelledLast, ih, List.dropLast_eq_take,
        List.take_take, List.length_take]
      congr 1
      omega

/-- As many steps up as there are names to leave lead to where these begin. -/
theorem cancelled_up_and_down {parts above left below : List String}
    (here : cancelled parts = above ++ left) (noDots : ".." ∉ below) :
    cancelled (parts ++ (List.replicate left.length ".." ++ below)) = above ++ below := by
  rw [← List.append_assoc, cancelled_append _ noDots, cancelled_append_replicate, here]
  simp

/-- A path up from where another one leads and down again leads there. -/
theorem resolved_join_up_and_down {directory above left below : List String} {path : Path}
    (here : (path.resolved directory).parts = above ++ left) (noDots : ".." ∉ below) :
    (path.join ⟨0, List.replicate left.length ".." ++ below⟩).resolved directory =
      ofParts (above ++ below) := by
  rw [parts_resolved] at here
  have isPlace : ((path.join ⟨0, List.replicate left.length ".." ++ below⟩).resolved
      directory).parts = above ++ below := by
    rw [parts_resolved, ← cancelled_up_and_down here noDots, List.append_assoc]
    rfl
  exact congrArg ofParts isPlace

/-! ## Relative specifiers -/

/-- A dot and a slash in front of a text are dropped. -/
theorem ofString_dotSlash (text : String) :
    ofString ("./" ++ text) = ⟨0, partsOf text.toList⟩ := by
  have isText : ("./" ++ text).toList = '.' :: '/' :: text.toList := by simp
  rw [ofString, isText]
  rfl

end Path

/-- The specifier along some names, with a step in front unless it begins with a dot. -/
def specifierAlong (parts : List String) : String :=
  let text := "/".intercalate parts
  if text.toList.head? == some '.' then text else "./" ++ text

/-- Whether a specifier begins with a step from the directory of its importer. -/
def IsRelative (specifier : String) : Prop :=
  "./".toList <+: specifier.toList ∨ "../".toList <+: specifier.toList

section Relative

variable {first : String} {others : List String}

/-- The first name in a text stands before a slash or is all of it. -/
theorem toList_intercalate_cons (first : String) (others : List String) :
    ("/".intercalate (first :: others)).toList =
      first.toList ++ if others = [] then [] else '/' :: ("/".intercalate others).toList := by
  obtain _ | ⟨second, others⟩ := others
  · simp
  · simp [String.toList_intercalate]

theorem eq_of_slash_after (word : List Char) (noSlash : '/' ∉ word)
    (firstSlash : '/' ∉ first.toList)
    (begins : word ++ ['/'] <+: ("/".intercalate (first :: others)).toList) :
    word = first.toList ∧ others ≠ [] := by
  rw [toList_intercalate_cons] at begins
  obtain ⟨rest, whole⟩ := begins
  have ends (text : List Char) (textSlash : '/' ∉ text) (more : List Char) :
      (text ++ '/' :: more).takeWhile (· != '/') = text := by
    rw [List.takeWhile_append_of_pos fun character characterMem => ?_]
    · simp
    · rw [bne_iff_ne]
      rintro rfl
      exact textSlash characterMem
  split at whole
  · refine absurd ?_ firstSlash
    rw [← List.append_nil first.toList, ← whole]
    simp
  · rename_i hasOthers
    refine ⟨?_, hasOthers⟩
    rw [List.append_assoc, List.singleton_append] at whole
    rw [← ends word noSlash rest, whole, ends _ firstSlash]

/-- Only a name that begins with a dot keeps a specifier from being relative. -/
theorem isRelative_iff (present : first ≠ "") (noSlash : '/' ∉ first.toList)
    (notDot : others ≠ [] → first ≠ ".") :
    IsRelative (specifierAlong (first :: others)) ↔
      first.toList.head? = some '.' → first = ".." ∧ others ≠ [] := by
  have sameHead : ("/".intercalate (first :: others)).toList.head? = first.toList.head? := by
    obtain ⟨character, rest, isCons⟩ :=
      List.exists_cons_of_ne_nil (mt String.toList_eq_nil_iff.mp present)
    rw [toList_intercalate_cons, isCons]
    rfl
  rw [specifierAlong, sameHead]
  by_cases dotted : first.toList.head? = some '.'
  · rw [if_pos (beq_iff_eq.mpr dotted)]
    constructor
    · rintro (begins | begins) _
      · obtain ⟨isFirst, hasOthers⟩ := eq_of_slash_after ['.'] (by decide) noSlash begins
        exact absurd (String.toList_inj.mp isFirst.symm) (notDot hasOthers)
      · obtain ⟨isFirst, hasOthers⟩ :=
          eq_of_slash_after ['.', '.'] (by decide) noSlash begins
        exact ⟨String.toList_inj.mp isFirst.symm, hasOthers⟩
    · intro up
      obtain ⟨rfl, hasOthers⟩ := up dotted
      refine .inr ?_
      rw [toList_intercalate_cons, if_neg hasOthers]
      exact ⟨_, rfl⟩
  · rw [if_neg (by simpa using dotted)]
    refine iff_of_true (.inl ?_) fun isDotted => absurd isDotted dotted
    simp

end Relative

/-! ## Specifiers -/

section Specifiers

variable {directory : List String} {importer target : Path}

theorem ofString_specifierAlong {parts : List String} (present : parts ≠ [])
    (names : ∀ part ∈ parts, IsName part) : Path.ofString (specifierAlong parts) = ⟨0, parts⟩ := by
  have isWritten : (Path.mk 0 parts).written = "/".intercalate parts := by
    simp [Path.written, present]
  have isPath := Path.ofString_written names
  rw [isWritten] at isPath
  unfold specifierAlong
  dsimp only
  split
  · exact isPath
  · have sameParts : Path.partsOf ("/".intercalate parts).toList = parts :=
      congrArg Path.parts isPath
    rw [Path.ofString_dotSlash, sameParts]

theorem specifierFor?_eq_some {between : List String} {name : String}
    (isPath : Path.fromStart (importer.parent.resolved directory).parts
      (target.resolved directory).parts = between ++ [name]) :
    specifierFor? directory importer target =
      some (specifierAlong (between ++ [stemOf name])) := by
  rw [specifierFor?, isPath]
  simp [specifierAlong]

/-- A path down is written as a relative one if its first name does not begin with a dot. -/
theorem isRelative_down_iff {between : List String} {name : String}
    (names : ∀ part ∈ between ++ [name], IsName part) (noDots : ".." ∉ between ++ [name]) :
    IsRelative (specifierAlong (between ++ [stemOf name])) ↔
      ∀ first below, between ++ [name] = first :: below → first.toList.head? ≠ some '.' := by
  obtain _ | ⟨first, between⟩ := between
  · have isName := names name List.mem_cons_self
    refine (isRelative_iff (stemOf_ne_empty isName.present) (noSlash_stemOf isName.noSlash)
      (absurd rfl)).trans ?_
    rw [head?_stemOf isName.present]
    simp
  · have isName := names first List.mem_cons_self
    refine (isRelative_iff isName.present isName.noSlash fun _ => isName.notDot).trans ?_
    have notUp : first ≠ ".." := by
      rintro rfl
      exact noDots List.mem_cons_self
    simp [notUp]

theorem isRelative_up (count : Nat) {others : List String} (present : others ≠ []) :
    IsRelative (specifierAlong (List.replicate (count + 1) ".." ++ others)) := by
  refine (isRelative_iff (by decide) (by decide) fun _ => by decide).mpr fun _ => ⟨rfl, ?_⟩
  exact List.append_ne_nil_of_right_ne_nil _ present

/-- The specifier along a path up and down leads where the path does, but for the suffix. -/
theorem resolved_specifierAlong {above left between : List String} {name : String} {path : Path}
    (here : (path.resolved directory).parts = above ++ left)
    (names : ∀ part ∈ between ++ [name], IsName part) (noDots : ".." ∉ between ++ [name])
    (notDot : stemOf name ≠ ".") (notUp : stemOf name ≠ "..") :
    (path.join (Path.ofString (specifierAlong
      (List.replicate left.length ".." ++ (between ++ [stemOf name]))))).resolved directory =
        Path.ofParts (above ++ (between ++ [stemOf name])) := by
  have stemDots : ".." ∉ between ++ [stemOf name] := by
    simp only [List.mem_append, List.mem_singleton, not_or] at noDots ⊢
    exact ⟨noDots.1, notUp.symm⟩
  have stemNames : ∀ part ∈ List.replicate left.length ".." ++ (between ++ [stemOf name]),
      IsName part := by
    refine List.forall_mem_append.mpr ⟨fun part partMem => ?_, List.forall_mem_append.mpr ⟨?_, ?_⟩⟩
    · rw [List.eq_of_mem_replicate partMem]
      exact ⟨by decide, by decide, by decide⟩
    · exact fun part partMem => names part (List.mem_append_left _ partMem)
    · exact List.forall_mem_singleton.mpr (isName_stemOf (names name (by simp)) notDot)
  rw [ofString_specifierAlong (by simp) stemNames]
  exact Path.resolved_join_up_and_down here stemDots

/-- What is not above the directory of its importer has a specifier, which is a relative one unless
the target is below that directory by a name that begins with a dot, and which leads to the target
without the suffix. -/
theorem exists_specifierFor? (names : target.HasNames)
    (directoryNames : ∀ name ∈ directory, IsName name)
    (outside : ¬(target.resolved directory).parts <+: (importer.parent.resolved directory).parts) :
    ∃ specifier, specifierFor? directory importer target = some specifier ∧
      (IsRelative specifier ↔ ∀ first below, (target.resolved directory).parts =
        (importer.parent.resolved directory).parts ++ first :: below →
          first.toList.head? ≠ some '.') ∧
      ∀ place name, (target.resolved directory).parts = place ++ [name] →
        stemOf name ≠ "." → stemOf name ≠ ".." →
          (importer.parent.join (Path.ofString specifier)).resolved directory =
            Path.ofParts (place ++ [stemOf name]) := by
  have goalNames := names.resolved directoryNames
  have goalDots : ".." ∉ (target.resolved directory).parts := by
    rw [Path.parts_resolved]
    exact fun isPart => (Path.mem_cancelled isPart).2 rfl
  obtain ⟨above, left, below, isStart, isGoal, isPath, down⟩ :=
    Path.exists_fromStart (importer.parent.resolved directory).parts
      (target.resolved directory).parts
  unfold Path.HasNames at goalNames
  rw [isStart, isGoal] at outside
  rw [isGoal] at goalNames goalDots
  have present : below ≠ [] := by
    rintro rfl
    simp at outside
  obtain ⟨between, name, rfl⟩ : ∃ between name, below = between ++ [name] :=
    ⟨_, _, (List.dropLast_concat_getLast present).symm⟩
  have belowNames : ∀ part ∈ between ++ [name], IsName part :=
    fun part partMem => goalNames part (List.mem_append_right _ partMem)
  have belowDots : ".." ∉ between ++ [name] :=
    fun isPart => goalDots (List.mem_append_right _ isPart)
  rw [← List.append_assoc] at isPath
  refine ⟨_, specifierFor?_eq_some isPath, ?_, ?_⟩
  · cases left with
    | nil =>
        rw [isGoal, isStart]
        simpa using isRelative_down_iff belowNames belowDots
    | cons part left =>
        rw [List.append_assoc]
        refine iff_of_true (isRelative_up _ (by simp)) fun first others isBelow => ?_
        exact absurd (down (isBelow ▸ List.prefix_append _ _)) (List.cons_ne_nil _ _)
  · intro place last isPlace notDot notUp
    rw [isGoal, ← List.append_assoc] at isPlace
    obtain ⟨rfl, isLast⟩ := List.append_inj' isPlace rfl
    obtain rfl : name = last := by simpa using isLast
    rw [List.append_assoc, List.append_assoc]
    exact resolved_specifierAlong isStart belowNames belowDots notDot notUp

/-- A directory whose name begins with a dot is named without a step in front. -/
example : specifierFor? [] (.ofParts ["p", "src", "jsxlate.js"])
    (.ofParts ["p", "src", ".i18n", "t.js"]) = some ".i18n/t" := by
  decide

end Specifiers

end Phrasebook.Disk
