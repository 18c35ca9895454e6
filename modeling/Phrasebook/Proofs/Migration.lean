import Phrasebook.Proofs.KeyChange
import Phrasebook.Proofs.NormalForm
import Phrasebook.Proofs.Observation
import Phrasebook.Proofs.Signature

/-!
# Changing to the second normal form

What a phrase is under another version of the normal form follows from what it
says.  So sources that can be read under one version can be read under all, and
the keys under one version are mapped to those under another one if and only if
phrases that share a key go on sharing it.  From the first version to the second
one they do, unless there are carriage returns within their lines or two of
their signatures have one key.
-/

namespace Phrasebook

namespace Phrase

/-! ## One phrase -/

/-- A phrase under another version of the normal form. -/
def under (version : Version) (phrase : Phrase) : Phrase :=
  let normal := String.ofList (version.normalize phrase.body.toList)
  let signature := signatureOf normal phrase.context phrase.dependencies
  { phrase with key := keyOf signature, signature }

@[simp]
theorem body_under (version : Version) (phrase : Phrase) :
    (phrase.under version).body = phrase.body := by
  rw [under]

section Under

variable {origin : Origin} {tag : String} {element : Markup.Site} {phrase : Phrase}

theorem phrase_under {version : Version} (done : origin.phrase tag version element = .ok phrase)
    (other : Version) : origin.phrase tag other element = .ok (phrase.under other) := by
  obtain ⟨isOuter, isElement, body, remarks, found, isBody, remarked, isFound, rfl⟩ :=
    Origin.phrase_eq_ok_iff.mp done
  exact Origin.phrase_eq_ok_iff.mpr ⟨isOuter, isElement, body, remarks, found, isBody, remarked,
    isFound, rfl⟩

variable {old new : Int} {version : Version}

theorem phraseOf_under (known : Version.ofNumber new = .ok version)
    (done : origin.phraseOf tag old element = .ok phrase) :
    origin.phraseOf tag new element = .ok (phrase.under version) := by
  obtain ⟨_, _, isTagged, done⟩ := Origin.phraseOf_eq_ok_iff.mp done
  exact Origin.phraseOf_eq_ok_iff.mpr ⟨version, known, isTagged, phrase_under done version⟩

theorem phrases_under (known : Version.ofNumber new = .ok version) {phrases : List Phrase}
    (done : origin.phrases tag old = .ok phrases) :
    origin.phrases tag new = .ok (phrases.map (under version)) := by
  obtain ⟨script, isScript, done⟩ := bind_eq_ok_iff.mp done
  refine bind_eq_ok_iff.mpr ⟨script, isScript, mapM_eq_ok_iff.mpr ?_⟩
  rw [List.forall₂_map_right_iff]
  exact (mapM_eq_ok_iff.mp done).imp fun _ _ => phraseOf_under known

end Under

end Phrase

namespace Book

open Phrase (Version Origin)

/-! ## Observations -/

/-- What is observed under another version of the normal form. -/
def under (version : Version) (observed : Observed) : Observed :=
  observed.map fun file => (file.1, file.2.map (Phrase.under version))

/-- All phrases that are observed. -/
def phrasesIn (observed : Observed) : List Phrase :=
  observed.flatMap (·.2)

section Collected

variable {tag : String} {old new : Int} {version : Version}

theorem setFile_under (observed : Observed) (file : String × List Phrase) :
    setFile (under version observed) (file.1, file.2.map (Phrase.under version)) =
      under version (setFile observed file) := by
  have samePaths : (under version observed).map (·.1) = observed.map (·.1) := by
    rw [under, List.map_map]
    rfl
  unfold setFile
  rw [samePaths]
  split
  · unfold under
    rw [List.map_map, List.map_map]
    refine List.map_congr_left fun other _ => ?_
    dsimp only [Function.comp_apply]
    split <;> rfl
  · simp [under]

theorem foldl_setFile_under (observed files : Observed) :
    (under version files).foldl setFile (under version observed) =
      under version (files.foldl setFile observed) := by
  induction files generalizing observed with
  | nil => rfl
  | cons file files ih =>
      rw [List.foldl_cons, ← ih (setFile observed file), ← setFile_under]
      rfl

/-- Sources that can be read under one version can be read under every known one. -/
theorem collected_under (known : Version.ofNumber new = .ok version) {origins : List Origin}
    {observed : Observed} (done : collected tag old origins = .ok observed) :
    collected tag new origins = .ok (under version observed) := by
  obtain ⟨files, each, rfl⟩ := map_eq_ok_iff.mp done
  have eachUnder : origins.mapM (fileOf tag new) = .ok (under version files) := by
    refine mapM_eq_ok_iff.mpr (List.forall₂_map_right_iff.mpr ?_)
    refine (mapM_eq_ok_iff.mp each).imp fun origin file isFile => ?_
    obtain ⟨phrases, isPhrases, rfl⟩ := map_eq_ok_iff.mp isFile
    exact map_eq_ok_iff.mpr ⟨_, Phrase.phrases_under known isPhrases, rfl⟩
  have grouped : byPath (under version files) = under version (byPath files) :=
    foldl_setFile_under [] files
  exact map_eq_ok_iff.mpr ⟨_, eachUnder, grouped⟩

theorem isSigned_of_collected (known : Version.ofNumber old = .ok version) {origins : List Origin}
    {observed : Observed} (done : collected tag old origins = .ok observed) :
    ∀ phrase ∈ phrasesIn observed, Phrase.IsSigned version phrase := by
  obtain ⟨files, each, rfl⟩ := map_eq_ok_iff.mp done
  intro phrase phraseMem
  obtain ⟨file, fileMem, phraseMem⟩ := List.mem_flatMap.mp phraseMem
  have isFile : file ∈ files := (mem_of_mem_foldl_setFile fileMem).resolve_left List.not_mem_nil
  obtain ⟨origin, _, _, extracted⟩ := exists_mem_zip_right (mapM_eq_ok_iff.mp each) isFile
  obtain ⟨phrases, isPhrases, rfl⟩ := map_eq_ok_iff.mp extracted
  obtain ⟨other, isOther, isSigned⟩ := Phrase.isSigned_of_phrases isPhrases phrase phraseMem
  obtain rfl := Except.ok.inj (known.symm.trans isOther)
  exact isSigned

end Collected

/-! ## Maps of keys -/

section Maps

variable {version : Version} {observed : Observed}

/-- Every phrase is paired with what it is under the other version. -/
theorem keyMapOf_under (distinct : (observed.map (·.1)).Nodup) :
    keyMapOf observed (under version observed) =
      matchKeys ((phrasesIn observed).map fun phrase => (phrase, phrase.under version)) [] := by
  have pairs (file : String × List Phrase) (fileMem : file ∈ observed) :
      file.2.zip (((under version observed).lookup file.1).getD []) =
        file.2.map fun phrase => (phrase, phrase.under version) := by
    have distinctUnder : ((under version observed).map (·.1)).Nodup := by
      rwa [under, List.map_map]
    have found : (under version observed).lookup file.1 =
        some (file.2.map (Phrase.under version)) :=
      lookup_of_mem distinctUnder (List.mem_map.mpr ⟨file, fileMem, rfl⟩)
    rw [found, Option.getD_some, ← List.zip_map', List.map_id']
  unfold keyMapOf phrasesIn
  rw [List.map_flatMap]
  exact congrArg (matchKeys · []) (List.flatMap_congr pairs)

/-- A change of keys to another version is clear if and only if phrases that share a key go on
sharing it. -/
theorem exists_keyMapOf_iff (version : Version) (distinct : (observed.map (·.1)).Nodup) :
    (∃ keys, keyMapOf observed (under version observed) = .ok keys) ↔
      ∀ phrase ∈ phrasesIn observed, ∀ other ∈ phrasesIn observed, phrase.key = other.key →
        (phrase.under version).key = (other.under version).key := by
  rw [keyMapOf_under distinct, exists_matchKeys_iff]
  simp only [List.forall_mem_map]

end Maps

/-! ## From the first version to the second -/

/-- Whether phrases that share a key have the same signature. -/
def AreApart (phrases : List Phrase) : Prop :=
  ∀ phrase ∈ phrases, ∀ other ∈ phrases, phrase.key = other.key →
    phrase.signature = other.signature

/-- Whether phrases that share a key have gaps at the same carriage returns within their lines. -/
def AgreeAtReturns (phrases : List Phrase) : Prop :=
  ∀ phrase ∈ phrases, ∀ other ∈ phrases, phrase.key = other.key →
    Phrase.returnGaps phrase.body.toList = Phrase.returnGaps other.body.toList

instance (phrases : List Phrase) : Decidable (AreApart phrases) :=
  inferInstanceAs (Decidable (∀ phrase ∈ phrases, ∀ other ∈ phrases, phrase.key = other.key →
    phrase.signature = other.signature))

instance (phrases : List Phrase) : Decidable (AgreeAtReturns phrases) :=
  inferInstanceAs (Decidable (∀ phrase ∈ phrases, ∀ other ∈ phrases, phrase.key = other.key →
    Phrase.returnGaps phrase.body.toList = Phrase.returnGaps other.body.toList))

section Joined

variable {observed : Observed}

/-- Phrases with one signature have the same normal form. -/
theorem normalize_eq_of_signature {version : Version} {phrase other : Phrase}
    (isSigned : Phrase.IsSigned version phrase) (isOther : Phrase.IsSigned version other)
    (same : phrase.signature = other.signature) :
    version.normalize phrase.body.toList = version.normalize other.body.toList := by
  rw [isSigned.signature, isOther.signature] at same
  have sameNormal := (Phrase.signatureOf_inj isSigned.context isOther.context
    isSigned.dependencies isOther.dependencies same).1
  simpa using congrArg String.toList sameNormal

theorem phrasesIn_under (version : Version) (observed : Observed) :
    phrasesIn (under version observed) = (phrasesIn observed).map (Phrase.under version) := by
  rw [phrasesIn, phrasesIn, under, List.flatMap_map, List.map_flatMap]

/-- Phrases that share a key under the first version share it under the second one if they have gaps
at the same carriage returns. -/
theorem key_under_of_returnGaps {phrase other : Phrase}
    (isSigned : Phrase.IsSigned .byLine phrase) (isOther : Phrase.IsSigned .byLine other)
    (same : phrase.signature = other.signature)
    (sameGaps : Phrase.returnGaps phrase.body.toList = Phrase.returnGaps other.body.toList) :
    (phrase.under .joined).key = (other.under .joined).key := by
  have sameNormal := normalize_eq_of_signature isSigned isOther same
  have sameJoined := (Phrase.normalize_joined_eq_iff sameNormal).mpr sameGaps
  obtain ⟨sameContext, sameDependencies⟩ := isSigned.eq_of_signature isOther same
  dsimp only [Phrase.under]
  rw [sameJoined, sameContext, sameDependencies]

end Joined

/-- Texts that have one normal form under the first version have one under the second version if and
only if they have gaps at the same carriage returns within their lines. So as long as no two
signatures share a key, the keys of the phrases that were found can be changed if this holds for all
phrases that share a key, and where no two signatures share a key afterwards, only then. -/
theorem exists_keyMapOf_of_agreeAtReturns :
    (∀ left right : List Char, Version.byLine.normalize left = Version.byLine.normalize right →
      (Version.joined.normalize left = Version.joined.normalize right ↔
        Phrase.returnGaps left = Phrase.returnGaps right)) ∧
    ∀ (tag : String) (origins : List Origin) (before : Observed),
      collected tag 0 origins = .ok before → AreApart (phrasesIn before) →
        ∃ after, collected tag 1 origins = .ok after ∧
          (AgreeAtReturns (phrasesIn before) → ∃ keys, keyMapOf before after = .ok keys) ∧
          (AreApart (phrasesIn after) → (∃ keys, keyMapOf before after = .ok keys) →
            AgreeAtReturns (phrasesIn before)) := by
  refine ⟨fun left right => Phrase.normalize_joined_eq_iff, ?_⟩
  intro tag origins before done apart
  have newDone : collected tag 1 origins = .ok (under .joined before) := collected_under rfl done
  have isSigned := isSigned_of_collected rfl done
  have shared := exists_keyMapOf_iff .joined (nodup_path_of_collected done)
  refine ⟨under .joined before, newDone, fun agree => shared.mpr ?_, ?_⟩
  · intro phrase phraseMem other otherMem sameKey
    exact key_under_of_returnGaps (isSigned phrase phraseMem) (isSigned other otherMem)
      (apart phrase phraseMem other otherMem sameKey)
      (agree phrase phraseMem other otherMem sameKey)
  · intro apartAfter clear phrase phraseMem other otherMem sameKey
    have isUnder {one : Phrase} (oneMem : one ∈ phrasesIn before) :
        one.under .joined ∈ phrasesIn (under .joined before) := by
      rw [phrasesIn_under]
      exact List.mem_map_of_mem oneMem
    have isSignedUnder := isSigned_of_collected rfl newDone
    have sameUnder := apartAfter _ (isUnder phraseMem) _ (isUnder otherMem)
      (shared.mp clear phrase phraseMem other otherMem sameKey)
    have sameNormal := normalize_eq_of_signature (isSigned phrase phraseMem)
      (isSigned other otherMem) (apart phrase phraseMem other otherMem sameKey)
    have sameJoined := normalize_eq_of_signature (isSignedUnder _ (isUnder phraseMem))
      (isSignedUnder _ (isUnder otherMem)) sameUnder
    rw [Phrase.body_under, Phrase.body_under] at sameJoined
    exact (Phrase.normalize_joined_eq_iff sameNormal).mp sameJoined

/-- What comes of a change of versions, by one run. -/
theorem exists_collected_of_run {tag : String} {old new : Int} {origins : List Origin}
    {outcome : Except RekeyFault KeyMap}
    (run : ((collected tag old origins).toOption.bind fun before =>
      (collected tag new origins).toOption.map (keyMapOf before)) = some outcome) :
    ∃ before after, collected tag old origins = .ok before ∧
      collected tag new origins = .ok after ∧ keyMapOf before after = outcome := by
  obtain ⟨before, isBefore, run⟩ := Option.bind_eq_some_iff.mp run
  obtain ⟨after, isAfter, isOutcome⟩ := Option.map_eq_some_iff.mp run
  exact ⟨before, after, toOption_eq_some_iff.mp isBefore, toOption_eq_some_iff.mp isAfter,
    isOutcome⟩

/-- A gap at a carriage return keeps two phrases apart under the second version only, and so does a
line feed where the signatures of two phrases happen to share a key under the first one. -/
theorem exists_ambiguous_keys :
    let left := "a \r b".toList
    let right := "a\rb".toList
    let returns : List Origin := [
      ⟨"f", Text.Source.ofString "<T>a \r b</T>"⟩, ⟨"g", Text.Source.ofString "<T>a\rb</T>"⟩]
    let feeds : List Origin := [
      ⟨"f", Text.Source.ofString "<T>k\n5906180</T>"⟩,
      ⟨"g", Text.Source.ofString "<T>k\n7892474</T>"⟩]
    Version.byLine.normalize left = Version.byLine.normalize right ∧
      Version.joined.normalize left ≠ Version.joined.normalize right ∧
      (∃ before after, collected "T" 0 returns = .ok before ∧ collected "T" 1 returns = .ok after ∧
        keyMapOf before after =
          .error (.ambiguous "09d9bc26b674" "fc4790f5bea8" "de82794c205e" ⟨"g", 1⟩)) ∧
      ∃ before after, collected "T" 0 feeds = .ok before ∧ collected "T" 1 feeds = .ok after ∧
        keyMapOf before after =
          .error (.ambiguous "0d5a29f91477" "270c7738b912" "88756a2a73fb" ⟨"g", 1⟩) := by
  intro left right returns feeds
  have sameLines : Version.byLine.normalize left = Version.byLine.normalize right := by
    decide +kernel
  have otherJoined : Version.joined.normalize left ≠ Version.joined.normalize right := by
    decide +kernel
  exact ⟨sameLines, otherJoined, exists_collected_of_run (by decide +kernel),
    exists_collected_of_run (by decide +kernel)⟩

/-- Two phrases that share a key have a gap at the same carriage return, on one side of it or the
other, and go on sharing their key. -/
theorem exists_keyMapOf_one_return :
    let left := "a \r b".toList
    let right := "a\r\t b".toList
    let origins : List Origin := [
      ⟨"f", Text.Source.ofString "<T>a \r b</T>"⟩, ⟨"g", Text.Source.ofString "<T>a\r\t b</T>"⟩]
    Version.byLine.normalize left = Version.byLine.normalize right ∧
      Version.joined.normalize left = Version.joined.normalize right ∧
      ∃ before after keys, collected "T" 0 origins = .ok before ∧ AreApart (phrasesIn before) ∧
        AgreeAtReturns (phrasesIn before) ∧
        (phrasesIn before).map (·.key) = ["09d9bc26b674", "09d9bc26b674"] ∧
        collected "T" 1 origins = .ok after ∧ keyMapOf before after = .ok keys := by
  intro left right origins
  have sameLines : Version.byLine.normalize left = Version.byLine.normalize right := by
    decide +kernel
  have sameGaps : Phrase.returnGaps left = Phrase.returnGaps right := by decide +kernel
  have sameJoined := (exists_keyMapOf_of_agreeAtReturns.1 left right sameLines).mpr sameGaps
  have run : (collected "T" 0 origins).toOption.map (fun before =>
      decide (AreApart (phrasesIn before) ∧ AgreeAtReturns (phrasesIn before) ∧
        (phrasesIn before).map (·.key) = ["09d9bc26b674", "09d9bc26b674"])) = some true := by
    decide +kernel
  obtain ⟨before, isBefore, holds⟩ := Option.map_eq_some_iff.mp run
  obtain ⟨apart, agree, keys⟩ := of_decide_eq_true holds
  have done := toOption_eq_some_iff.mp isBefore
  obtain ⟨after, newDone, clear, _⟩ :=
    exists_keyMapOf_of_agreeAtReturns.2 "T" origins before done apart
  obtain ⟨map, isMap⟩ := clear agree
  exact ⟨sameLines, sameJoined, before, after, map, done, apart, agree, keys, newDone, isMap⟩

end Book

end Phrasebook
