import Phrasebook.Proofs.Between
import Phrasebook.Proofs.Capture
import Phrasebook.Proofs.Names
import Phrasebook.Proofs.Substitution

/-!
# Signatures

A signature is the normal form, the context and the dependencies of a phrase in
one text.  In a phrase that was extracted from a source the context holds no
null character and the dependencies are names, so the signature tells the parts
again: phrases with the same signature have the same context and depend on the
same names.
-/

namespace Phrasebook.Text.Reference

open Markup (isPresent)

/-! ## Meanings of references -/

/-- A text without null characters, as its bytes show. -/
theorem isPresent_of_bytes {text : String}
    (present : text.toByteArray.data.toList.all (· != 0) = true) :
    ∀ character ∈ text.toList, isPresent character = true := by
  intro character characterMem
  refine bne_iff_ne.mpr ?_
  rintro rfl
  rw [← String.utf8Encode_toList, List.utf8Encode, List.data_toByteArray] at present
  have isByte : 0 ∈ text.toList.flatMap String.utf8EncodeChar :=
    List.mem_flatMap.mpr ⟨_, characterMem, by decide⟩
  have absent := List.all_eq_true.mp present 0 isByte
  contradiction

theorem isPresent_ofName? {name meaning : List Char} (named : ofName? name = some meaning) :
    ∀ character ∈ meaning, isPresent character = true := by
  -- The meanings are literals, and of a literal the bytes can be computed but not the characters.
  have present : ∀ entry ∈ referenceNames,
      entry.2.toByteArray.data.toList.all (· != 0) = true := by decide +kernel
  obtain ⟨entry, isEntry, rfl⟩ := Option.map_eq_some_iff.mp named
  exact isPresent_of_bytes (present entry (List.mem_of_find?_eq_some isEntry))

theorem isPresent_ofNumber (number : Nat) :
    ∀ character ∈ ofNumber number, isPresent character = true := by
  unfold ofNumber
  split
  · rename_i code isCode
    have present : ∀ pair ∈ replacedNumbers, isPresent (Char.ofNat pair.2) = true := by decide
    obtain ⟨_, _, isTable, _⟩ := List.lookup_eq_some_iff.mp isCode
    have pairMem : (number, code) ∈ replacedNumbers :=
      isTable ▸ List.mem_append_right _ List.mem_cons_self
    exact List.forall_mem_singleton.mpr (present _ pairMem)
  · rename_i notReplaced
    split_ifs with isMissing isDropped
    · exact List.forall_mem_singleton.mpr (by decide)
    · exact nofun
    · refine List.forall_mem_singleton.mpr (bne_iff_ne.mpr fun isNull => ?_)
      have isValid : number.isValidChar := by
        simp only [Bool.or_eq_true, Bool.and_eq_true, decide_eq_true_eq, not_or, not_and,
          Nat.not_le, Nat.not_lt] at isMissing
        unfold Nat.isValidChar
        omega
      have isZero : number = 0 := by
        rw [Char.ofNat, dif_pos isValid] at isNull
        exact congrArg Char.toNat isNull
      subst isZero
      contradiction

theorem isPresent_numbered? {base opening length : Nat} {text meaning : List Char}
    (found : numbered? base opening text = some (length, meaning)) :
    ∀ character ∈ meaning, isPresent character = true := by
  unfold numbered? at found
  split at found
  · contradiction
  · rename_i number _ _ _
    obtain ⟨_, rfl⟩ := Prod.mk.inj (Option.some.inj found)
    exact isPresent_ofNumber number

theorem isPresent_longestName? {name meaning : List Char} {length : Nat}
    (present : ∀ character ∈ name, isPresent character = true)
    (found : longestName? name length = some meaning) :
    ∀ character ∈ meaning, isPresent character = true := by
  induction length with
  | zero => contradiction
  | succ length ih =>
      cases length with
      | zero => contradiction
      | succ length =>
          rw [longestName?] at found
          split at found
          · rename_i known isKnown
            obtain rfl := Option.some.inj found
            exact List.forall_mem_append.mpr
              ⟨isPresent_ofName? isKnown, fun _ dropped => present _ (List.mem_of_mem_drop dropped)⟩
          · exact ih found

theorem isPresent_named? {length : Nat} {text meaning : List Char}
    (present : ∀ character ∈ text, isPresent character = true)
    (found : named? text = some (length, meaning)) :
    ∀ character ∈ meaning, isPresent character = true := by
  unfold named? at found
  split at found
  · contradiction
  · dsimp only at found
    split_ifs at found
    obtain ⟨_, rfl⟩ := Prod.mk.inj (Option.some.inj found)
    split
    · rename_i isKnown
      exact isPresent_ofName? isKnown
    · have taken (count : Nat) : ∀ character ∈ text.take count, isPresent character = true :=
        fun _ isTaken => present _ (List.mem_of_mem_take isTaken)
      generalize isLongest : longestName? _ _ = longest?
      cases longest? with
      | none => exact List.forall_mem_cons.mpr ⟨rfl, taken _⟩
      | some meaning => exact isPresent_longestName? (taken _) isLongest

theorem isPresent_at? {length : Nat} {text meaning : List Char}
    (present : ∀ character ∈ text, isPresent character = true)
    (found : at? text = some (length, meaning)) :
    ∀ character ∈ meaning, isPresent character = true := by
  unfold at? at found
  split at found
  · exact isPresent_numbered? found
  · exact isPresent_numbered? found
  · exact isPresent_numbered? found
  · exact isPresent_named? present found

theorem isPresent_decodeFrom {read : Nat} {text : List Char}
    (present : ∀ character ∈ text, isPresent character = true) :
    ∀ character ∈ decodeFrom read text, isPresent character = true := by
  induction text generalizing read with
  | nil => cases read <;> exact nofun
  | cons first text ih =>
      obtain ⟨isFirst, present⟩ := List.forall_mem_cons.mp present
      have rest {read : Nat} : ∀ character ∈ decodeFrom read text, isPresent character = true :=
        ih present
      cases read with
      | succ read => exact rest
      | zero =>
          rw [decodeFrom]
          split
          · split
            · rename_i found
              exact List.forall_mem_append.mpr ⟨isPresent_at? present found, rest⟩
            · exact List.forall_mem_cons.mpr ⟨isFirst, rest⟩
          · exact List.forall_mem_cons.mpr ⟨isFirst, rest⟩

end Phrasebook.Text.Reference

namespace Phrasebook.Phrase

open Markup

/-! ## Parts of a signature -/

section Parts

/-- A text that is written like a name. -/
def IsName (text : String) : Prop :=
  text.toList ≠ [] ∧ ∀ character ∈ text.toList, Measure.writesName character = true

theorem IsName.notMem {name : String} (isName : IsName name) {sign : Char}
    (notWritten : Measure.writesName sign = false) : sign ∉ name.toList := by
  intro isThere
  have written := isName.2 sign isThere
  rw [notWritten] at written
  contradiction

/-- A text that can stand in a list that is separated by commas, in front of a null character. -/
structure IsListable (text : String) : Prop where
  present : text.toList ≠ []
  noComma : ',' ∉ text.toList
  noNull : '\u0000' ∉ text.toList

theorem IsName.isListable {name : String} (isName : IsName name) : IsListable name where
  present := isName.1
  noComma := isName.notMem (by decide)
  noNull := isName.notMem (by decide)

/-- The last separator is not behind another one. -/
theorem eq_nil_of_cons_append {α : Type} {separator : α} {between backs lasts : List α}
    (inBacks : separator ∉ backs) (same : separator :: backs = between ++ separator :: lasts) :
    between = [] := by
  cases between with
  | nil => rfl
  | cons first between =>
      have isRest : backs = between ++ separator :: lasts := (List.cons.inj same).2
      exact absurd (isRest ▸ List.mem_append_right between List.mem_cons_self) inBacks

/-- A separator that is in neither of the last parts tells the parts. -/
theorem append_cons_inj {α : Type} {separator : α} {fronts others backs lasts : List α}
    (inBacks : separator ∉ backs) (inLasts : separator ∉ lasts)
    (same : fronts ++ [separator] ++ backs = others ++ [separator] ++ lasts) :
    fronts = others ∧ backs = lasts := by
  rw [List.append_assoc, List.append_assoc] at same
  rcases List.append_eq_append_iff.mp same with
    ⟨between, isFront, isRest⟩ | ⟨between, isFront, isRest⟩
  · obtain rfl := eq_nil_of_cons_append inBacks isRest
    exact ⟨by simpa using isFront.symm, (List.cons.inj isRest).2⟩
  · obtain rfl := eq_nil_of_cons_append inLasts isRest
    exact ⟨by simpa using isFront, (List.cons.inj isRest).2.symm⟩

theorem mem_toList_intercalate {separator : String} {texts : List String} {character : Char}
    (isThere : character ∈ (separator.intercalate texts).toList) :
    character ∈ separator.toList ∨ ∃ text ∈ texts, character ∈ text.toList := by
  induction texts with
  | nil => simp at isThere
  | cons text texts ih =>
      obtain _ | ⟨second, others⟩ := texts
      · exact .inr ⟨text, by simp, by simpa using isThere⟩
      · rw [String.intercalate_cons_cons, String.toList_append, String.toList_append,
          List.mem_append, List.mem_append] at isThere
        rcases isThere with (isFirst | isSeparator) | isLater
        · exact .inr ⟨text, List.mem_cons_self, isFirst⟩
        · exact .inl isSeparator
        · refine (ih isLater).imp_right fun ⟨other, otherMem, inOther⟩ => ?_
          exact ⟨other, List.mem_cons_of_mem text otherMem, inOther⟩

/-- The parts between commas that are not empty are the texts that were joined. -/
theorem filter_splitOn_intercalate {texts : List String}
    (areListable : ∀ text ∈ texts, IsListable text) :
    ((",".intercalate texts).toList.splitOn ',').filter (!·.isEmpty) = texts.map String.toList := by
  have comma : ",".toList = [','] := rfl
  rw [String.toList_intercalate, comma]
  cases texts with
  | nil => rfl
  | cons text texts =>
      have apart : ∀ part ∈ (text :: texts).map String.toList, ',' ∉ part :=
        List.forall_mem_map.mpr fun other otherMem => (areListable other otherMem).noComma
      rw [List.splitOn_intercalate ',' apart (by simp), List.filter_eq_self]
      refine List.forall_mem_map.mpr fun other otherMem => ?_
      simpa using (areListable other otherMem).present

/-- Texts that can be listed are told by the list of them. -/
theorem intercalate_inj {texts others : List String}
    (areListable : ∀ text ∈ texts, IsListable text) (areOthers : ∀ text ∈ others, IsListable text)
    (same : ",".intercalate texts = ",".intercalate others) : texts = others := by
  have parts := filter_splitOn_intercalate areListable
  rw [same, filter_splitOn_intercalate areOthers] at parts
  exact (List.map_injective_iff.mpr (fun _ _ => String.toList_inj.mp) parts).symm

/-- A list of texts holds no null character if none of them does. -/
theorem notMem_intercalate {texts : List String} (areListable : ∀ text ∈ texts, IsListable text) :
    '\u0000' ∉ (",".intercalate texts).toList := by
  intro isThere
  rcases mem_toList_intercalate isThere with isComma | ⟨text, textMem, inText⟩
  · simp at isComma
  · exact (areListable text textMem).noNull inText

theorem toList_signatureOf (normal context : String) (dependencies : List String) :
    (signatureOf normal context dependencies).toList =
      normal.toList ++ ['\u0000'] ++ context.toList ++ ['\u0000'] ++
        (",".intercalate dependencies).toList := by
  have separator : "\x00".toList = ['\u0000'] := rfl
  simp only [signatureOf, String.toList_append, separator]

theorem signatureOf_back_inj {normal other context otherContext : String}
    {dependencies others : List String}
    (areListable : ∀ name ∈ dependencies, IsListable name)
    (areOthers : ∀ name ∈ others, IsListable name)
    (same : signatureOf normal context dependencies = signatureOf other otherContext others) :
    normal.toList ++ ['\u0000'] ++ context.toList =
        other.toList ++ ['\u0000'] ++ otherContext.toList ∧ dependencies = others := by
  have sameText := congrArg String.toList same
  rw [toList_signatureOf, toList_signatureOf] at sameText
  obtain ⟨sameFront, sameNames⟩ := append_cons_inj (notMem_intercalate areListable)
    (notMem_intercalate areOthers) sameText
  exact ⟨sameFront, intercalate_inj areListable areOthers (String.toList_inj.mp sameNames)⟩

/-- The parts of a signature, provided that the context holds no null character and all
dependencies are names. -/
theorem signatureOf_inj {normal other context otherContext : String}
    {dependencies others : List String}
    (present : '\u0000' ∉ context.toList) (otherPresent : '\u0000' ∉ otherContext.toList)
    (areNames : ∀ name ∈ dependencies, IsName name) (areOthers : ∀ name ∈ others, IsName name)
    (same : signatureOf normal context dependencies = signatureOf other otherContext others) :
    normal = other ∧ context = otherContext ∧ dependencies = others := by
  obtain ⟨sameFront, sameNames⟩ := signatureOf_back_inj
    (fun name nameMem => (areNames name nameMem).isListable)
    (fun name nameMem => (areOthers name nameMem).isListable) same
  obtain ⟨sameNormal, sameContext⟩ := append_cons_inj present otherPresent sameFront
  exact ⟨String.toList_inj.mp sameNormal, String.toList_inj.mp sameContext, sameNames⟩

end Parts

/-! ## Names that are found -/

section Findings

variable {tag : String} {role : Role} {line foundLine : Nat} {name : String}

theorem isName_of_leaf {kind : Kind} {text : List Char} (legible : (Tree.leaf kind text).Legible)
    (solid : (Tree.leaf kind text).Solid) (named : kind.isName = true) :
    IsName (String.ofList text) := by
  obtain ⟨_, written⟩ | _ := legible
  rw [IsName, String.toList_ofList]
  exact ⟨Tree.solid_leaf_iff.mp solid, written named⟩

theorem isName_of_ownName? {tree : Tree} (legible : tree.Legible) (solid : tree.Solid)
    (own : ownName? role tree = some name) : IsName name := by
  unfold ownName? at own
  split at own
  · split at own
    · split at own
      · exact Option.some.inj own ▸ isName_of_leaf legible solid rfl
      · contradiction
    · contradiction
    · exact Option.some.inj own ▸ isName_of_leaf legible solid rfl
  · split at own
    · exact Option.some.inj own ▸ isName_of_leaf legible solid rfl
    · contradiction
  · exact Option.some.inj own ▸ isName_of_leaf legible solid rfl
  · contradiction

theorem isName_of_mem_ownFindings {tree : Tree} (legible : tree.Legible) (solid : tree.Solid)
    (isOwn : .name name ∈ ownFindings tag role tree) : IsName name := by
  unfold ownFindings at isOwn
  split at isOwn
  · exact nomatch List.mem_singleton.mp isOwn
  · split at isOwn
    · rename_i own
      obtain rfl := Finding.name.inj (List.mem_singleton.mp isOwn)
      exact isName_of_ownName? legible solid own
    · cases isOwn

mutual

theorem isName_of_mem_findings {role : Role} {line : Nat} (tree : Tree)
    (legible : tree.Legible) (solid : tree.Solid)
    (isFound : (foundLine, .name name) ∈ findings tag role line tree) : IsName name := by
  cases tree with
  | leaf kind text =>
      rw [findings] at isFound
      obtain ⟨_, isOwn, same⟩ := List.mem_map.mp isFound
      obtain ⟨_, rfl⟩ := Prod.mk.inj same
      exact isName_of_mem_ownFindings legible solid isOwn
  | node kind children =>
      rw [findings] at isFound
      rcases List.mem_append.mp isFound with isHere | isBelow
      · obtain ⟨_, isOwn, same⟩ := List.mem_map.mp isHere
        obtain ⟨_, rfl⟩ := Prod.mk.inj same
        exact isName_of_mem_ownFindings legible solid isOwn
      · exact isName_of_mem_findingsAll children (fun _ => legible.of_mem_children)
          (fun _ => solid.of_mem_children) isBelow

theorem isName_of_mem_findingsAll {around : Kind} {role : Role} {isFirst : Bool} {line : Nat}
    (trees : List Tree)
    (legible : ∀ tree ∈ trees, tree.Legible) (solid : ∀ tree ∈ trees, tree.Solid)
    (isFound : (foundLine, .name name) ∈ findingsAll tag around role isFirst line trees) :
    IsName name := by
  cases trees with
  | nil =>
      rw [findingsAll] at isFound
      cases isFound
  | cons tree trees =>
      rw [findingsAll] at isFound
      obtain ⟨treeLegible, restLegible⟩ := List.forall_mem_cons.mp legible
      obtain ⟨treeSolid, restSolid⟩ := List.forall_mem_cons.mp solid
      rcases List.mem_append.mp isFound with isHere | isLater
      · exact isName_of_mem_findings tree treeLegible treeSolid isHere
      · exact isName_of_mem_findingsAll trees restLegible restSolid isLater

end

theorem isName_of_mem_childFindings {trees : List Tree} (legible : ∀ tree ∈ trees, tree.Legible)
    (solid : ∀ tree ∈ trees, tree.Solid)
    (isFound : (foundLine, .name name) ∈ childFindings tag line (Tree.childrenOf trees)) :
    IsName name := by
  induction trees generalizing line with
  | nil => cases isFound
  | cons tree trees ih =>
      obtain ⟨treeLegible, restLegible⟩ := List.forall_mem_cons.mp legible
      obtain ⟨treeSolid, restSolid⟩ := List.forall_mem_cons.mp solid
      rw [Tree.childrenOf] at isFound
      split_ifs at isFound
      · rcases List.mem_append.mp isFound with isHere | isLater
        · exact isName_of_mem_findings tree treeLegible treeSolid isHere
        · exact ih restLegible restSolid isLater
      · rcases List.mem_append.mp isFound with isHere | isLater
        · exact isName_of_mem_findings tree treeLegible treeSolid isHere
        · exact ih restLegible restSolid isLater
      · obtain ⟨moved, same⟩ :=
          exists_childFindings_consText tag line tree.text (Tree.childrenOf trees)
        exact ih restLegible restSolid (same ▸ isFound)

theorem mem_children_of_mem_inner {element part : Tree} (partMem : part ∈ element.inner) :
    part ∈ element.children := by
  unfold Tree.inner at partMem
  split at partMem
  · exact List.mem_of_mem_filter partMem
  · cases partMem

theorem isName_of_namesNeeded {element : Tree} {names : List String} (legible : element.Legible)
    (solid : element.Solid) (done : namesNeeded tag line element.elementChildren = .ok names) :
    ∀ name ∈ names, IsName name := by
  unfold namesNeeded at done
  dsimp only at done
  split at done
  · contradiction
  · obtain rfl := Except.ok.inj done
    intro name nameMem
    have isFoundName := mem_sortedTexts.mp nameMem
    obtain ⟨⟨foundLine, found⟩, isFound, isNamed⟩ := List.mem_filterMap.mp isFoundName
    cases found with
    | forbidden fault => cases isNamed
    | name other =>
        obtain rfl := Option.some.inj isNamed
        exact isName_of_mem_childFindings
          (fun _ partMem => legible.of_mem_children (mem_children_of_mem_inner partMem))
          (fun _ partMem => solid.of_mem_children (mem_children_of_mem_inner partMem)) isFound

end Findings

/-! ## Extracted phrases -/

/-- What is known of every part of a script that was read. -/
structure IsPart (tree : Tree) : Prop where
  legible : tree.Legible
  solid : tree.Solid
  tidy : tree.Tidy

section Remarks

variable {origin : Origin} {element site child : Site} {remarks next : Remarks}

theorem IsPart.of_mem_children {tree part : Tree} (isPart : IsPart tree)
    (partMem : part ∈ tree.children) : IsPart part where
  legible := isPart.legible.of_mem_children partMem
  solid := isPart.solid.of_mem_children partMem
  tidy := isPart.tidy.of_mem_children partMem

theorem IsPart.of_mem_contents (isPart : IsPart site.tree) (childMem : child ∈ site.contents) :
    IsPart child.tree :=
  isPart.of_mem_children (Site.tree_mem_children (List.mem_of_mem_filter childMem))

theorem IsPart.of_mem_attributes (isPart : IsPart element.tree)
    (siteMem : site ∈ element.attributes) : IsPart site.tree := by
  have opening : IsPart element.opening.tree := by
    unfold Site.opening
    split
    · exact isPart
    · cases found : element.children.find? (·.tree.kind == .openingTag) with
      | none => exact isPart
      | some opening =>
          have openingMem := List.mem_of_find?_eq_some found
          exact isPart.of_mem_children (Site.tree_mem_children openingMem)
  exact opening.of_mem_contents (List.mem_of_mem_filter siteMem)

theorem isName_of_listedName {name : String} (isPart : IsPart site.tree)
    (done : origin.listedName site = .ok name) : IsName name := by
  obtain ⟨isIdentifier, rfl⟩ := Origin.listedName_eq_ok done
  have isLeaf := isPart.tidy.eq_leaf_of_isName (isIdentifier ▸ rfl)
  rw [isIdentifier] at isLeaf
  exact isName_of_leaf (isLeaf ▸ isPart.legible) (isLeaf ▸ isPart.solid) rfl

theorem isName_of_listedDependencies {names : List String} (isPart : IsPart site.tree)
    (done : origin.listedDependencies site = .ok names) : ∀ name ∈ names, IsName name := by
  obtain ⟨value, array, isValue, isArray, done⟩ := Origin.listedDependencies_eq_ok done
  have valuePart := isPart.of_mem_contents (List.mem_of_getElem? isValue)
  have arrayPart := valuePart.of_mem_contents (List.mem_of_head? isArray)
  intro name nameMem
  obtain ⟨item, itemMem, _, isListed⟩ := exists_mem_zip_right (mapM_eq_ok_iff.mp done) nameMem
  exact isName_of_listedName (arrayPart.of_mem_contents itemMem) isListed

theorem present_of_givenContext {context : String} (isPart : IsPart site.tree)
    (done : origin.givenContext site = .ok context) : '\u0000' ∉ context.toList := by
  unfold Origin.givenContext at done
  split at done
  · exact absurd done Origin.refuse_ne_ok
  · rename_i value isValue
    have valuePart := isPart.of_mem_contents (List.mem_of_getElem? isValue)
    split at done
    · obtain ⟨text, isText, rfl⟩ := map_eq_ok_iff.mp done
      obtain rfl := Origin.text_eq_ok isText
      rw [String.toList_ofList, Literal.attributeMeaning, String.toList_ofList]
      intro isThere
      have unquoted : ∀ character ∈ Literal.unquote value.text, isPresent character = true := by
        intro character characterMem
        refine valuePart.legible.isPresent_of_mem_text character ?_
        exact List.mem_of_mem_drop ((List.dropLast_sublist _).subset characterMem)
      have present := Text.Reference.isPresent_decodeFrom unquoted _ isThere
      contradiction
    · exact absurd done Origin.refuse_ne_ok

/-- What attributes tell: the dependencies are names, and the context holds no null character. -/
structure Remarks.AreSound (remarks : Remarks) : Prop where
  dependencies : ∀ name ∈ remarks.dependencies, IsName name
  context : '\u0000' ∉ remarks.context.toList

theorem Remarks.AreSound.remark (sound : remarks.AreSound) (isPart : IsPart site.tree)
    (done : origin.remark element remarks site = .ok next) : next.AreSound := by
  rcases (Origin.remark_eq_ok done).2 with
    ⟨_, names, listed, rfl⟩ | ⟨_, context, given, rfl⟩ | ⟨_, rfl⟩ | ⟨_, rfl⟩
  · have areNames := isName_of_listedDependencies isPart listed
    exact ⟨List.forall_mem_append.mpr ⟨sound.dependencies, areNames⟩, sound.context⟩
  · exact ⟨sound.dependencies, present_of_givenContext isPart given⟩
  · exact ⟨sound.dependencies, sound.context⟩
  · exact sound

theorem areSound_of_remarks (isPart : IsPart element.tree)
    (done : origin.remarks element = .ok remarks) : remarks.AreSound :=
  foldlM_preserves_of_mem Remarks.AreSound
    (fun siteMem sound added => sound.remark (isPart.of_mem_attributes siteMem) added)
    ⟨List.forall_mem_nil _, List.not_mem_nil⟩ done

end Remarks

/-- What an extracted phrase is identified by. -/
structure IsSigned (version : Version) (phrase : Phrase) : Prop where
  key : phrase.key = keyOf phrase.signature
  signature : phrase.signature = signatureOf
    (String.ofList (version.normalize phrase.body.toList)) phrase.context phrase.dependencies
  context : '\u0000' ∉ phrase.context.toList
  dependencies : ∀ name ∈ phrase.dependencies, IsName name

section Phrases

variable {origin : Origin} {tag : String} {element : Site} {phrase : Phrase}

theorem isName_of_childDependencies {names : List String} (isPart : IsPart element.tree)
    (done : origin.childDependencies tag element = .ok names) : ∀ name ∈ names, IsName name :=
  isName_of_namesNeeded isPart.legible isPart.solid (Origin.childDependencies_eq_ok done)

theorem isSigned_of_phrase {version : Version} (isPart : IsPart element.tree)
    (done : origin.phrase tag version element = .ok phrase) : IsSigned version phrase := by
  obtain ⟨_, _, _, _, _, _, remarked, isFound, rfl⟩ := Origin.phrase_eq_ok_iff.mp done
  have sound := areSound_of_remarks isPart remarked
  have areNames := isName_of_childDependencies isPart isFound
  refine ⟨rfl, rfl, sound.context, fun name nameMem => ?_⟩
  rcases List.mem_append.mp (mem_sortedTexts.mp nameMem) with isListed | isNeeded
  · exact sound.dependencies name isListed
  · exact areNames name isNeeded

theorem isSigned_of_phraseOf {version : Int} (isPart : IsPart element.tree)
    (done : origin.phraseOf tag version element = .ok phrase) :
    ∃ known, Version.ofNumber version = .ok known ∧ IsSigned known phrase := by
  obtain ⟨known, isKnown, _, done⟩ := Origin.phraseOf_eq_ok_iff.mp done
  exact ⟨known, isKnown, isSigned_of_phrase isPart done⟩

/-- Every marked element of a script that was read is a part of it. -/
theorem isPart_of_mem_marked {script : Tree} (isRead : origin.script = .ok script)
    (elementMem : element ∈ marked tag script) : IsPart element.tree := by
  obtain ⟨walkMem, tagged⟩ := List.mem_filter.mp elementMem
  have notProgram : element.tree.kind ≠ .program := by
    intro isProgram
    have isElement := Build.isElement_of_isTagged tagged
    rw [isProgram] at isElement
    contradiction
  have isRead := Origin.script_eq_ok isRead
  exact {
    legible := (Script.legible_of_read isRead).of_mem_walk element walkMem
    solid := Build.solid_of_mem_walk_root (Script.isScriptOf_of_read isRead) walkMem notProgram
    tidy := (Script.tidy_of_read isRead).of_mem_walk element walkMem }

/-- The phrases of a source tell in their signatures what they depend on and their context. -/
theorem isSigned_of_phrases {version : Int} {phrases : List Phrase}
    (done : origin.phrases tag version = .ok phrases) :
    ∀ phrase ∈ phrases, ∃ known, Version.ofNumber version = .ok known ∧ IsSigned known phrase := by
  obtain ⟨script, isRead, done⟩ := bind_eq_ok_iff.mp done
  intro phrase phraseMem
  obtain ⟨element, elementMem, _, extracted⟩ :=
    exists_mem_zip_right (mapM_eq_ok_iff.mp done) phraseMem
  exact isSigned_of_phraseOf (isPart_of_mem_marked isRead elementMem) extracted

/-- Phrases with the same signature have the same parts. -/
theorem IsSigned.eq_of_signature {version other : Version} {left right : Phrase}
    (isLeft : IsSigned version left) (isRight : IsSigned other right)
    (same : left.signature = right.signature) :
    left.context = right.context ∧ left.dependencies = right.dependencies := by
  rw [isLeft.signature, isRight.signature] at same
  exact (signatureOf_inj isLeft.context isRight.context isLeft.dependencies isRight.dependencies
    same).2

end Phrases

end Phrasebook.Phrase
