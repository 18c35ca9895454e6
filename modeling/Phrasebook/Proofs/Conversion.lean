import Phrasebook.Markup.Pattern
import Phrasebook.Proofs.Characters
import Phrasebook.Proofs.Outcome

/-!
# What conversions keep

A tree is solid if all its leaves hold text and all its nodes have children, so
that it covers a part of the source that is not empty.  In a tidy tree only
markup stands between the tags of an element, so that text and code are apart,
and in a paired tree the two tags are the first and the last part of an element.
In a bracketed tree every tag begins and ends with a sign.  In a legible tree names
consist of the characters that names are written with.  Giving a tree its final
kind changes neither its text nor that it is solid, tidy, paired, bracketed or
legible.
-/

namespace Phrasebook.Markup

namespace Kind

/-- The kinds of what holds no code. -/
def isPlain : Kind → Bool
  | .elementText | .comment | .blank => true
  | _ => false

/-- The kinds of the names that code may refer to something by. -/
def isName : Kind → Bool
  | .identifier | .propertyIdentifier | .shorthandIdentifier => true
  | _ => false

/-- The kinds of names and of words that may turn out to be names. -/
def isWord : Kind → Bool
  | .symbol | .importWord => true
  | kind => kind.isName

/-- The kinds of what an element consists of. -/
def isMarkup : Kind → Bool
  | .openingTag | .closingTag | .container => true
  | kind => kind.isElement || kind.isPlain

/-- The kinds of the tags of an element. -/
def isTag : Kind → Bool
  | .openingTag | .closingTag => true
  | _ => false

/-- The kinds of what is written in angle brackets. -/
def isBracketed : Kind → Bool
  | .openingTag | .closingTag | .selfClosingElement => true
  | _ => false

/-- The kinds of node that conversions make. -/
def isConverted : Kind → Bool
  | .objectPattern | .arrayPattern | .assignmentPattern | .restPattern | .pairPattern => true
  | .objectAssignmentPattern | .formalParameters => true
  | _ => false

theorem ne_of_isConverted {kind other : Kind} (converted : kind.isConverted = true)
    (different : other.isConverted = false) : kind ≠ other := by
  rintro rfl
  rw [converted] at different
  contradiction

theorem not_isLeaf_of_isConverted {kind : Kind} (converted : kind.isConverted = true) :
    (kind.isPlain || kind.isName) = false := by
  cases kind <;> first | rfl | contradiction

end Kind

namespace Tree

/-- A tree without empty parts.  Text literals are always leaves. -/
inductive Solid : Tree → Prop
  | leaf {kind : Kind} {text : List Char} : text ≠ [] → Solid (.leaf kind text)
  | node {kind : Kind} {children : List Tree} : kind ≠ .string → children ≠ [] →
      (∀ child ∈ children, Solid child) → Solid (.node kind children)

section Solid

variable {kind : Kind} {children : List Tree}

@[simp] theorem solid_leaf_iff {text : List Char} : Solid (.leaf kind text) ↔ text ≠ [] :=
  ⟨fun | .leaf present => present, .leaf⟩

@[simp] theorem solid_node_iff :
    Solid (.node kind children) ↔
      kind ≠ .string ∧ children ≠ [] ∧ ∀ child ∈ children, Solid child :=
  ⟨fun | .node notString present solid => ⟨notString, present, solid⟩,
    fun ⟨notString, present, solid⟩ => .node notString present solid⟩

theorem Solid.of_mem_children {tree child : Tree} (solid : tree.Solid)
    (childMem : child ∈ tree.children) : child.Solid := by
  cases solid with
  | leaf => cases childMem
  | node _ _ childSolid => exact childSolid child childMem

theorem Solid.text_ne_nil {tree : Tree} (solid : tree.Solid) : tree.text ≠ [] := by
  induction solid with
  | leaf present => simpa using present
  | @node kind children _ present _ ih =>
      obtain _ | ⟨child, others⟩ := children
      · contradiction
      · rw [text_node, textAll_cons]
        exact List.append_ne_nil_of_left_ne_nil (ih child List.mem_cons_self) _

end Solid

/-- A tree whose elements consist of markup.  Names and what holds no code are always leaves. -/
inductive Tidy : Tree → Prop
  | leaf {kind : Kind} {text : List Char} : Tidy (.leaf kind text)
  | node {kind : Kind} {children : List Tree} : (kind.isPlain || kind.isName) = false →
      (kind = .element → ∀ child ∈ children, child.kind.isMarkup = true) →
      (∀ child ∈ children, Tidy child) → Tidy (.node kind children)

theorem Tidy.of_mem_children {tree child : Tree} (tidy : tree.Tidy)
    (childMem : child ∈ tree.children) : child.Tidy := by
  cases tidy with
  | leaf => cases childMem
  | node _ _ childTidy => exact childTidy child childMem

/-- Whether trees stand between an opening tag and a closing tag. -/
def IsEnclosed (trees : List Tree) : Prop :=
  ∃ opening inner closing, trees = opening :: (inner ++ [closing]) ∧
    opening.kind = .openingTag ∧ closing.kind = .closingTag ∧
    ∀ tree ∈ inner, tree.kind.isTag = false

/-- A tree whose elements have two tags, one at each end. -/
inductive Paired : Tree → Prop
  | leaf {kind : Kind} {text : List Char} : Paired (.leaf kind text)
  | node {kind : Kind} {children : List Tree} : (kind = .element → IsEnclosed children) →
      (∀ child ∈ children, Paired child) → Paired (.node kind children)

theorem Paired.of_mem_children {tree child : Tree} (paired : tree.Paired)
    (childMem : child ∈ tree.children) : child.Paired := by
  cases paired with
  | leaf => cases childMem
  | node _ childPaired => exact childPaired child childMem

/-- Whether the first of some trees is a sign that begins with `<`, and the last one is a sign that
ends with `>`. -/
def AreBracketed (trees : List Tree) : Prop :=
  ∃ opening inner closing, trees = .leaf .symbol opening :: (inner ++ [.leaf .symbol closing]) ∧
    opening.head? = some '<' ∧ closing.getLast? = some '>'

/-- A tree whose tags are written in angle brackets.  Elements and tags are never leaves. -/
inductive Bracketed : Tree → Prop
  | leaf {kind : Kind} {text : List Char} : (kind.isBracketed || kind.isElement) = false →
      Bracketed (.leaf kind text)
  | node {kind : Kind} {children : List Tree} : (kind.isBracketed = true → AreBracketed children) →
      (∀ child ∈ children, Bracketed child) → Bracketed (.node kind children)

theorem Bracketed.of_mem_children {tree child : Tree} (bracketed : tree.Bracketed)
    (childMem : child ∈ tree.children) : child.Bracketed := by
  cases bracketed with
  | leaf => cases childMem
  | node _ childBracketed => exact childBracketed child childMem

/-- Whether a tree is not a sign: words consist of the characters that names are written with. -/
def isNameable : Tree → Bool
  | leaf kind text => !kind.isWord || text.all Measure.writesName
  | node _ _ => true

/-- A tree whose names consist of the characters that names are written with, and which holds no
null character.  The first part of a call can become a name. -/
inductive Legible : Tree → Prop
  | leaf {kind : Kind} {text : List Char} : (∀ character ∈ text, isPresent character = true) →
      (kind.isName = true → ∀ character ∈ text, Measure.writesName character = true) →
      Legible (.leaf kind text)
  | node {kind : Kind} {children : List Tree} :
      (kind = .call → ∀ first, children.head? = some first → first.isNameable = true) →
      (∀ child ∈ children, Legible child) → Legible (.node kind children)

theorem Legible.of_mem_children {tree child : Tree} (legible : tree.Legible)
    (childMem : child ∈ tree.children) : child.Legible := by
  cases legible with
  | leaf => cases childMem
  | node _ childLegible => exact childLegible child childMem

/-- What every conversion keeps of a tree. -/
structure Keeps (tree result : Tree) : Prop where
  text : result.text = tree.text
  solid : tree.Solid → result.Solid
  tidy : tree.Tidy → result.Tidy
  legible : tree.Legible → result.Legible
  nameable : tree.isNameable = true → result.isNameable = true
  paired : tree.Paired → result.Paired
  bracketed : tree.Bracketed → result.Bracketed

namespace Keeps

theorem refl (tree : Tree) : Keeps tree tree :=
  ⟨rfl, id, id, id, id, id, id⟩

/-- A leaf of another kind, which is a name or a word only if it was one before. -/
theorem leaf {kind other : Kind} (text : List Char)
    (named : other.isName = true → kind.isName = true)
    (worded : other.isWord = true → kind.isWord = true)
    (noMarkup : (other.isBracketed || other.isElement) = false) :
    Keeps (.leaf kind text) (.leaf other text) where
  text := by simp
  solid := by simp
  tidy _ := .leaf
  legible legible := by
    obtain ⟨present, written⟩ | _ := legible
    exact .leaf present fun isName => written (named isName)
  nameable nameable := by
    cases isWord : other.isWord with
    | false => rw [isNameable, isWord, Bool.not_false, Bool.true_or]
    | true =>
        rw [isNameable, worded isWord] at nameable
        rw [isNameable, isWord]
        exact nameable
  paired _ := .leaf
  bracketed _ := .leaf noMarkup

theorem textAll_eq {trees results : List Tree} (kept : List.Forall₂ Keeps trees results) :
    textAll results = textAll trees := by
  induction kept with
  | nil => rfl
  | cons first _ ih => rw [textAll_cons, textAll_cons, first.text, ih]

/-- What is kept of every tree holds of all results if it holds of all trees. -/
theorem forall_mem {holds : Tree → Prop} {trees results : List Tree}
    (kept : List.Forall₂ Keeps trees results)
    (keeps : ∀ {tree result : Tree}, Keeps tree result → holds tree → holds result)
    (all : ∀ tree ∈ trees, holds tree) : ∀ result ∈ results, holds result := by
  intro result resultMem
  obtain ⟨tree, treeMem, _, isKept⟩ := exists_mem_zip_right kept resultMem
  exact keeps isKept (all tree treeMem)

/-- Tidy trees make a tidy node of any kind that conversions make. -/
theorem tidy_node {other : Kind} {results : List Tree} (converted : other.isConverted = true)
    (tidy : ∀ result ∈ results, result.Tidy) : Tidy (.node other results) :=
  .node (Kind.not_isLeaf_of_isConverted converted)
    (fun isElement => absurd isElement (Kind.ne_of_isConverted converted rfl)) tidy

/-- Paired trees make a paired node of any kind that conversions make. -/
theorem paired_node {other : Kind} {results : List Tree} (converted : other.isConverted = true)
    (paired : ∀ result ∈ results, result.Paired) : Paired (.node other results) :=
  .node (fun isElement => absurd isElement (Kind.ne_of_isConverted converted rfl)) paired

/-- Bracketed trees make a bracketed node of any kind that conversions make. -/
theorem bracketed_node {other : Kind} {results : List Tree} (converted : other.isConverted = true)
    (bracketed : ∀ result ∈ results, result.Bracketed) : Bracketed (.node other results) := by
  refine .node (fun isBracketed => ?_) bracketed
  cases other <;> contradiction

/-- Legible trees make a legible node of any kind that conversions make. -/
theorem legible_node {other : Kind} {results : List Tree} (converted : other.isConverted = true)
    (legible : ∀ result ∈ results, result.Legible) : Legible (.node other results) :=
  .node (fun isCall => absurd isCall (Kind.ne_of_isConverted converted rfl)) legible

theorem node {kind other : Kind} {children results : List Tree}
    (converted : other.isConverted = true) (kept : List.Forall₂ Keeps children results) :
    Keeps (.node kind children) (.node other results) where
  text := by rw [text_node, text_node, textAll_eq kept]
  solid solid := by
    obtain ⟨_, present, childSolid⟩ := solid_node_iff.mp solid
    refine .node (Kind.ne_of_isConverted converted rfl) (fun empty => present ?_)
      (forall_mem kept Keeps.solid childSolid)
    rwa [empty, List.forall₂_nil_right_iff] at kept
  tidy tidy := by
    have childTidy (child : Tree) : child ∈ children → child.Tidy := tidy.of_mem_children
    exact tidy_node converted (forall_mem kept Keeps.tidy childTidy)
  legible legible := by
    have childLegible (child : Tree) : child ∈ children → child.Legible := legible.of_mem_children
    exact legible_node converted (forall_mem kept Keeps.legible childLegible)
  nameable _ := rfl
  paired paired := by
    have childPaired (child : Tree) : child ∈ children → child.Paired := paired.of_mem_children
    exact paired_node converted (forall_mem kept Keeps.paired childPaired)
  bracketed bracketed := by
    have childBracketed (child : Tree) : child ∈ children → child.Bracketed :=
      bracketed.of_mem_children
    exact bracketed_node converted (forall_mem kept Keeps.bracketed childBracketed)

/-- A node whose children stay as they are. -/
theorem rename {kind other : Kind} (children : List Tree) (converted : other.isConverted = true) :
    Keeps (.node kind children) (.node other children) :=
  node converted (List.forall₂_same.mpr fun child _ => refl child)

end Keeps

/-! ## Patterns -/

mutual

theorem keeps_asPattern (tree : Tree) {result : Tree} (read : tree.asPattern = some result) :
    Keeps tree result := by
  unfold asPattern at read
  split at read
  case h_1 | h_2 | h_4 | h_5 | h_8 | h_9 =>
    obtain rfl := Option.some.inj read
    exact .refl _
  case h_3 | h_14 => contradiction
  case h_6 | h_7 | h_11 =>
    obtain ⟨results, parts, rfl⟩ := Option.map_eq_some_iff.mp read
    exact .node rfl (keeps_asPatternsAll _ parts)
  case h_10 =>
    split at read
    · contradiction
    · obtain rfl := Option.some.inj read
      exact .rename _ rfl
  case h_12 =>
    obtain ⟨results, parts, rfl⟩ := Option.map_eq_some_iff.mp read
    exact .node rfl (.cons (.refl _) (keeps_asPatternsAll _ parts))
  case h_13 =>
    obtain rfl := Option.some.inj read
    exact .node rfl
      (.cons (.leaf _ nofun nofun rfl) (List.forall₂_same.mpr fun child _ => .refl child))

theorem keeps_asPatternsAll (trees : List Tree) {results : List Tree}
    (read : asPatternsAll trees = some results) : List.Forall₂ Keeps trees results := by
  unfold asPatternsAll at read
  split at read
  case h_1 =>
    obtain rfl := Option.some.inj read
    exact .nil
  case h_2 =>
    obtain ⟨others, parts, rfl⟩ := Option.map_eq_some_iff.mp read
    exact .cons (.leaf _ nofun nofun rfl) (keeps_asPatternsAll _ parts)
  case h_3 =>
    split at read
    · split at read
      · rename_i first others
        obtain rfl := Option.some.inj read
        exact .cons (keeps_asPattern _ first) (keeps_asPatternsAll _ others)
      · contradiction
    · obtain ⟨others, parts, rfl⟩ := Option.map_eq_some_iff.mp read
      exact .cons (.refl _) (keeps_asPatternsAll _ parts)

end

/-! ## Parameter lists -/

section Splice

variable {trees : List Tree}

/-- The trees that stand in the place of one tree of a parameter list. -/
theorem spliceSequences_cons (tree : Tree) (trees : List Tree) :
    spliceSequences (tree :: trees) = spliceSequences [tree] ++ spliceSequences trees := by
  simp [spliceSequences]

theorem textAll_spliceSequences (trees : List Tree) :
    textAll (spliceSequences trees) = textAll trees := by
  induction trees with
  | nil => rfl
  | cons tree trees ih =>
      rw [spliceSequences_cons, textAll_append, ih, textAll_cons]
      congr 1
      unfold spliceSequences
      rw [List.flatMap_singleton]
      split <;> simp

theorem mem_spliceSequences {part : Tree} (partMem : part ∈ spliceSequences trees) :
    part ∈ trees ∨ ∃ children, .node .sequence children ∈ trees ∧ part ∈ children := by
  obtain ⟨tree, treeMem, partMem⟩ := List.mem_flatMap.mp partMem
  split at partMem
  · rename_i children
    exact .inr ⟨children, treeMem, partMem⟩
  · rw [List.mem_singleton.mp partMem]
    exact .inl treeMem

/-- What holds of the children of a tree if it holds of the tree holds of all parts. -/
theorem forall_mem_spliceSequences {holds : Tree → Prop}
    (descends : ∀ {tree child : Tree}, holds tree → child ∈ tree.children → holds child)
    (all : ∀ tree ∈ trees, holds tree) : ∀ part ∈ spliceSequences trees, holds part := by
  intro part partMem
  rcases mem_spliceSequences partMem with isWhole | ⟨children, treeMem, isChild⟩
  · exact all part isWhole
  · exact descends (all _ treeMem) isChild

/-- Solid trees have text, so splicing leaves some of them. -/
theorem spliceSequences_ne_nil (present : trees ≠ []) (solid : ∀ tree ∈ trees, tree.Solid) :
    spliceSequences trees ≠ [] := by
  obtain _ | ⟨tree, trees⟩ := trees
  · contradiction
  · intro empty
    have noText : textAll (tree :: trees) = [] := by
      rw [← textAll_spliceSequences, empty, textAll_nil]
    rw [textAll_cons, List.append_eq_nil_iff] at noText
    exact (solid tree List.mem_cons_self).text_ne_nil noText.1

end Splice

theorem keeps_asParameters {tree result : Tree} (read : tree.asParameters = some result) :
    Keeps tree result := by
  unfold asParameters at read
  split at read
  case h_3 => contradiction
  all_goals
    dsimp only at read
    split at read
    · obtain ⟨parts, patterns, rfl⟩ := Option.map_eq_some_iff.mp read
      have kept := keeps_asPatternsAll _ patterns
      constructor
      · rw [text_node, text_node, Keeps.textAll_eq kept, textAll_spliceSequences]
      · intro solid
        obtain ⟨_, present, childSolid⟩ := solid_node_iff.mp solid
        have partSolid := forall_mem_spliceSequences Solid.of_mem_children childSolid
        refine .node nofun (fun empty => ?_) (Keeps.forall_mem kept Keeps.solid partSolid)
        rw [empty, List.forall₂_nil_right_iff] at kept
        exact spliceSequences_ne_nil present childSolid kept
      · intro tidy
        have partTidy := forall_mem_spliceSequences Tidy.of_mem_children
          fun _ => tidy.of_mem_children
        exact Keeps.tidy_node rfl (Keeps.forall_mem kept Keeps.tidy partTidy)
      · intro legible
        have partLegible := forall_mem_spliceSequences Legible.of_mem_children
          fun _ => legible.of_mem_children
        exact Keeps.legible_node rfl (Keeps.forall_mem kept Keeps.legible partLegible)
      · exact fun _ => rfl
      · intro paired
        have partPaired := forall_mem_spliceSequences Paired.of_mem_children
          fun _ => paired.of_mem_children
        exact Keeps.paired_node rfl (Keeps.forall_mem kept Keeps.paired partPaired)
      · intro bracketed
        have partBracketed := forall_mem_spliceSequences Bracketed.of_mem_children
          fun _ => bracketed.of_mem_children
        exact Keeps.bracketed_node rfl (Keeps.forall_mem kept Keeps.bracketed partBracketed)
    · contradiction

/-! ## Other conversions -/

section Others

variable {tree result : Tree}

/-- The word that names a call can be a name, since it is the first part of the call. -/
theorem keeps_asNamedCall (read : tree.asNamedCall = some result) : Keeps tree result := by
  unfold asNamedCall at read
  split at read
  · rename_i word rest
    obtain rfl := Option.some.inj read
    constructor
    · simp
    · simp
    · intro tidy
      have childTidy (child : Tree) : child ∈ leaf .symbol word :: rest → child.Tidy :=
        tidy.of_mem_children
      exact .node rfl nofun
        (List.forall_mem_cons.mpr ⟨.leaf, (List.forall_mem_cons.mp childTidy).2⟩)
    · rintro (_ | ⟨nameable, childLegible⟩)
      obtain ⟨⟨present, _⟩ | _, restLegible⟩ := List.forall_mem_cons.mp childLegible
      have written : word.all Measure.writesName = true := nameable rfl _ rfl
      refine .node (fun _ first isFirst => ?_) (List.forall_mem_cons.mpr
        ⟨.leaf present fun _ => List.all_eq_true.mp written, restLegible⟩)
      obtain rfl := Option.some.inj isFirst
      exact written
    · exact fun _ => rfl
    · intro paired
      have childPaired (child : Tree) : child ∈ leaf .symbol word :: rest → child.Paired :=
        paired.of_mem_children
      exact .node nofun
        (List.forall_mem_cons.mpr ⟨.leaf, (List.forall_mem_cons.mp childPaired).2⟩)
    · intro bracketed
      have childBracketed (child : Tree) : child ∈ leaf .symbol word :: rest → child.Bracketed :=
        bracketed.of_mem_children
      exact .node nofun
        (List.forall_mem_cons.mpr ⟨.leaf rfl, (List.forall_mem_cons.mp childBracketed).2⟩)
  · contradiction

theorem keeps_asTarget (read : tree.asTarget = some result) : Keeps tree result := by
  unfold asTarget at read
  split at read
  · obtain rfl := Option.some.inj read
    exact .refl tree
  · split at read
    · exact keeps_asPattern tree read
    · contradiction

theorem keeps_asUpdatedTarget (read : tree.asUpdatedTarget = some result) :
    Keeps tree result := by
  unfold asUpdatedTarget at read
  split at read
  case h_6 => contradiction
  all_goals
    obtain rfl := Option.some.inj read
    exact .refl tree

theorem keeps_asBinding (read : tree.asBinding = some result) : Keeps tree result := by
  unfold asBinding at read
  split at read
  case h_5 => contradiction
  all_goals exact keeps_asPattern tree read

theorem keeps_asGrouping (read : tree.asGrouping = some result) : Keeps tree result := by
  unfold asGrouping at read
  split at read
  · split at read
    · split at read
      · contradiction
      · obtain rfl := Option.some.inj read
        exact .refl _
    · contradiction
  · contradiction

theorem keeps_asKeyword (read : tree.asKeyword = some result) : Keeps tree result := by
  unfold asKeyword at read
  split at read
  case h_4 => contradiction
  all_goals
    obtain rfl := Option.some.inj read
    exact .leaf _ nofun (fun _ => rfl) rfl

theorem keeps_asLabel (read : tree.asLabel = some result) : Keeps tree result := by
  unfold asLabel at read
  split at read
  · obtain rfl := Option.some.inj read
    exact .leaf _ nofun nofun rfl
  · contradiction

theorem keeps_asSegment (read : tree.asSegment = some result) : Keeps tree result := by
  unfold asSegment at read
  split at read
  · obtain ⟨_, same⟩ := Option.ite_none_left_eq_some.mp read
    obtain rfl := Option.some.inj same
    exact .leaf _ (fun _ => rfl) (fun _ => rfl) rfl
  · contradiction

theorem keeps_asShorthand (read : tree.asShorthand = some result) : Keeps tree result := by
  unfold asShorthand at read
  split at read
  · obtain ⟨_, same⟩ := Option.ite_none_left_eq_some.mp read
    obtain rfl := Option.some.inj same
    exact .leaf _ (fun _ => rfl) (fun _ => rfl) rfl
  · contradiction

theorem keeps_asSettled (read : tree.asSettled = some result) : Keeps tree result := by
  obtain ⟨_, same⟩ := Option.ite_none_left_eq_some.mp read
  obtain rfl := Option.some.inj same
  exact .refl tree

end Others

end Tree

/-- A conversion keeps the text of a tree and what the tree is: solid, tidy, legible, nameable,
paired or bracketed. -/
theorem Reading.keeps_apply {reading : Reading} {tree result : Tree}
    (read : reading.apply tree = some result) : Tree.Keeps tree result := by
  cases reading with
  | parameters => exact Tree.keeps_asParameters read
  | namedCall => exact Tree.keeps_asNamedCall read
  | target => exact Tree.keeps_asTarget read
  | updatedTarget => exact Tree.keeps_asUpdatedTarget read
  | binding => exact Tree.keeps_asBinding read
  | grouping => exact Tree.keeps_asGrouping read
  | keyword => exact Tree.keeps_asKeyword read
  | label => exact Tree.keeps_asLabel read
  | segment => exact Tree.keeps_asSegment read
  | shorthand => exact Tree.keeps_asShorthand read
  | settled => exact Tree.keeps_asSettled read

end Phrasebook.Markup
