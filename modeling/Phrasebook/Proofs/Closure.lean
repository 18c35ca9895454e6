import Phrasebook.Proofs.Between
import Phrasebook.Proofs.Capture
import Phrasebook.Proofs.Provenance

/-!
# Renderings that are closed

Markup takes the place of a phrase only if all it needs are the parameters of
its function.  Together with what stands between two tags and what is captured
there, this says which names in such markup are parameters.
-/

namespace Phrasebook.Book

open Markup

/-! ## Closed sites -/

/-- Every name of a site that is taken into account is one of the given names: variables other than
the index of an access, members that are short for a variable, and components.  A member of a
pattern that is short for a variable is not taken into account. -/
structure IsClosed (names : List String) (outer : Site) : Prop where
  identifier : ∀ site ∈ outer.walk, site.tree.kind = .identifier → site.isTagSegment = false →
    ¬site.IsAccessorIn outer → String.ofList site.text ∈ names
  shorthand : ∀ site ∈ outer.walk, site.tree.kind = .shorthandIdentifier →
    String.ofList site.text ∈ names
  component : ∀ site ∈ outer.walk,
    site.tree.kind = .identifier ∨ site.tree.kind = .propertyIdentifier →
    site.isTagSegment = true → Phrase.isComponentName site.text = true →
    String.ofList site.text ∈ names

/-! ## Names of single trees -/

section Names

variable {tree : Tree}

theorem ownName?_other (tidy : tree.Tidy) (isIdentifier : tree.kind = .identifier) :
    Phrase.ownName? .other tree = some (String.ofList tree.text) := by
  rw [tidy.eq_leaf_of_isName (by rw [isIdentifier]; rfl), isIdentifier, Tree.text_leaf]
  rfl

theorem ownName?_shorthand (role : Phrase.Role) (tidy : tree.Tidy)
    (isShorthand : tree.kind = .shorthandIdentifier) :
    Phrase.ownName? role tree = some (String.ofList tree.text) := by
  rw [tidy.eq_leaf_of_isName (by rw [isShorthand]; rfl), isShorthand, Tree.text_leaf]
  rfl

theorem ownName?_tagSegment (tidy : tree.Tidy)
    (isName : tree.kind = .identifier ∨ tree.kind = .propertyIdentifier)
    (isComponent : Phrase.isComponentName tree.text = true) :
    Phrase.ownName? .tagSegment tree = some (String.ofList tree.text) := by
  rcases isName with isName | isName
  · rw [tidy.eq_leaf_of_isName (by rw [isName]; rfl), isName, Tree.text_leaf]
    exact if_pos isComponent
  · rw [tidy.eq_leaf_of_isName (by rw [isName]; rfl), isName, Tree.text_leaf]
    exact if_pos isComponent

end Names

section Closed

variable {tag : String} {names : List String} {element part : Site}

/-- What holds no code has no names. -/
theorem isClosed_of_isPlain (plain : part.tree.IsPlain) : IsClosed names part := by
  obtain ⟨kind, text, isPlain, isLeaf⟩ := plain
  have noName (site : Site) (siteMem : site ∈ part.walk) : site.tree.kind.isName = false := by
    rw [Site.walk_eq, Site.children, isLeaf] at siteMem
    obtain rfl := List.mem_singleton.mp siteMem
    rw [isLeaf]
    cases kind <;> first | rfl | contradiction
  have other {site : Site} (siteMem : site ∈ part.walk) {kind : Kind}
      (named : kind.isName = true) : site.tree.kind ≠ kind := by
    rintro rfl
    exact Bool.false_ne_true ((noName site siteMem).symm.trans named)
  constructor
  · exact fun site siteMem isIdentifier => absurd isIdentifier (other siteMem rfl)
  · exact fun site siteMem isShorthand => absurd isShorthand (other siteMem rfl)
  · rintro site siteMem (isIdentifier | isProperty)
    · exact absurd isIdentifier (other siteMem rfl)
    · exact absurd isProperty (other siteMem rfl)

/-- Where all names that are needed are given, every part of an element is closed. -/
theorem isClosed_of_namesNeeded {line : Nat} {needed : List String} (tidy : element.tree.Tidy)
    (done : Phrase.namesNeeded tag line element.tree.elementChildren = .ok needed)
    (given : ∀ name ∈ needed, name ∈ names) (partMem : part ∈ element.inner) :
    IsClosed names part := by
  by_cases isCode : part.tree.kind.isElement = true ∨ part.tree.kind = .container
  · have siteTidy (site : Site) (siteMem : site ∈ part.walk) : site.tree.Tidy :=
      (tidy.of_mem_children (Site.tree_mem_children (Site.mem_children_of_mem_inner partMem)))
        |>.of_mem_walk site siteMem
    -- Whether a name counts depends on its role, and each way to count excludes the other roles.
    have known (site : Site) (siteMem : site ∈ part.walk) :=
      Phrase.exists_role_of_namesNeeded done partMem isCode siteMem
    constructor
    · intro site siteMem isIdentifier notSegment notAccessor
      obtain ⟨role, isRole, own⟩ := known site siteMem
      have isOther : role = .other := by
        cases role with
        | tagSegment =>
            rw [isRole.tagSegment.mp rfl] at notSegment
            contradiction
        | accessor => exact absurd (isRole.accessor rfl) notAccessor
        | other => rfl
      exact given _ (own _ (isOther ▸ ownName?_other (siteTidy site siteMem) isIdentifier))
    · intro site siteMem isShorthand
      obtain ⟨role, _, own⟩ := known site siteMem
      exact given _ (own _ (ownName?_shorthand role (siteTidy site siteMem) isShorthand))
    · intro site siteMem isName isSegment isComponent
      obtain ⟨role, isRole, own⟩ := known site siteMem
      obtain rfl := isRole.tagSegment.mpr isSegment
      exact given _ (own _ (ownName?_tagSegment (siteTidy site siteMem) isName isComponent))
  · exact isClosed_of_isPlain (tidy.isPlain_of_mem_inner partMem isCode)

end Closed

/-! ## Renderings -/

/-- The element that a function gives, without the parentheses around it. -/
def elementOf? (function : Site) : Option Site :=
  function.contents.getLast?.map fun body => withoutParentheses body.text.length body

section Renderings

variable {tag : String} 

theorem withoutParentheses_mem_walk (fuel : Nat) {outer site : Site} (siteMem : site ∈ outer.walk) :
    withoutParentheses fuel site ∈ outer.walk := by
  induction fuel generalizing site with
  | zero => exact siteMem
  | succ fuel ih =>
      unfold withoutParentheses
      split
      · split
        · rename_i inner isInner
          exact ih (Site.mem_walk_of_mem_children siteMem
            (List.mem_of_mem_filter (List.mem_of_head? isInner)))
        · exact siteMem
      · exact siteMem

/-- Markup takes the place of a phrase only if its element needs nothing but the parameters. -/
theorem isClosed_of_markupOf? {names : List String} {element : Site} {markup : String}
    (tidy : element.tree.Tidy) (isMarkup : markupOf? tag names element = some markup) :
    markup = String.ofList element.tree.body ∧ ∀ part ∈ element.inner, IsClosed names part := by
  unfold markupOf? at isMarkup
  split at isMarkup
  · rename_i isSelfClosing
    obtain rfl := Option.some.inj isMarkup
    constructor
    · cases treeIs : element.tree with
      | leaf => rfl
      | node kind children =>
          rw [treeIs] at isSelfClosing
          obtain rfl : kind = .selfClosingElement := isSelfClosing
          rfl
    · intro part partMem
      rw [Site.inner, isSelfClosing] at partMem
      cases partMem
  · split at isMarkup
    · rename_i needed isNeeded
      obtain ⟨given, same⟩ := Option.ite_none_right_eq_some.mp isMarkup
      refine ⟨(Option.some.inj same).symm, fun part partMem => ?_⟩
      refine isClosed_of_namesNeeded tidy isNeeded (fun name nameMem => ?_) partMem
      exact List.contains_iff_mem.mp (List.all_eq_true.mp given name nameMem)
    · contradiction
  · contradiction

/-- Where the markup of a rendering comes from, and that it is closed. -/
theorem isClosed_of_rendering {language markup : String} {function : Site} {rendering : Rendering}
    {names : List String} (tidy : function.tree.Tidy)
    (done : Book.rendering tag language function = .ok (rendering, names))
    (isMarkup : rendering.markup? = some markup) :
    parameters function = .ok names ∧ ∃ element, elementOf? function = some element ∧
      markup = String.ofList element.tree.body ∧ ∀ part ∈ element.inner, IsClosed names part := by
  obtain ⟨found, isFunction, done⟩ := bind_eq_ok_iff.mp done
  obtain rfl := Option.some.inj (expect_eq_ok isFunction).1
  obtain ⟨declared, isDeclared, done⟩ := bind_eq_ok_iff.mp done
  split at done
  · contradiction
  · rename_i body isLast
    obtain ⟨rfl, rfl⟩ := Prod.mk.inj (Except.ok.inj done)
    obtain ⟨_, isMarkup⟩ := Option.ite_none_left_eq_some.mp isMarkup
    refine ⟨isDeclared, withoutParentheses body.text.length body, ?_, ?_⟩
    · rw [elementOf?, isLast, Option.map_some]
    · have bodyMem : body ∈ function.walk := Site.mem_walk_of_mem_children
        (Site.self_mem_walk function) (List.mem_of_mem_filter (List.mem_of_getLast? isLast))
      have elementMem := withoutParentheses_mem_walk body.text.length bodyMem
      exact isClosed_of_markupOf? (tidy.of_mem_walk _ elementMem) isMarkup

/-- The markup of every rendering of a book that is read is the body of an element whose parts are
closed under the parameters of the function. -/
theorem isClosed_of_read {path? : Option String} {text markup : String} {book : Book}
    {entry : Entry} {rendering : Rendering} (isRead : Book.read path? tag text = .ok book)
    (entryMem : entry ∈ book.entries) (renderingMem : rendering ∈ entry.renderings)
    (isMarkup : rendering.markup? = some markup) :
    ∃ script function element, Script.read text.toList = .ok script ∧
      function ∈ (Site.root script).walk ∧
      Book.rendering tag rendering.language function = .ok (rendering, entry.dependencies) ∧
      parameters function = .ok entry.dependencies ∧ elementOf? function = some element ∧
      markup = String.ofList element.tree.body ∧
      ∀ part ∈ element.inner, IsClosed entry.dependencies part := by
  obtain ⟨script, isScript, isReadBelow⟩ := exists_script_of_read isRead
  obtain ⟨function, functionMem, isRendering⟩ :=
    isReadBelow entry entryMem rendering renderingMem
  have rootTidy : (Site.root script).tree.Tidy := Script.tidy_of_read isScript
  obtain ⟨isDeclared, element, isElement, isBody, closed⟩ :=
    isClosed_of_rendering (rootTidy.of_mem_walk function functionMem) isRendering isMarkup
  exact ⟨script, function, element, isScript, functionMem, isRendering, isDeclared, isElement,
    isBody, closed⟩

/-- Markup may take the place of a phrase although the index of an access in it, the first part of
the name of a tag and a variable that a pattern assigns are no parameters. -/
example :
    let text := "export default \x7bk:\x7ben:(a,Bar)=>" ++
      "<O>\x7ba[i]\x7d<foo.Bar/>\x7b(\x7bx\x7d = a)\x7d</O>\x7d\x7d"
    (Book.read none "T" text).toOption.map (fun book =>
        book.entries.map fun entry => (entry.dependencies, entry.renderings.map (·.markup?))) =
      some [(["a", "Bar"], [some "\x7ba[i]\x7d<foo.Bar/>\x7b(\x7bx\x7d = a)\x7d"])] := by
  decide +kernel

end Renderings

end Phrasebook.Book
