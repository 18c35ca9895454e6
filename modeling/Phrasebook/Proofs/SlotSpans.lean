import Phrasebook.Exchange.Slot
import Phrasebook.Proofs.Brackets
import Phrasebook.Proofs.Encoding

/-!
# Where slots stand

Slots are located in a script that has a body behind the head of a function, by
the bytes up to them.  These are whole characters each time, and no element
begins in the head, since it holds no `<`; so the characters of the head can be
taken off.
-/

namespace Phrasebook.Exchange

open Markup
open Text (encoded)

/-- The characters of a body that a slot takes. -/
structure IsSpanOf (body : List Char) (slot : Site) (span : Nat × Nat) : Prop where
  text : body.extract span.1 span.2 = slot.text
  present : span.1 < span.2
  within : span.2 ≤ body.length
  start : slot.start = byteCount (functionHead ++ body.take span.1)
  stop : slot.stop = byteCount (functionHead ++ body.take span.2)

/-- The second of two spans starts later than the first, and either behind it or to stop before it
does. -/
def FollowsOrNests (first second : Nat × Nat) : Prop :=
  first.1 < second.1 ∧ (first.2 ≤ second.1 ∨ second.2 < first.2)

theorem exists_front_of_append_eq {head body before text back : List Char} {sign : Char}
    (same : head ++ body = before ++ text ++ back) (begins : text.head? = some sign)
    (free : sign ∉ head) : ∃ front, before = head ++ front ∧ body = front ++ text ++ back := by
  rw [List.append_assoc] at same
  rcases List.append_eq_append_iff.mp same with ⟨front, isBefore, isBody⟩ | ⟨rest, isHead, isRest⟩
  · exact ⟨front, isBefore, by rw [isBody, List.append_assoc]⟩
  · obtain _ | ⟨first, rest⟩ := rest
    · exact ⟨[], by simpa using isHead.symm, by simpa using isRest.symm⟩
    · obtain ⟨more, rfl⟩ := List.head?_eq_some_iff.mp begins
      obtain rfl : sign = first := (List.cons.inj isRest).1
      exact absurd (by simp [isHead]) free

section Slots

variable {marker : String} {text body : List Char} {script : Tree} {slot : Site}

theorem isElementIn_of_mem_slotsIn (isRead : Script.read text = .ok script)
    (slotMem : slot ∈ slotsIn marker script) : IsElementIn script slot := by
  obtain ⟨inWalk, isTagged⟩ := List.mem_filter.mp slotMem
  exact isElementIn_of_read isRead inWalk (Build.isElement_of_isTagged isTagged)

theorem length_pos_of_isElementIn (isSlot : IsElementIn script slot) : 0 < slot.text.length :=
  List.length_pos_iff.mpr isSlot.solid.text_ne_nil

theorem exists_front_of_isElementIn (isSlot : IsElementIn script slot)
    (isRead : Script.read (functionHead ++ body) = .ok script) :
    ∃ front back, slot.before.reverse = functionHead ++ front ∧
      body = front ++ slot.text ++ back := by
  obtain ⟨back, isText⟩ := Site.text_eq_of_mem_walk_root isSlot.inWalk
  rw [(Script.isScriptOf_of_read isRead).text] at isText
  have begins : slot.text.head? = some '<' :=
    isSlot.bracketed.head?_text_of_isElement isSlot.paired isSlot.isElement
  obtain ⟨front, isBefore, isBody⟩ := exists_front_of_append_eq isText begins (by decide)
  exact ⟨front, back, isBefore, isBody⟩

theorem charactersUpTo_encoded (front back : List Char) :
    charactersUpTo (encoded (front ++ back)) (byteCount front) = front.length := by
  unfold charactersUpTo
  rw [Text.encoded_append, ← Text.length_encoded, List.take_left, Text.Source.ofBytes_encoded]

/-- The bytes up to a place of a script are whole characters. -/
theorem span_eq (isRead : Script.read text = .ok script)
    (slotMem : slot ∈ (Site.root script).walk) :
    span (encoded text) slot =
      (slot.before.length - functionHead.length, slot.upTo.length - functionHead.length) := by
  obtain ⟨back, isText⟩ := Site.text_eq_of_mem_walk_root slotMem
  rw [(Script.isScriptOf_of_read isRead).text] at isText
  have toStart : charactersUpTo (encoded text) slot.start = slot.before.length := by
    rw [isText, List.append_assoc, Site.start, ← byteCount_reverse, charactersUpTo_encoded,
      List.length_reverse]
  have toStop : charactersUpTo (encoded text) slot.stop = slot.upTo.length := by
    rw [isText, Site.stop_eq]
    exact charactersUpTo_encoded slot.upTo back
  rw [span, toStart, toStop]

theorem isSpanOf_span (isSlot : IsElementIn script slot)
    (isRead : Script.read (functionHead ++ body) = .ok script) :
    IsSpanOf body slot (span (encoded (functionHead ++ body)) slot) := by
  have inCharacters := span_eq isRead isSlot.inWalk
  obtain ⟨front, back, isBefore, rfl⟩ := exists_front_of_isElementIn isSlot isRead
  have startsAt : slot.before.length - functionHead.length = front.length := by
    rw [← slot.before.length_reverse, isBefore, List.length_append, Nat.add_sub_cancel_left]
  have stopsAt : slot.upTo.length - functionHead.length = front.length + slot.text.length := by
    rw [Site.upTo, isBefore, List.append_assoc, List.length_append, Nat.add_sub_cancel_left,
      List.length_append]
  rw [startsAt, stopsAt] at inCharacters
  have isStart : slot.start = byteCount (functionHead ++ front) := by
    rw [← isBefore, byteCount_reverse]
    rfl
  rw [inCharacters]
  constructor
  case text => simp [List.extract]
  case present => exact Nat.lt_add_of_pos_right (length_pos_of_isElementIn isSlot)
  case within => simp
  case start => simpa using isStart
  case stop =>
    rw [Site.stop, isStart, ← List.length_append, List.take_left, ← List.append_assoc,
      byteCount_append _ slot.text]
    rfl

/-- Of two slots the second one starts after the end of the first or lies inside it. -/
theorem pairwise_slotsIn (isRead : Script.read text = .ok script) :
    (slotsIn marker script).Pairwise fun first second =>
      first.upTo.length ≤ second.before.length ∨ second.LiesInside first := by
  apply ((Site.pairwise_upTo_walk (Site.root script)).filter _).imp_of_mem
  rintro first second firstMem secondMem (isBefore | ⟨child, childMem, isBelow⟩)
  · exact .inl (by simpa using isBefore.length_le)
  · have outer := isElementIn_of_mem_slotsIn isRead firstMem
    have inner := isElementIn_of_mem_slotsIn isRead secondMem
    exact .inr (Site.liesInside_of_isElement outer.bracketed outer.paired outer.solid
      outer.isElement childMem isBelow inner.isElement)

theorem pairwise_span (isRead : Script.read (functionHead ++ body) = .ok script) :
    ((slotsIn marker script).map (span (encoded (functionHead ++ body)))).Pairwise
      FollowsOrNests := by
  rw [List.pairwise_map]
  apply (pairwise_slotsIn isRead).imp_of_mem
  intro first second firstMem secondMem related
  rw [span_eq isRead (List.mem_of_mem_filter firstMem),
    span_eq isRead (List.mem_of_mem_filter secondMem)]
  have behindHead {slot : Site} (isSlot : IsElementIn script slot) :
      functionHead.length ≤ slot.before.length := by
    obtain ⟨front, _, isBefore, _⟩ := exists_front_of_isElementIn isSlot isRead
    rw [← slot.before.length_reverse, isBefore, List.length_append]
    exact Nat.le_add_right _ _
  have firstBehind := behindHead (isElementIn_of_mem_slotsIn isRead firstMem)
  have secondBehind := behindHead (isElementIn_of_mem_slotsIn isRead secondMem)
  have positive := length_pos_of_isElementIn (isElementIn_of_mem_slotsIn isRead firstMem)
  have firstLength := first.length_upTo
  unfold FollowsOrNests
  dsimp only
  rcases related with isBefore | inside
  · omega
  · have starts := inside.start
    have stops := inside.stop
    omega

/-- The spans of the slots of a body are those of the characters that its elements with the marker
tag take. -/
theorem isSpanOf_slotSpans {body : String} {spans : List (Nat × Nat)}
    (done : slotSpans marker body = .ok spans) :
    ∃ script, Script.read (functionHead ++ body.toList) = .ok script ∧
      List.Forall₂ (IsSpanOf body.toList)
        ((Site.root script).walk.filter fun site => site.tree.isTagged marker.toList) spans ∧
      spans.Pairwise FollowsOrNests := by
  unfold slotSpans slots? at done
  cases isRead : Script.read (functionHead ++ body.toList) with
  | error =>
      rw [isRead] at done
      contradiction
  | ok script =>
      rw [isRead] at done
      obtain rfl := Except.ok.inj done
      refine ⟨script, rfl, ?_, pairwise_span isRead⟩
      refine List.forall₂_map_right_iff.mpr (List.forall₂_same.mpr fun slot slotMem => ?_)
      exact isSpanOf_span (isElementIn_of_mem_slotsIn isRead slotMem) isRead

/-- A slot within another one and a slot behind both, with characters of several lengths between
them. -/
theorem isSpanOf_nested_slots :
    let body := "<p>é<M>ß<M/>☃</M>😀\x7bx\x7d<M>b</M></p>"
    let spans := [(4, 17), (8, 12), (21, 29)]
    slotSpans "M" body = .ok spans ∧
      ∃ script, Script.read (functionHead ++ body.toList) = .ok script ∧
        List.Forall₂ (IsSpanOf body.toList)
          ((Site.root script).walk.filter fun site => site.tree.isTagged "M".toList) spans ∧
        spans.Pairwise FollowsOrNests := by
  intro body spans
  have run : (slotSpans "M" body).toOption = some spans := by decide +kernel
  have done := toOption_eq_some_iff.mp run
  exact ⟨done, isSpanOf_slotSpans done⟩

end Slots

end Phrasebook.Exchange
