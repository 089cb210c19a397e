import BlockSearch.Edit.Highlight
import BlockSearch.Proofs.Document.Inline
import BlockSearch.Proofs.Mark.Segmentation

/-!
# Marked texts read again

The spans put around the hits in a text are read again together with all other markup that the
text holds. They are what is read if no span that carries their type begins in a gap and no hit
holds a closing tag; a text without any tags is such a text, and so is one that does not name
the type.
-/

namespace BlockSearch

open Inline

/-- The stretch that a segment of a text is to become. -/
def Mark.Segment.stretch (types : List Char) : Mark.Segment → Inline
  | .plain text => .text text
  | .hit text => .mark types text

namespace Highlight

variable {mode : CaseMode} {keywords : List (List Char)} {type types text : List Char}
  {segments : List Mark.Segment}

/-- The stretches of the segments are written as the text with spans around the hits. -/
theorem flatMap_print_stretch (types : List Char) (segments : List Mark.Segment) :
    (segments.map (·.stretch types)).flatMap print =
      segments.flatMap (·.enclosed (spanStart types) spanClose) := by
  rw [List.flatMap_map]
  refine List.flatMap_congr fun segment _ => ?_
  cases segment <;> rfl

/-- The segments are read again exactly when their spans are all that carry the type. -/
theorem stretches_enclose_eq_iff
    {highlight : Highlight}
    (segmented : Mark.Segmented highlight.mode (highlight.keywords.map String.toList) text segments) :
    highlight.stretches (highlight.enclose types text) = segments.map (·.stretch types) ↔
      Reading highlight.spanType.toList (segments.map (·.stretch types)) := by
  rw [stretches, read_eq_iff, flatMap_print_stretch, enclose, Mark.enclose,
    Mark.segments_eq_iff.2 segmented, eq_self, true_and]

/-- A text in which a keyword occurs has stretches when it is marked. -/
theorem stretches_enclose_ne_nil
    {highlight : Highlight}
    (occurs : Mark.Occurs highlight.mode (highlight.keywords.map String.toList) text)
    (types : List Char) :
    highlight.stretches (highlight.enclose types text) ≠ [] := by
  intro none
  have marked : (highlight.stretches (highlight.enclose types text)).flatMap print =
      highlight.enclose types text := (read_eq_iff.1 rfl).1
  rw [none, List.flatMap_nil, enclose, Mark.enclose, eq_comm, List.flatMap_eq_nil_iff] at marked
  obtain ⟨segment, member, isHit⟩ := (Mark.segmented_segments _ _ _).occurs_iff.1 occurs
  cases segment with
  | plain => contradiction
  | hit text => simpa [Mark.Segment.enclosed, spanStart_ne_nil] using marked _ member

/-- What follows a gap is nothing, or it begins with a tag. -/
theorem bracket_of_head?_isHit
    (next : ∀ next ∈ segments.head?, next.isHit = true) :
    (segments.map (·.stretch types)).flatMap print = [] ∨
      ((segments.map (·.stretch types)).flatMap print).head? = some '<' := by
  cases segments with
  | nil => exact .inl rfl
  | cons segment segments =>
      right
      cases segment with
      | plain => simp [Mark.Segment.isHit] at next
      | hit hit =>
          rw [List.map_cons, Mark.Segment.stretch, List.flatMap_cons, print_mark_append]
          exact head?_spanOpen_append _

/--
The segments are read again if no span begins in a gap and no hit holds a closing tag. Behind a
gap stands nothing, or the tag of a span.
-/
theorem reading_stretch
    (segmented : Mark.Segmented mode keywords text segments)
    (holds : typesHold types type = true)
    (single : ¬ typesEnd <:+: types)
    (hits : ∀ segment ∈ segments, segment.isHit = true → ¬ spanClose <:+: segment.text)
    (gaps : ∀ front gap back, segments = front ++ .plain gap :: back →
      (∀ next ∈ back.head?, next.isHit = true) →
        HoldsNoSpan type gap ((back.map (·.stretch types)).flatMap print)) :
    Reading type (segments.map (·.stretch types)) := by
  induction segmented with
  | nil => exact .nil
  | hit _ _ inductionHypothesis =>
      rw [List.forall_mem_cons] at hits
      refine .mark ⟨holds, single, hits.1 rfl⟩ (inductionHypothesis hits.2 ?_)
      intro front gap back split
      exact gaps (_ :: front) gap back (by rw [split, List.cons_append])
  | plain nonempty _ next _ inductionHypothesis =>
      rw [List.forall_mem_cons] at hits
      refine .text nonempty (gaps [] _ _ rfl next) ?_ (inductionHypothesis hits.2 ?_)
      · intro stretch member
        rw [List.head?_map] at member
        obtain ⟨segment, first, rfl⟩ := Option.map_eq_some_iff.1 member
        have isHit := next segment first
        cases segment with
        | plain => contradiction
        | hit hit => exact ⟨types, hit, rfl⟩
      · intro front gap back split
        exact gaps (_ :: front) gap back (by rw [split, List.cons_append])

/-- A text without tags is read as its segments. -/
theorem reading_stretch_of_no_tag
    (segmented : Mark.Segmented mode keywords text segments)
    (holds : typesHold types type = true)
    (single : ¬ typesEnd <:+: types)
    (noOpen : ¬ spanOpen <:+: text)
    (noClose : ¬ spanClose <:+: text) :
    Reading type (segments.map (·.stretch types)) := by
  refine reading_stretch segmented holds single ?_ ?_
  · exact fun segment member _ inside => noClose (inside.trans (segmented.infix_of_mem member))
  · rintro front gap back rfl next
    have member : Mark.Segment.plain gap ∈ front ++ .plain gap :: back := by simp
    exact holdsNoSpan_of_no_tag
      (fun inside => noOpen (inside.trans (segmented.infix_of_mem member)))
      (bracket_of_head?_isHit next)

/-- In the opening tag of the marks of a search their type is a part of a word only. -/
theorem infix_of_typesHold_searchType
    {front : List Char}
    (holds : typesHold (front ++ (spanOpen ++ searchType.toList)) searchType.toList = true) :
    searchType.toList <:+: front := by
  have tag : spanOpen ++ searchType.toList =
      "<span".toList ++ ' ' :: "data-type=\"search-mark".toList := by decide
  have member := List.contains_iff_mem.1 holds
  rw [tag, ← List.append_assoc, Text.words_append_blank_cons (by decide), List.mem_append] at member
  have before := Text.infix_of_mem_words (member.resolve_right (by decide))
  have bracket : front ++ "<span".toList = front ++ '<' :: "span".toList := rfl
  rw [bracket] at before
  exact (Text.infix_or_infix_of_not_mem (by decide) before).resolve_right (by decide)

/-- In a text that does not name the type of the marks of a search no such mark begins. -/
theorem holdsNoSpan_searchType
    {gap behind : List Char}
    (unnamed : ¬ searchType.toList <:+: gap)
    (next : behind = [] ∨
      ∃ later, behind = spanOpen ++ (searchType.toList ++ (typesEnd ++ later))) :
    HoldsNoSpan searchType.toList gap behind := by
  rintro rest suffix nonempty ⟨types, inner, later, isSpan, split⟩
  rw [print_mark_append] at split
  have bracket : behind = [] ∨ behind.head? = some '<' :=
    next.imp_right fun ⟨later, tag⟩ => tag ▸ head?_spanOpen_append _
  obtain ⟨rest, rfl⟩ := spanOpen_prefix_of_append nonempty bracket ⟨_, split.symm⟩
  rw [List.append_assoc] at split
  have absent : ¬ searchType.toList <:+: rest := fun inside =>
    unnamed ((inside.trans (List.suffix_append spanOpen rest).isInfix).trans suffix.isInfix)
  rcases List.append_eq_append_iff.1 (List.append_cancel_left split) with
    ⟨left, rfl, tail⟩ | ⟨left, rfl, _⟩
  · -- The types reach into the tag behind the gap, up to where it ends.
    rcases next with rfl | ⟨behindTag, rfl⟩
    · have empty := (List.append_eq_nil_iff.1 (List.append_eq_nil_iff.1 tail.symm).2).1
      contradiction
    · have single : ¬ typesEnd <:+: left := fun inside =>
        isSpan.types (inside.trans (List.suffix_append rest left).isInfix)
      have cut := cutAt?_typesEnd_eq_some_iff.2 ⟨tail, single⟩
      rw [← List.append_assoc, cutAt?_typesEnd_eq_some_iff.2 ⟨rfl, by decide⟩] at cut
      obtain ⟨rfl, _⟩ := Prod.mk.inj (Option.some.inj cut)
      exact absent (infix_of_typesHold_searchType isSpan.holds)
  · have named := Text.infix_of_mem_words (List.contains_iff_mem.1 isSpan.holds)
    exact absent (named.trans (List.prefix_append types left).isInfix)

/-- A text that does not name the type of the marks of a search is read as its segments. -/
theorem reading_stretch_searchType
    (segmented : Mark.Segmented mode keywords text segments)
    (unnamed : ¬ searchType.toList <:+: text)
    (hits : ∀ segment ∈ segments, segment.isHit = true → ¬ spanClose <:+: segment.text) :
    Reading searchType.toList (segments.map (·.stretch searchType.toList)) := by
  refine reading_stretch segmented (by decide) (by decide) hits ?_
  rintro front gap back rfl next
  have member : Mark.Segment.plain gap ∈ front ++ .plain gap :: back := by simp
  refine holdsNoSpan_searchType
    (fun inside => unnamed (inside.trans (segmented.infix_of_mem member))) ?_
  cases back with
  | nil => exact .inl rfl
  | cons segment back =>
      right
      cases segment with
      | plain => simp [Mark.Segment.isHit] at next
      | hit hit =>
          exact ⟨_, print_mark_append _ _ _⟩

end Highlight
end BlockSearch
