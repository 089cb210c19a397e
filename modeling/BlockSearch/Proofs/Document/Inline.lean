import BlockSearch.Document.Inline
import BlockSearch.Proofs.Text.Blank
import BlockSearch.Proofs.Text.Occurrence
import Mathlib.Data.List.Chain

/-!
# Reading inline text

Reading loses nothing: the stretches that are read make up the text when they are written again.
A text has exactly one list of stretches in which the marks are spans of the wanted type and no
such span begins inside of plain text. So stretches that are written are read back, when none of
their parts holds the tag that ends it.
-/

namespace BlockSearch
namespace Inline

variable {type types inner content text behind : List Char} {stretches : List Inline}

/-! ## Spans -/

/-- A span that carries a type, and whose parts end where the tags around them do. -/
structure IsSpan (type types inner : List Char) : Prop where
  /-- The type is one of the types. -/
  holds : typesHold types type = true
  /-- The opening tag does not end among the types. -/
  types : ¬ typesEnd <:+: types
  /-- The text does not hold the closing tag. -/
  inner : ¬ spanClose <:+: inner

/-- A text begins with a closed span that carries a type. -/
def BeginsSpan (type text : List Char) : Prop :=
  ∃ types inner behind, IsSpan type types inner ∧ text = (mark types inner).print ++ behind

/-- No span that carries a type begins in a text, though one may begin where it ends. -/
def HoldsNoSpan (type content behind : List Char) : Prop :=
  ∀ rest, rest <:+ content → rest ≠ [] → ¬ BeginsSpan type (rest ++ behind)

theorem print_mark_append (types inner behind : List Char) :
    (mark types inner).print ++ behind =
      spanOpen ++ (types ++ (typesEnd ++ (inner ++ (spanClose ++ behind)))) := by
  simp only [print, spanStart, List.append_assoc]

theorem cutAt?_spanOpen_eq_some_iff :
    Text.cutAt? spanOpen text = some (content, behind) ↔
      text = content ++ (spanOpen ++ behind) ∧ ¬ spanOpen <:+: content :=
  Text.cutAt?_cons_eq_some_iff (by decide)

theorem cutAt?_typesEnd_eq_some_iff :
    Text.cutAt? typesEnd text = some (content, behind) ↔
      text = content ++ (typesEnd ++ behind) ∧ ¬ typesEnd <:+: content :=
  Text.cutAt?_cons_eq_some_iff (by decide)

theorem cutAt?_spanClose_eq_some_iff :
    Text.cutAt? spanClose text = some (content, behind) ↔
      text = content ++ (spanClose ++ behind) ∧ ¬ spanClose <:+: content :=
  Text.cutAt?_cons_eq_some_iff (by decide)

/-- A text begins with one span at most. -/
theorem IsSpan.eq_of_append_eq
    {otherTypes otherInner otherBehind : List Char}
    (first : IsSpan type types inner)
    (second : IsSpan type otherTypes otherInner)
    (same : (mark types inner).print ++ behind =
      (mark otherTypes otherInner).print ++ otherBehind) :
    mark types inner = mark otherTypes otherInner ∧ behind = otherBehind := by
  rw [print_mark_append, print_mark_append] at same
  have cutTypes := cutAt?_typesEnd_eq_some_iff.2 ⟨List.append_cancel_left same, second.types⟩
  rw [cutAt?_typesEnd_eq_some_iff.2 ⟨rfl, first.types⟩] at cutTypes
  obtain ⟨rfl, body⟩ := Prod.mk.inj (Option.some.inj cutTypes)
  have cutInner := cutAt?_spanClose_eq_some_iff.2 ⟨body, second.inner⟩
  rw [cutAt?_spanClose_eq_some_iff.2 ⟨rfl, first.inner⟩] at cutInner
  obtain ⟨rfl, rfl⟩ := Prod.mk.inj (Option.some.inj cutInner)
  exact ⟨rfl, rfl⟩

theorem holdsNoSpan_append
    {front : List Char}
    (first : HoldsNoSpan type front (content ++ behind))
    (second : HoldsNoSpan type content behind) :
    HoldsNoSpan type (front ++ content) behind := by
  rintro rest ⟨outer, whole⟩ nonempty
  rcases List.append_eq_append_iff.1 whole with ⟨left, split, rfl⟩ | ⟨left, _, split⟩
  · by_cases empty : left = []
    · rw [empty] at nonempty ⊢
      exact second content List.suffix_rfl nonempty
    · rw [List.append_assoc]
      exact first left ⟨outer, split.symm⟩ empty
  · exact second rest ⟨left, split.symm⟩ nonempty

/-! ## Readings -/

/-- The stretches of a text: marks, and plain text between them that holds none. -/
inductive Reading (type : List Char) : List Inline → Prop
  /-- The empty text has no stretches. -/
  | nil : Reading type []
  /-- A span in front. -/
  | mark {types inner : List Char} {stretches : List Inline} :
      IsSpan type types inner → Reading type stretches →
        Reading type (.mark types inner :: stretches)
  /-- Plain text in front, which is not empty, and behind it a span or nothing. -/
  | text {content : List Char} {stretches : List Inline} :
      content ≠ [] → HoldsNoSpan type content (stretches.flatMap print) →
        (∀ next ∈ stretches.head?, ∃ types inner, next = .mark types inner) →
          Reading type stretches → Reading type (.text content :: stretches)

/-- Plain text that is still open is closed before a span or at the end. -/
theorem Reading.closePlain
    (reading : Reading type stretches)
    (quiet : HoldsNoSpan type content (stretches.flatMap print))
    (next : ∀ next ∈ stretches.head?, ∃ types inner, next = .mark types inner) :
    Reading type (plain content ++ stretches) := by
  unfold Inline.plain
  split_ifs with empty
  · exact reading
  · exact .text (fun none => empty (List.isEmpty_iff.2 none)) quiet next reading

theorem flatMap_print_plain (content : List Char) : (plain content).flatMap print = content := by
  unfold plain
  split_ifs with empty
  · exact (List.isEmpty_iff.1 empty).symm
  · simp [print]

/-- Reading loses nothing of a text. -/
theorem flatMap_print_readFrom (type front text : List Char) :
    (readFrom type front text).flatMap print = front ++ text := by
  fun_induction readFrom type front text with
  | case1 front text => exact flatMap_print_plain _
  | case2 front text => exact flatMap_print_plain _
  | case3 front text => exact flatMap_print_plain _
  | case4 front text before behindOpen foundOpen types body foundTypes _ _ inner behind
      foundClose _ inductionHypothesis =>
      rw [List.flatMap_append, flatMap_print_plain, List.flatMap_cons, inductionHypothesis,
        print_mark_append, List.nil_append, List.append_assoc, Text.eq_append_of_cutAt? foundOpen,
        Text.eq_append_of_cutAt? foundTypes, Text.eq_append_of_cutAt? foundClose]
  | case5 front text before behindOpen foundOpen types body foundTypes _ _ inductionHypothesis =>
      rw [inductionHypothesis, Text.eq_append_of_cutAt? foundOpen]
      simp only [List.append_assoc]

theorem head?_spanOpen_append (behind : List Char) : (spanOpen ++ behind).head? = some '<' := by
  have bracket : spanOpen = '<' :: "span data-type=\"".toList := by decide
  rw [bracket, List.cons_append, List.head?_cons]

theorem spanStart_ne_nil (types : List Char) : spanStart types ≠ [] := by
  intro empty
  have bracket := head?_spanOpen_append (types ++ typesEnd)
  rw [← List.append_assoc, ← spanStart, empty] at bracket
  contradiction

theorem print_mark_append_ne_nil (types inner behind : List Char) :
    (mark types inner).print ++ behind ≠ [] := by
  simp [print, spanStart_ne_nil]

/-- An opening tag that begins in front of a bracket ends there. -/
theorem spanOpen_prefix_of_append
    (nonempty : content ≠ [])
    (next : behind = [] ∨ behind.head? = some '<')
    (begins : spanOpen <+: content ++ behind) :
    spanOpen <+: content := by
  rcases next with rfl | bracket
  · rwa [List.append_nil] at begins
  · obtain ⟨later, rfl⟩ := List.head?_eq_some_iff.1 bracket
    exact Text.prefix_of_prefix_append_cons (by decide) nonempty begins

/-- In a text without opening tags no span begins. -/
theorem holdsNoSpan_of_no_tag
    (absent : ¬ spanOpen <:+: content)
    (next : behind = [] ∨ behind.head? = some '<') :
    HoldsNoSpan type content behind := by
  rintro rest suffix nonempty ⟨types, inner, later, _, split⟩
  have begins : spanOpen <+: rest ++ behind := by
    rw [split, print_mark_append]
    exact List.prefix_append _ _
  exact absent ((spanOpen_prefix_of_append nonempty next begins).isInfix.trans suffix.isInfix)

/-- No span begins in an opening tag whose types do not hold the type. -/
theorem holdsNoSpan_spanOpen
    {behindOpen body : List Char}
    (foundTypes : Text.cutAt? typesEnd behindOpen = some (types, body))
    (other : ¬ typesHold types type = true) :
    HoldsNoSpan type spanOpen behindOpen := by
  rintro rest suffix nonempty ⟨foundAs, inner, later, isSpan, split⟩
  rw [print_mark_append] at split
  rcases List.suffix_cons_iff.1 suffix with whole | proper
  · obtain rfl : rest = spanOpen := whole
    rw [cutAt?_typesEnd_eq_some_iff.2 ⟨List.append_cancel_left split, isSpan.types⟩] at foundTypes
    obtain ⟨rfl, _⟩ := Prod.mk.inj (Option.some.inj foundTypes)
    exact other isSpan.holds
  · cases rest with
    | nil => exact nonempty rfl
    | cons c rest =>
        obtain ⟨rfl, _⟩ : c = '<' ∧ _ := List.cons.inj split
        exact absurd (proper.subset List.mem_cons_self) (by decide)

/-- No span begins in a text whose first opening tag is not followed by all parts of one. -/
theorem holdsNoSpan_of_cutAt?
    {before behindOpen : List Char}
    (foundOpen : Text.cutAt? spanOpen text = some (before, behindOpen))
    (unclosed : ∀ types inner behind, IsSpan type types inner →
      ¬ types ++ (typesEnd ++ (inner ++ (spanClose ++ behind))) <:+ behindOpen) :
    HoldsNoSpan type text [] := by
  rintro rest ⟨front, whole⟩ _ ⟨types, inner, behind, isSpan, split⟩
  rw [List.append_nil, print_mark_append] at split
  rw [split] at whole
  exact unclosed types inner behind isSpan (Text.suffix_of_cutAt? foundOpen whole.symm)

/-- What is read is marks, and plain text that holds none. -/
theorem reading_readFrom
    {front : List Char}
    (quiet : HoldsNoSpan type front text) :
    Reading type (readFrom type front text) := by
  have last : ∀ {front text}, HoldsNoSpan type front text → HoldsNoSpan type text [] →
      Reading type (plain (front ++ text)) := fun {front text} first second => by
    rw [← List.append_nil (plain (front ++ text))]
    refine Reading.nil.closePlain (holdsNoSpan_append ?_ second) (by simp)
    rwa [List.flatMap_nil, List.append_nil]
  fun_induction readFrom type front text with
  | case1 front text foundOpen =>
      exact last quiet
        (holdsNoSpan_of_no_tag (Text.cutAt?_eq_none_iff.1 foundOpen) (.inl rfl))
  | case2 front text before behindOpen foundOpen foundTypes =>
      refine last quiet (holdsNoSpan_of_cutAt? foundOpen fun types inner behind _ suffix => ?_)
      exact Text.cutAt?_eq_none_iff.1 foundTypes
        ((List.infix_append' types typesEnd _).trans suffix.isInfix)
  | case3 front text before behindOpen foundOpen types body foundTypes _ _ foundClose =>
      refine last quiet (holdsNoSpan_of_cutAt? foundOpen fun others inner behind _ suffix => ?_)
      obtain ⟨outer, whole⟩ := suffix
      rw [← List.append_assoc] at whole
      exact Text.cutAt?_eq_none_iff.1 foundClose ((List.infix_append' inner spanClose _).trans
        (Text.suffix_of_cutAt? foundTypes whole.symm).isInfix)
  | case4 front text before behindOpen foundOpen types body foundTypes _ holds inner behind
      foundClose _ inductionHypothesis =>
      obtain ⟨split, absent⟩ := cutAt?_spanOpen_eq_some_iff.1 foundOpen
      obtain ⟨splitTypes, typesSingle⟩ := cutAt?_typesEnd_eq_some_iff.1 foundTypes
      obtain ⟨splitClose, innerSingle⟩ := cutAt?_spanClose_eq_some_iff.1 foundClose
      have later := inductionHypothesis fun rest suffix nonempty =>
        absurd (List.suffix_nil.1 suffix) nonempty
      refine (Reading.mark ⟨holds, typesSingle, innerSingle⟩ later).closePlain ?_ (by simp)
      rw [List.flatMap_cons, flatMap_print_readFrom, List.nil_append, print_mark_append,
        ← splitClose, ← splitTypes]
      refine holdsNoSpan_append ?_
        (holdsNoSpan_of_no_tag absent (.inr (head?_spanOpen_append behindOpen)))
      rwa [← split]
  | case5 front text before behindOpen foundOpen types body foundTypes _ other
      inductionHypothesis =>
      obtain ⟨split, absent⟩ := cutAt?_spanOpen_eq_some_iff.1 foundOpen
      have before : HoldsNoSpan type before (spanOpen ++ behindOpen) :=
        holdsNoSpan_of_no_tag absent (.inr (head?_spanOpen_append behindOpen))
      refine inductionHypothesis (holdsNoSpan_append (holdsNoSpan_append ?_ before)
        (holdsNoSpan_spanOpen foundTypes other))
      rwa [← split]

/-- Where a span begins, or nothing is left, no plain text of another reading goes on. -/
theorem Reading.eq_nil_of_holdsNoSpan
    {rest : List Char}
    (reading : Reading type stretches)
    (next : ∀ next ∈ stretches.head?, ∃ types inner, next = .mark types inner)
    (quiet : HoldsNoSpan type content behind)
    (suffix : rest <:+ content)
    (same : stretches.flatMap print = rest ++ behind) :
    rest = [] := by
  by_contra nonempty
  cases reading with
  | nil => exact nonempty (List.append_eq_nil_iff.1 same.symm).1
  | mark isSpan _ => exact quiet rest suffix nonempty ⟨_, _, _, isSpan, same.symm⟩
  | text => simp at next

/-- A text has one reading. -/
theorem Reading.eq_of_flatMap_print_eq
    {others : List Inline}
    (first : Reading type stretches)
    (second : Reading type others)
    (same : stretches.flatMap print = others.flatMap print) :
    stretches = others := by
  induction first generalizing others with
  | nil =>
      cases second with
      | nil => rfl
      | mark => exact absurd same.symm (print_mark_append_ne_nil _ _ _)
      | text nonempty => exact absurd (List.append_eq_nil_iff.1 same.symm).1 nonempty
  | mark isSpan _ inductionHypothesis =>
      rw [List.flatMap_cons] at same
      cases second with
      | nil => exact absurd same (print_mark_append_ne_nil _ _ _)
      | mark otherSpan others =>
          rw [List.flatMap_cons] at same
          obtain ⟨here, later⟩ := isSpan.eq_of_append_eq otherSpan same
          rw [here, inductionHypothesis others later]
      | text nonempty quiet =>
          exact absurd ⟨_, _, _, isSpan, same.symm⟩ (quiet _ List.suffix_rfl nonempty)
  | text nonempty quiet next reading inductionHypothesis =>
      rw [List.flatMap_cons] at same
      cases second with
      | nil => exact absurd (List.append_eq_nil_iff.1 same).1 nonempty
      | mark isSpan _ => exact absurd ⟨_, _, _, isSpan, same⟩ (quiet _ List.suffix_rfl nonempty)
      | text otherNonempty otherQuiet otherNext others =>
          -- The plain text ends where the other one ends, for otherwise a span would begin in it.
          rw [List.flatMap_cons, print, print] at same
          rcases List.append_eq_append_iff.1 same with ⟨left, split, rest⟩ | ⟨left, split, rest⟩
          · obtain rfl := reading.eq_nil_of_holdsNoSpan next otherQuiet ⟨_, split.symm⟩ rest
            rw [inductionHypothesis others rest, split, List.append_nil]
          · obtain rfl := others.eq_nil_of_holdsNoSpan otherNext quiet ⟨_, split.symm⟩ rest
            rw [inductionHypothesis others rest.symm, split, List.append_nil]

/-- Reading gives the one list of stretches that make up the text and hold no span but marks. -/
theorem read_eq_iff :
    read type text = stretches ↔ stretches.flatMap print = text ∧ Reading type stretches := by
  have made : (read type text).flatMap print = text := flatMap_print_readFrom type [] text
  have reading : Reading type (read type text) := reading_readFrom fun rest suffix nonempty =>
    absurd (List.suffix_nil.1 suffix) nonempty
  constructor
  · rintro rfl
    exact ⟨made, reading⟩
  · rintro ⟨written, other⟩
    exact reading.eq_of_flatMap_print_eq other (made.trans written.symm)

/-! ## Stretches that are read back -/

/-- Whether a stretch is plain text. -/
def isText : Inline → Bool
  | .text _ => true
  | .mark _ _ => false

/-- Plain text is not empty and stands between marks, and every mark carries a type. -/
structure IsFlat (type : List Char) (stretches : List Inline) : Prop where
  /-- There is no empty plain text. -/
  nonempty : .text [] ∉ stretches
  /-- Of two neighbours one is a mark. -/
  apart : stretches.IsChain fun first second => first.isText = false ∨ second.isText = false
  /-- The type is one of the types of every mark. -/
  holds : ∀ types inner, .mark types inner ∈ stretches → typesHold types type = true

/-- No part of a stretch holds the tag that ends it. -/
structure IsLiteral (stretches : List Inline) : Prop where
  /-- Plain text does not hold the beginning of a span. -/
  text : ∀ content, .text content ∈ stretches → ¬ spanOpen <:+: content
  /-- The opening tag does not end among the types. -/
  types : ∀ types inner, .mark types inner ∈ stretches → ¬ typesEnd <:+: types
  /-- The text of a mark does not hold the closing tag. -/
  inner : ∀ types inner, .mark types inner ∈ stretches → ¬ spanClose <:+: inner

theorem isText_eq_false_of_mark
    {next : Inline}
    (isMark : ∃ types inner, next = .mark types inner) :
    next.isText = false := by
  obtain ⟨types, inner, rfl⟩ := isMark
  rfl

theorem mark_of_isText_eq_false
    {next : Inline}
    (noText : next.isText = false) :
    ∃ types inner, next = .mark types inner := by
  cases next with
  | text content => contradiction
  | mark types inner => exact ⟨types, inner, rfl⟩

theorem IsFlat.tail
    {stretch : Inline}
    (flat : IsFlat type (stretch :: stretches)) :
    IsFlat type stretches where
  nonempty member := flat.nonempty (List.mem_cons_of_mem _ member)
  apart := flat.apart.of_cons
  holds types inner member := flat.holds types inner (List.mem_cons_of_mem _ member)

theorem IsLiteral.tail
    {stretch : Inline}
    (literal : IsLiteral (stretch :: stretches)) :
    IsLiteral stretches where
  text content member := literal.text content (List.mem_cons_of_mem _ member)
  types types inner member := literal.types types inner (List.mem_cons_of_mem _ member)
  inner types inner member := literal.inner types inner (List.mem_cons_of_mem _ member)

theorem Reading.isFlat (reading : Reading type stretches) : IsFlat type stretches := by
  induction reading with
  | nil => exact ⟨by simp, .nil, by simp⟩
  | mark isSpan _ inductionHypothesis =>
      obtain ⟨nonempty, apart, holds⟩ := inductionHypothesis
      refine ⟨by simpa using nonempty, apart.cons fun _ _ => .inl rfl, ?_⟩
      intro types inner member
      rcases List.mem_cons.1 member with same | later
      · cases same
        exact isSpan.holds
      · exact holds types inner later
  | text filled _ next _ inductionHypothesis =>
      obtain ⟨nonempty, apart, holds⟩ := inductionHypothesis
      refine ⟨by simpa using ⟨filled, nonempty⟩, ?_, fun types inner member => ?_⟩
      · exact apart.cons fun stretch first => .inr (isText_eq_false_of_mark (next stretch first))
      · exact holds types inner ((List.mem_cons.1 member).resolve_left (by simp))

/-- What is written of flat stretches begins with a bracket, unless plain text comes first. -/
theorem bracket_of_head?_isText
    (next : ∀ next ∈ stretches.head?, next.isText = false) :
    stretches.flatMap print = [] ∨ (stretches.flatMap print).head? = some '<' := by
  cases stretches with
  | nil => exact .inl rfl
  | cons stretch stretches =>
      obtain ⟨types, inner, rfl⟩ := mark_of_isText_eq_false (next stretch rfl)
      right
      rw [List.flatMap_cons, print_mark_append]
      exact head?_spanOpen_append _

/-- Flat stretches are a reading when none of their parts holds the tag that ends it. -/
theorem IsFlat.reading
    (flat : IsFlat type stretches)
    (literal : IsLiteral stretches) :
    Reading type stretches := by
  induction stretches with
  | nil => exact .nil
  | cons stretch stretches inductionHypothesis =>
      have later := inductionHypothesis flat.tail literal.tail
      cases stretch with
      | mark types inner =>
          refine .mark ⟨?_, ?_, ?_⟩ later
          · exact flat.holds types inner List.mem_cons_self
          · exact literal.types types inner List.mem_cons_self
          · exact literal.inner types inner List.mem_cons_self
      | text content =>
          have next : ∀ next ∈ stretches.head?, next.isText = false := fun next first =>
            (flat.apart.rel_head? first).resolve_left (by simp [isText])
          refine .text ?_ ?_ (fun stretch first => mark_of_isText_eq_false (next stretch first)) later
          · rintro rfl
            exact flat.nonempty List.mem_cons_self
          · exact holdsNoSpan_of_no_tag (literal.text content List.mem_cons_self)
              (bracket_of_head?_isText next)

/--
Reading a text loses nothing and gives flat stretches, and flat stretches whose parts hold no tag
that ends them are read back from what is written of them.
-/
theorem print_read_and_read_print (type : List Char) :
    (∀ text, (read type text).flatMap print = text ∧ IsFlat type (read type text)) ∧
      ∀ stretches, IsFlat type stretches → IsLiteral stretches →
        read type (stretches.flatMap print) = stretches := by
  refine ⟨fun text => ?_, fun stretches flat literal => ?_⟩
  · obtain ⟨written, reading⟩ := read_eq_iff.1 (rfl : read type text = _)
    exact ⟨written, reading.isFlat⟩
  · exact read_eq_iff.2 ⟨rfl, flat.reading literal⟩

/-- Parts may end in the middle of the tags that would end them. -/
theorem read_print_of_cut_tags :
    read "m".toList
        ([.text "<span data-type=".toList, .mark "a m \"".toList "b</span".toList].flatMap print) =
      [.text "<span data-type=".toList, .mark "a m \"".toList "b</span".toList] := by
  refine (print_read_and_read_print "m".toList).2 _ ⟨by decide, by simp [isText], ?_⟩ ⟨?_, ?_, ?_⟩
  all_goals
    simp only [List.mem_cons, List.not_mem_nil, or_false, reduceCtorEq, false_or, Inline.text.injEq,
      Inline.mark.injEq, forall_eq_apply_imp_iff, forall_eq, and_imp]
    decide +kernel

end Inline
end BlockSearch
