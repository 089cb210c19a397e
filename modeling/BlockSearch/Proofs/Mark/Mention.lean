import BlockSearch.Edit.Mention
import BlockSearch.Proofs.Mark.Preview
import BlockSearch.Proofs.Text.Folding

/-!
# Marks in escaped text

The keywords of a mention are looked for in escaped text, after they are escaped themselves. An
occurrence there is what is written for an occurrence in the text, except where it begins inside
of a character reference: these hold letters that the text does not have.
-/

namespace BlockSearch

/-! ## Cuts of escaped text -/

namespace Html

variable {mode : CaseMode} {text front back : List Char}

theorem escape_cons (c : Char) (text : List Char) :
    escape (c :: text) = escapeChar c ++ escape text := rfl

theorem escape_append (left right : List Char) :
    escape (left ++ right) = escape left ++ escape right := List.flatMap_append

theorem escapeChar_ne_nil (c : Char) : escapeChar c ≠ [] := by
  unfold escapeChar
  split_ifs <;> simp

/-- The cut goes through what is written for a character of the text. -/
def InReference (text front back : List Char) : Prop :=
  ∃ before c after left right, text = before ++ c :: after ∧ escapeChar c = left ++ right ∧
    left ≠ [] ∧ right ≠ [] ∧ front = escape before ++ left ∧ back = right ++ escape after

theorem InReference.cons
    (inside : InReference text front back)
    (c : Char) :
    InReference (c :: text) (escapeChar c ++ front) back := by
  obtain ⟨before, d, after, left, right, rfl, written, leftSome, rightSome, rfl, rfl⟩ := inside
  exact ⟨c :: before, d, after, left, right, rfl, written, leftSome, rightSome,
    by rw [escape_cons, List.append_assoc], rfl⟩

/-- Escaped text is cut between two characters of the text or in a reference. -/
theorem exists_of_escape_eq_append
    (cut : escape text = front ++ back) :
    (∃ before after, text = before ++ after ∧ front = escape before ∧ back = escape after) ∨
      InReference text front back := by
  induction text generalizing front with
  | nil =>
      obtain ⟨rfl, rfl⟩ := List.append_eq_nil_iff.1 cut.symm
      exact .inl ⟨[], [], rfl, rfl, rfl⟩
  | cons c text inductionHypothesis =>
      rw [escape_cons] at cut
      rcases List.append_eq_append_iff.1 cut with ⟨more, rfl, later⟩ | ⟨right, written, rfl⟩
      · rcases inductionHypothesis later with ⟨before, after, rfl, rfl, rfl⟩ | inside
        · exact .inl ⟨c :: before, after, rfl, rfl, rfl⟩
        · exact .inr (inside.cons c)
      · by_cases leftSome : front = []
        · subst leftSome
          rw [List.nil_append] at written
          exact .inl ⟨[], c :: text, rfl, rfl, by rw [escape_cons, written]⟩
        by_cases rightSome : right = []
        · subst rightSome
          rw [List.append_nil] at written
          exact .inl ⟨[c], text, rfl, by simp [escape, written], rfl⟩
        · exact .inr ⟨[], c, text, front, right, rfl, written, leftSome, rightSome, rfl, rfl⟩

/-- A cut between two characters is in no reference. -/
theorem not_inReference_escape (before after : List Char) :
    ¬ InReference (before ++ after) (escape before) back := by
  rintro ⟨first, c, later, left, right, same, written, leftSome, rightSome, front, -⟩
  rcases List.append_eq_append_iff.1 same with ⟨middle, rfl, rest⟩ | ⟨middle, rfl, rest⟩
  · rw [escape_append, List.append_assoc, List.self_eq_append_right] at front
    exact leftSome (List.append_eq_nil_iff.1 front).2
  · rw [escape_append, List.append_cancel_left_eq] at front
    cases middle with
    | nil => exact leftSome front.symm
    | cons d middle =>
        obtain ⟨rfl, -⟩ := List.cons.inj rest
        rw [escape_cons, written, List.append_assoc, List.append_right_eq_self] at front
        exact rightSome (List.append_eq_nil_iff.1 front).1

/-! ## Keywords in escaped text -/

/-- The characters that are written as references. -/
def specials : List Char := ['&', '<', '>', '"', '\'']

theorem escapeChar_of_not_mem
    {c : Char}
    (plain : c ∉ specials) :
    escapeChar c = [c] := by
  simp only [specials, List.mem_cons, not_or] at plain
  simp [escapeChar, plain]

theorem caseVariants_of_mem
    {c : Char}
    (special : c ∈ specials) :
    Text.caseVariants c = [c] := by
  have all : (specials.all fun c => Text.caseVariants c == [c]) = true := by decide +kernel
  exact beq_iff_eq.1 (List.all_eq_true.1 all c special)

/-- No other character is the same as a special one. -/
theorem same_iff_of_mem
    {k c : Char}
    (special : k ∈ specials ∨ c ∈ specials) :
    mode.same k c = true ↔ k = c := by
  cases mode with
  | sensitive => exact beq_iff_eq
  | insensitive =>
      refine beq_iff_eq.trans ⟨fun fold => ?_, congrArg Text.simpleFold⟩
      rcases special with special | special
      · have variant := Text.mem_caseVariants_iff.2 fold.symm
        rw [caseVariants_of_mem special, List.mem_singleton] at variant
        exact variant.symm
      · have variant := Text.mem_caseVariants_iff.2 fold
        rwa [caseVariants_of_mem special, List.mem_singleton] at variant

theorem same_of_ne
    {k c : Char}
    (special : k ∈ specials ∨ c ∈ specials)
    (different : k ≠ c) :
    mode.same k c = false :=
  Bool.eq_false_iff.2 fun same => different ((same_iff_of_mem special).1 same)

theorem exists_escapeChar_eq_cons
    {c : Char}
    (special : c ∈ specials) :
    ∃ first more, escapeChar c = '&' :: first :: more := by
  simp only [specials, List.mem_cons, List.not_mem_nil, or_false] at special
  rcases special with rfl | rfl | rfl | rfl | rfl <;> exact ⟨_, _, rfl⟩

/-- The references of two characters differ in one of their first two letters. -/
theorem begins_take_of_ne
    {k c : Char}
    (left : k ∈ specials)
    (right : c ∈ specials)
    (different : k ≠ c) :
    mode.begins ((escapeChar k).take 2) ((escapeChar c).take 2) = false := by
  have all : (specials.all fun k => specials.all fun c => k == c ||
      !mode.begins ((escapeChar k).take 2) ((escapeChar c).take 2)) = true := by
    cases mode <;> decide +kernel
  have apart := List.all_eq_true.1 (List.all_eq_true.1 all k left) c right
  rwa [beq_eq_false_iff_ne.2 different, Bool.false_or, Bool.not_eq_true'] at apart

/-- A written character is found where it is the same as the character that is written. -/
theorem begins_escapeChar (mode : CaseMode) (k c : Char) (rest : List Char) :
    mode.begins (escapeChar k) (escapeChar c ++ rest) = mode.same k c := by
  have ampersand : '&' ∈ specials := by decide
  by_cases left : k ∈ specials <;> by_cases right : c ∈ specials
  · by_cases equal : k = c
    · rw [(same_iff_of_mem (.inl left)).2 equal, equal, CaseMode.begins_iff_map_key,
        List.map_append]
      exact List.prefix_append _ _
    · obtain ⟨first, more, written⟩ := exists_escapeChar_eq_cons right
      have long : 2 ≤ (escapeChar c).length := by simp [written]
      rw [same_of_ne (.inl left) equal, Bool.eq_false_iff]
      intro begins
      have taken := (CaseMode.begins_iff_map_key.1 begins).take 2
      rw [← List.map_take, ← List.map_take, List.take_append_of_le_length long,
        ← CaseMode.begins_iff_map_key, begins_take_of_ne left right equal] at taken
      contradiction
  · obtain ⟨first, more, written⟩ := exists_escapeChar_eq_cons left
    rw [written, escapeChar_of_not_mem right, List.singleton_append, CaseMode.begins,
      same_of_ne (.inl ampersand) (ne_of_mem_of_not_mem ampersand right),
      same_of_ne (.inl left) (ne_of_mem_of_not_mem left right), Bool.false_and]
  · obtain ⟨first, more, written⟩ := exists_escapeChar_eq_cons right
    rw [escapeChar_of_not_mem left, written, List.cons_append, CaseMode.begins,
      same_of_ne (.inr ampersand) (ne_of_mem_of_not_mem ampersand left).symm,
      same_of_ne (.inr right) (ne_of_mem_of_not_mem right left).symm, Bool.false_and]
  · rw [escapeChar_of_not_mem left, escapeChar_of_not_mem right, List.singleton_append,
      CaseMode.begins, CaseMode.begins, Bool.and_true]

theorem length_escapeChar_of_same
    {k c : Char}
    (same : mode.same k c = true) :
    (escapeChar k).length = (escapeChar c).length := by
  by_cases special : k ∈ specials ∨ c ∈ specials
  · rw [(same_iff_of_mem special).1 same]
  · rw [not_or] at special
    rw [escapeChar_of_not_mem special.1, escapeChar_of_not_mem special.2]
    rfl

/-- Escaped text begins with an escaped keyword when the text begins with the keyword. -/
theorem begins_escape (mode : CaseMode) (keyword text : List Char) :
    mode.begins (escape keyword) (escape text) = mode.begins keyword text := by
  induction keyword generalizing text with
  | nil => simp [escape, CaseMode.begins]
  | cons k keyword inductionHypothesis =>
      cases text with
      | nil =>
          rw [escape_cons, CaseMode.begins_append]
          obtain ⟨c, more, written⟩ := List.exists_cons_of_ne_nil (escapeChar_ne_nil k)
          rw [written]
          rfl
      | cons c text =>
          rw [escape_cons, escape_cons, CaseMode.begins_append, begins_escapeChar, CaseMode.begins]
          cases same : mode.same k c with
          | false => rfl
          | true =>
              rw [length_escapeChar_of_same same, List.drop_left, inductionHypothesis]

theorem length_escape_of_map_key
    {keyword word : List Char}
    (same : keyword.map mode.key = word.map mode.key) :
    (escape keyword).length = (escape word).length := by
  induction keyword generalizing word with
  | nil => rw [List.map_eq_nil_iff.1 (same.symm.trans List.map_nil)]
  | cons k keyword inductionHypothesis =>
      cases word with
      | nil => simp at same
      | cons c word =>
          rw [List.map_cons, List.map_cons, List.cons.injEq] at same
          rw [escape_cons, escape_cons, List.length_append, List.length_append,
            inductionHypothesis same.2, length_escapeChar_of_same (beq_iff_eq.2 same.1)]

end Html

namespace Mark

variable {mode : CaseMode} {keywords : List (List Char)}
  {before rest front hit back left right text : List Char} {segments : List Segment}

/-- The hit is what is written in escaped text for an occurrence of a keyword in the text. -/
def WritesOccurrence
    (mode : CaseMode)
    (keywords : List (List Char))
    (text front hit back : List Char) : Prop :=
  ∃ before word after, text = before ++ (word ++ after) ∧
    front = Html.escape before ∧ hit = Html.escape word ∧ back = Html.escape after ∧
      ∃ keyword ∈ keywords, keyword ≠ [] ∧ keyword.map mode.key = word.map mode.key

theorem WritesOccurrence.occurs
    (writes : WritesOccurrence mode keywords text front hit back) :
    Occurs mode keywords text := by
  obtain ⟨before, word, after, rfl, -, -, -, keyword, member, nonempty, same⟩ := writes
  refine ⟨word ++ after, List.suffix_append _ _, keyword, member, nonempty, ?_⟩
  rw [CaseMode.begins_iff_map_key, same, List.map_append]
  exact List.prefix_append _ _

/-- A hit of escaped keywords is written for an occurrence unless it begins in a reference. -/
theorem writesOccurrence_iff
    (cut : Html.escape text = front ++ (hit ++ back))
    (isHit : ∃ behind, IsHit mode (keywords.map Html.escape) hit behind) :
    WritesOccurrence mode keywords text front hit back ↔
      ¬ Html.InReference text front (hit ++ back) := by
  constructor
  · rintro ⟨before, word, after, rfl, rfl, -⟩
    exact Html.not_inReference_escape before (word ++ after)
  · intro outside
    obtain ⟨before, behind, rfl, rfl, written⟩ :=
      (Html.exists_of_escape_eq_append cut).resolve_right outside
    obtain ⟨_, isHit⟩ := isHit
    obtain ⟨_, escaped, length, spelled⟩ := isHit.spelled
    obtain ⟨keyword, member, rfl⟩ := List.mem_map.1 escaped
    have begins : mode.begins keyword behind = true := by
      rw [← Html.begins_escape, ← written, ← mode.begins_take, length, List.take_left]
      exact spelled
    have same : keyword.map mode.key = (behind.take keyword.length).map mode.key := by
      have whole := List.prefix_iff_eq_take.1 (CaseMode.begins_iff_map_key.1 begins)
      rwa [List.length_map, ← List.map_take] at whole
    have written : hit ++ back = Html.escape (behind.take keyword.length) ++
        Html.escape (behind.drop keyword.length) := by
      rw [written, ← Html.escape_append, List.take_append_drop]
    obtain ⟨hitWritten, backWritten⟩ := List.append_inj written
      (length.symm.trans (Html.length_escape_of_map_key same))
    refine ⟨before, behind.take keyword.length, behind.drop keyword.length,
      by rw [List.take_append_drop], rfl, hitWritten, backWritten, keyword, member, ?_, same⟩
    rintro rfl
    exact isHit.nonempty (List.length_eq_zero_iff.1 length.symm)

/-! ## Marks of a text -/

/-- The text without the tags of marks. -/
def unmarked (text : List Char) : List Char :=
  Text.replace closeTag [] (Text.replace openTag [] text)

/-- A mark encloses the hit; without tags, the text around it is `front` and `back`. -/
def Encloses (text front hit back : List Char) : Prop :=
  ∃ before behind, text = before ++ (openTag ++ (hit ++ (closeTag ++ behind))) ∧
    '<' ∉ hit ∧ front = unmarked before ∧ back = unmarked behind

theorem enclosed_hit_append (opening closing hit rest : List Char) :
    (Segment.hit hit).enclosed opening closing ++ rest =
      opening ++ (hit ++ (closing ++ rest)) := by
  simp [Segment.enclosed]

theorem replace_openTag_append
    (noBracket : '<' ∉ front)
    (text : List Char) :
    Text.replace openTag [] (front ++ text) = front ++ Text.replace openTag [] text :=
  Text.replace_append_of_not_mem noBracket text

theorem replace_openTag_enclosed
    (noBracket : '<' ∉ segments.flatMap Segment.text) :
    Text.replace openTag [] (segments.flatMap (·.enclosed openTag closeTag)) =
      segments.flatMap (·.enclosed [] closeTag) := by
  have kept (text : List Char) :
      Text.replace openTag [] (closeTag ++ text) = closeTag ++ Text.replace openTag [] text := by
    have absent : ¬ openTag <+: '<' :: ("/mark>".toList ++ text) := by
      simp [openTag_eq, List.cons_prefix_cons]
    have others : Text.replace openTag [] ("/mark>".toList ++ text) =
        "/mark>".toList ++ Text.replace openTag [] text := replace_openTag_append (by decide) text
    exact (Text.replace_cons absent).trans (congrArg _ others)
  induction segments with
  | nil => exact Text.replace_nil (by decide)
  | cons segment segments inductionHypothesis =>
      rw [List.flatMap_cons, List.mem_append, not_or] at noBracket
      rw [List.flatMap_cons, List.flatMap_cons, ← inductionHypothesis noBracket.2]
      cases segment with
      | plain text => exact replace_openTag_append noBracket.1 _
      | hit hit =>
          have inside : '<' ∉ hit := noBracket.1
          rw [enclosed_hit_append, enclosed_hit_append, Text.replace_append_self (by decide),
            replace_openTag_append inside, kept]

theorem unmarked_enclosed
    (noBracket : '<' ∉ segments.flatMap Segment.text) :
    unmarked (segments.flatMap (·.enclosed openTag closeTag)) = segments.flatMap Segment.text := by
  have stays {front : List Char} (noBracket : '<' ∉ front) (text : List Char) :
      Text.replace closeTag [] (front ++ text) = front ++ Text.replace closeTag [] text :=
    Text.replace_append_of_not_mem noBracket text
  rw [unmarked, replace_openTag_enclosed noBracket]
  induction segments with
  | nil => exact Text.replace_nil (by decide)
  | cons segment segments inductionHypothesis =>
      rw [List.flatMap_cons, List.mem_append, not_or] at noBracket
      rw [List.flatMap_cons, List.flatMap_cons, ← inductionHypothesis noBracket.2]
      cases segment with
      | plain text => exact stays noBracket.1 _
      | hit hit =>
          have inside : '<' ∉ hit := noBracket.1
          rw [enclosed_hit_append, List.nil_append, stays inside,
            Text.replace_append_self (by decide)]
          rfl

/-- Every opening tag in marked segments is the tag of a hit. -/
theorem exists_of_enclosed_eq_append
    (noBracket : '<' ∉ segments.flatMap Segment.text)
    (opened : segments.flatMap (·.enclosed openTag closeTag) = before ++ (openTag ++ rest)) :
    ∃ left hit right, segments = left ++ .hit hit :: right ∧
      before = left.flatMap (·.enclosed openTag closeTag) ∧
      rest = hit ++ (closeTag ++ right.flatMap (·.enclosed openTag closeTag)) := by
  induction segments generalizing before with
  | nil => simp [openTag_eq] at opened
  | cons segment segments inductionHypothesis =>
      rw [List.flatMap_cons, List.mem_append, not_or] at noBracket
      rw [List.flatMap_cons] at opened
      have later {middle : List Char}
          (behind : before = segment.enclosed openTag closeTag ++ middle)
          (opened : segments.flatMap (·.enclosed openTag closeTag) =
            middle ++ (openTag ++ rest)) :
          ∃ left hit right, segment :: segments = left ++ .hit hit :: right ∧
            before = left.flatMap (·.enclosed openTag closeTag) ∧
            rest = hit ++ (closeTag ++ right.flatMap (·.enclosed openTag closeTag)) := by
        obtain ⟨left, hit, right, rfl, rfl, same⟩ := inductionHypothesis noBracket.2 opened
        exact ⟨segment :: left, hit, right, rfl, behind, same⟩
      cases segment with
      | plain text =>
          obtain ⟨middle, behind, next⟩ := Text.exists_append_of_not_mem noBracket.1 opened
          exact later behind next
      | hit hit =>
          rw [enclosed_hit_append] at opened
          cases before with
          | nil => exact ⟨[], hit, segments, rfl, rfl, (List.append_cancel_left opened).symm⟩
          | cons c before =>
              -- The next tag begins with the bracket of neither tag of this mark.
              have inside : '<' ∉ "mark>".toList ++ hit := not_mem_mark_body noBracket.1
              have outside : '<' ∉ "/mark>".toList := by decide
              rw [openTag_eq, List.cons_append, List.cons_append, List.cons_append, List.cons.injEq,
                ← List.append_assoc] at opened
              obtain ⟨rfl, body⟩ := opened
              obtain ⟨middle, rfl, closed⟩ := Text.exists_append_of_not_mem inside body
              cases middle with
              | nil => simp [closeTag_eq] at closed
              | cons c middle =>
                  rw [closeTag_eq, List.cons_append, List.cons_append, List.cons.injEq] at closed
                  obtain ⟨rfl, behind⟩ := closed
                  obtain ⟨middle, rfl, next⟩ := Text.exists_append_of_not_mem outside behind
                  refine later ?_ next
                  rw [enclosed_hit_append, openTag_eq, closeTag_eq]
                  simp

/-- A mark ends at the first bracket. -/
theorem append_closeTag_inj
    {other : List Char}
    (hitInside : '<' ∉ hit)
    (otherInside : '<' ∉ other)
    (same : hit ++ (closeTag ++ left) = other ++ (closeTag ++ right)) :
    hit = other ∧ left = right := by
  rw [closeTag_eq, List.cons_append, List.cons_append] at same
  obtain ⟨middle, rfl, next⟩ := Text.exists_append_of_not_mem hitInside same
  cases middle with
  | nil => exact ⟨(List.append_nil hit).symm, by simpa using next⟩
  | cons c middle =>
      rw [List.cons_append, List.cons.injEq] at next
      obtain ⟨rfl, -⟩ := next
      exact absurd (List.mem_append_right _ List.mem_cons_self) otherInside

theorem exists_of_encloses
    (noBracket : '<' ∉ segments.flatMap Segment.text)
    (encloses : Encloses (segments.flatMap (·.enclosed openTag closeTag)) front hit back) :
    ∃ left right, segments = left ++ .hit hit :: right ∧
      front = left.flatMap Segment.text ∧ back = right.flatMap Segment.text := by
  obtain ⟨before, behind, opened, hitInside, rfl, rfl⟩ := encloses
  obtain ⟨left, other, right, rfl, rfl, closed⟩ := exists_of_enclosed_eq_append noBracket opened
  rw [List.flatMap_append, List.flatMap_cons, List.mem_append, List.mem_append, not_or,
    not_or] at noBracket
  obtain ⟨leftInside, otherInside, rightInside⟩ := noBracket
  obtain ⟨rfl, rfl⟩ := append_closeTag_inj hitInside otherInside closed
  exact ⟨left, right, rfl, unmarked_enclosed leftInside, unmarked_enclosed rightInside⟩

/-! ## Marks of a preview -/

theorem flatMap_text_takeBack (segments : List Segment) :
    (takeBack segments).flatMap Segment.text = segments.flatMap Segment.text := by
  induction segments with
  | nil => rfl
  | cons segment segments inductionHypothesis =>
      cases segment with
      | plain text => rw [takeBack, List.flatMap_cons, List.flatMap_cons, inductionHypothesis]
      | hit text =>
          rw [takeBack, List.flatMap_cons, List.flatMap_cons, inductionHypothesis]
          split_ifs <;> rfl

theorem mem_of_mem_takeBack
    (member : .hit hit ∈ takeBack segments) :
    .hit hit ∈ segments := by
  induction segments with
  | nil => contradiction
  | cons segment segments inductionHypothesis =>
      cases segment with
      | plain text =>
          rw [takeBack, List.mem_cons] at member
          exact List.mem_cons_of_mem _ (inductionHypothesis (member.resolve_left (by simp)))
      | hit text =>
          rw [takeBack, List.mem_cons] at member
          rcases member with same | later
          · split_ifs at same
            rw [same]
            exact List.mem_cons_self
          · exact List.mem_cons_of_mem _ (inductionHypothesis later)

/-- The segments that stay spell the text. -/
theorem flatMap_text_takeBack_segments
    (mode : CaseMode)
    (keywords : List (List Char))
    (text : List Char) :
    (takeBack (Mark.segments mode keywords text)).flatMap Segment.text = text :=
  (flatMap_text_takeBack _).trans (segmented_segments mode keywords text).flatMap_text

/-- Every opening tag in a preview is closed behind a text without brackets. -/
theorem exists_closeTag_of_encloseWords
    (noBracket : '<' ∉ text)
    (opened : encloseWords mode keywords openTag closeTag text = before ++ (openTag ++ rest)) :
    ∃ hit behind, rest = hit ++ (closeTag ++ behind) ∧ '<' ∉ hit := by
  have whole := flatMap_text_takeBack_segments mode keywords text
  rw [encloseWords_eq noBracket] at opened
  rw [← whole] at noBracket
  obtain ⟨left, hit, right, split, rfl, rfl⟩ := exists_of_enclosed_eq_append noBracket opened
  refine ⟨hit, _, rfl, fun inside => noBracket ?_⟩
  rw [split, List.flatMap_append, List.flatMap_cons]
  exact List.mem_append_right _ (List.mem_append_left _ inside)

/-- Without its tags a preview is the text, and its marks enclose hits. -/
theorem Encloses.of_encloseWords
    (noBracket : '<' ∉ text)
    (encloses : Encloses (encloseWords mode keywords openTag closeTag text) front hit back) :
    text = front ++ (hit ++ back) ∧ ∃ behind, IsHit mode keywords hit behind := by
  have whole := flatMap_text_takeBack_segments mode keywords text
  rw [encloseWords_eq noBracket] at encloses
  rw [← whole] at noBracket
  obtain ⟨left, right, split, rfl, rfl⟩ := exists_of_encloses noBracket encloses
  refine ⟨?_, (segmented_segments mode keywords text).exists_isHit (mem_of_mem_takeBack ?_)⟩
  · rw [← whole, split, List.flatMap_append, List.flatMap_cons]
    rfl
  · rw [split]
    exact List.mem_append_right _ List.mem_cons_self

end Mark

namespace Tree

variable {tree : Tree} {mode : CaseMode} {keywords : List String} {mention : Mention} {i : NodeId}
  {before rest front hit back : List Char}

theorem bracket_not_mem_escape (text : List Char) : '<' ∉ Html.escape text := fun bracket =>
  (Mark.isPlain_of_mem_escape text _ bracket).1 rfl

theorem exists_closeTag_of_markedText
    (opened : tree.markedText mode keywords i = before ++ (Mark.openTag ++ rest)) :
    ∃ hit behind, rest = hit ++ (Mark.closeTag ++ behind) ∧ '<' ∉ hit :=
  Mark.exists_closeTag_of_encloseWords (bracket_not_mem_escape _) opened

/-- A mark is of an occurrence in the text of the block unless it begins in a reference. -/
theorem writesOccurrence_iff_of_markedText
    (encloses : Mark.Encloses (tree.markedText mode keywords i) front hit back) :
    Html.escape (tree.text i).toList = front ++ (hit ++ back) ∧
      (Mark.WritesOccurrence mode (keywords.map String.toList) (tree.text i).toList
          front hit back ↔
        ¬ Html.InReference (tree.text i).toList front (hit ++ back)) := by
  obtain ⟨whole, isHit⟩ := encloses.of_encloseWords (bracket_not_mem_escape _)
  refine ⟨whole, Mark.writesOccurrence_iff whole ?_⟩
  rw [List.map_map]
  exact isHit

/-- A mention is of a leaf block with an identifier and a mark. -/
theorem mention?_eq_some_iff :
    tree.mention? mode keywords i = some mention ↔
      (tree.kind i).isBlock = true ∧ (tree.kind i).isContainer = false ∧
        Mark.openTag <:+: tree.markedText mode keywords i ∧
        (tree.node i).id = some mention.id ∧
        String.ofList (Mark.bound Mark.contentLimit (tree.markedText mode keywords i)) =
          mention.content := by
  obtain ⟨id, content⟩ := mention
  rw [mention?, ← Text.contains_iff]
  cases isBlock : (tree.kind i).isBlock <;> cases isContainer : (tree.kind i).isContainer <;>
    cases named : (tree.node i).id <;> simp

/--
The mentions are the leaf blocks of the tree with a mark. Without tags the marked text of such a
block is its escaped text, and what a mark encloses is what an occurrence of a keyword in the text
of the block is written as, exactly when the mark does not begin inside of a character reference.
So the text has an occurrence and all marks are of occurrences exactly when no mark begins so.
-/
theorem mem_mentions_iff_marks :
    mention ∈ tree.mentions mode keywords ↔ ∃ i ∈ tree.descendants root,
      let text := (tree.text i).toList
      let words := keywords.map String.toList
      let marked := tree.markedText mode keywords i
      ((tree.kind i).isBlock = true ∧ (tree.kind i).isContainer = false ∧
        (tree.node i).id = some mention.id ∧ Mark.openTag <:+: marked ∧
        mention.content = String.ofList (Mark.bound Mark.contentLimit marked)) ∧
      (∀ before rest, marked = before ++ (Mark.openTag ++ rest) →
        ∃ hit behind, rest = hit ++ (Mark.closeTag ++ behind) ∧ '<' ∉ hit) ∧
      (∀ front hit back, Mark.Encloses marked front hit back →
        Html.escape text = front ++ (hit ++ back) ∧
          (Mark.WritesOccurrence mode words text front hit back ↔
            ¬ Html.InReference text front (hit ++ back))) ∧
      ((Mark.Occurs mode words text ∧ ∀ front hit back, Mark.Encloses marked front hit back →
          Mark.WritesOccurrence mode words text front hit back) ↔
        ∀ front hit back, Mark.Encloses marked front hit back →
          ¬ Html.InReference text front (hit ++ back)) := by
  constructor
  · intro member
    obtain ⟨i, inside, found⟩ := List.mem_filterMap.1 member
    obtain ⟨isBlock, isLeaf, marked, id, content⟩ := mention?_eq_some_iff.1 found
    refine ⟨i, inside, ⟨isBlock, isLeaf, id, marked, content.symm⟩,
      fun _ _ => exists_closeTag_of_markedText, fun _ _ _ => writesOccurrence_iff_of_markedText,
      ?_, ?_⟩
    · rintro ⟨-, writes⟩ front hit back encloses
      exact (writesOccurrence_iff_of_markedText encloses).2.1 (writes front hit back encloses)
    · intro outside
      have writes (front hit back : List Char)
          (encloses : Mark.Encloses (tree.markedText mode keywords i) front hit back) :=
        (writesOccurrence_iff_of_markedText encloses).2.2 (outside front hit back encloses)
      obtain ⟨before, rest, opened⟩ := marked
      rw [List.append_assoc, eq_comm] at opened
      obtain ⟨hit, behind, rfl, hitInside⟩ := exists_closeTag_of_markedText opened
      exact ⟨(writes _ hit _ ⟨before, behind, opened, hitInside, rfl, rfl⟩).occurs, writes⟩
  · rintro ⟨i, inside, ⟨isBlock, isLeaf, id, marked, content⟩, -⟩
    exact List.mem_filterMap.2
      ⟨i, inside, mention?_eq_some_iff.2 ⟨isBlock, isLeaf, marked, id, content.symm⟩⟩

/-- The name of a reference is marked in a text that does not have it. -/
theorem mem_mentions_iff_marks_of_ampersand :
    let tree := ((Tree.new "d" "b" "/d.sy" "/D").appendNew 0 .paragraph (some "p")).appendNew 1
      (.text "a & b") none
    (⟨"p", "a &<mark>amp</mark>; b"⟩ : Mention) ∈ tree.mentions .sensitive ["amp"] ∧
      (∀ i ∈ tree.descendants root,
        ¬ Mark.Occurs .sensitive ["amp".toList] (tree.text i).toList) ∧
      ∃ i ∈ tree.descendants root, ∃ front hit back,
        Mark.Encloses (tree.markedText .sensitive ["amp"] i) front hit back ∧
          Html.InReference (tree.text i).toList front (hit ++ back) := by
  intro tree
  have listed : (⟨"p", "a &<mark>amp</mark>; b"⟩ : Mention) ∈ tree.mentions .sensitive ["amp"] := by
    decide +kernel
  have noHit : ∀ i ∈ tree.descendants root,
      ∀ segment ∈ Mark.segments .sensitive ["amp".toList] (tree.text i).toList,
        ¬ segment.isHit = true := by
    decide +kernel
  have absent : ∀ i ∈ tree.descendants root,
      ¬ Mark.Occurs .sensitive ["amp".toList] (tree.text i).toList := by
    intro i inside
    rw [(Mark.segmented_segments _ _ _).occurs_iff]
    rintro ⟨segment, member, isHit⟩
    exact noHit i inside segment member isHit
  obtain ⟨i, inside, -, -, -, holds⟩ := mem_mentions_iff_marks.1 listed
  refine ⟨listed, absent, i, inside, ?_⟩
  by_contra outside
  refine absent i inside (holds.2 fun front hit back encloses inReference => ?_).1
  exact outside ⟨front, hit, back, encloses, inReference⟩

end Tree
end BlockSearch
