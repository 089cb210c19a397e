import BlockSearch.Mark.Segment
import BlockSearch.Proofs.Mark.Segmentation

/-!
# Marks that are taken back

Whether a mark stays is decided by what stands behind its closing tag while all marks are still
there: the hits before a gap that begins with a letter are taken back, and no others. A hit before
another hit stays, so when the other one is taken back a letter may come to stand behind its tag.
-/

namespace BlockSearch
namespace Mark

variable {mode : CaseMode} {keywords : List (List Char)} {front hit text : List Char}
  {segments : List Segment}

/-! ## Tags -/

theorem openTag_eq : openTag = '<' :: "mark>".toList := rfl

theorem closeTag_eq : closeTag = '<' :: "/mark>".toList := rfl

/-- Behind the bracket of its opening tag, a mark has none up to the closing tag. -/
theorem mark_append_eq (hit text : List Char) :
    openTag ++ hit ++ closeTag ++ text =
      '<' :: ("mark>".toList ++ hit ++ (closeTag ++ text)) := by
  rw [openTag_eq]
  simp

theorem not_mem_mark_body
    (noBracket : '<' ∉ hit) :
    '<' ∉ "mark>".toList ++ hit :=
  List.not_mem_append (by decide) noBracket

/-! ## Segments -/

/-- Whether a segment is a gap that begins with a letter. -/
def Segment.continuesWord : Segment → Bool
  | .plain text => beginsWithLetter text
  | .hit _ => false

/-- The segments in which every hit before a gap that begins with a letter is plain text. -/
def takeBack : List Segment → List Segment
  | [] => []
  | .plain text :: rest => .plain text :: takeBack rest
  | .hit text :: rest =>
      (if rest.head?.any Segment.continuesWord then .plain text else .hit text) :: takeBack rest

theorem beginsWithLetter_append
    (nonempty : front ≠ [])
    (text : List Char) :
    beginsWithLetter (front ++ text) = beginsWithLetter front := by
  cases front with
  | nil => contradiction
  | cons c front => rfl

/-- What is written of the segments begins with a letter when a gap that does comes first. -/
theorem Segmented.beginsWithLetter_enclosed
    (segmented : Segmented mode keywords text segments) :
    beginsWithLetter (segments.flatMap (·.enclosed openTag closeTag)) =
      segments.head?.any Segment.continuesWord := by
  cases segmented with
  | nil => rfl
  | hit _ _ => rfl
  | plain nonempty _ _ _ => exact beginsWithLetter_append nonempty _

/-- Among the segments that stay, a hit that is taken back may come first, too. -/
theorem Segmented.beginsWithLetter_takeBack
    (segmented : Segmented mode keywords text segments) :
    beginsWithLetter ((takeBack segments).flatMap (·.enclosed openTag closeTag)) = true ↔
      segments.head?.any Segment.continuesWord = true ∨
        ∃ hit gap, [.hit hit, .plain gap] <+: segments ∧ beginsWithLetter hit = true ∧
          beginsWithLetter gap = true := by
  have tag (text : List Char) : beginsWithLetter (openTag ++ text) = false := rfl
  cases segmented with
  | nil => simp [takeBack, beginsWithLetter]
  | plain nonempty _ _ _ =>
      have first := beginsWithLetter_append nonempty
      simp [takeBack, Segment.enclosed, first, Segment.continuesWord, List.cons_prefix_cons]
  | @hit hit behind segments isHit _ =>
      have first := beginsWithLetter_append isHit.nonempty
      rcases segments with - | ⟨gap | next, segments⟩
      · simp [takeBack, Segment.enclosed, Segment.continuesWord, List.cons_prefix_cons, tag]
      · cases letter : beginsWithLetter gap <;>
          simp [takeBack, Segment.enclosed, Segment.continuesWord, List.cons_prefix_cons, letter,
            first, tag]
      · simp [takeBack, Segment.enclosed, Segment.continuesWord, List.cons_prefix_cons, tag]

/-! ## Pieces -/

/-- The first piece of a text begins with a letter when the text does. -/
theorem beginsWithLetter_of_splitOn
    {first : List Char}
    {others : List (List Char)}
    (split : Text.splitOn closeTag text = first :: others) :
    beginsWithLetter first = beginsWithLetter text := by
  have nonempty : closeTag ≠ [] := by decide
  cases text with
  | nil =>
      rw [Text.splitOn_of_cutAt?_eq_none nonempty rfl] at split
      cases split
      rfl
  | cons c text =>
      by_cases begins : closeTag <+: c :: text
      · obtain ⟨rest, whole⟩ := begins
        rw [← whole, Text.splitOn_append_self nonempty] at split
        cases split
        rw [← whole]
        rfl
      · obtain ⟨next, more, later⟩ := Text.exists_cons_of_splitOn nonempty text
        rw [Text.splitOn_cons begins, later] at split
        cases split
        rfl

/-- A text without brackets stays in front of the pieces. -/
theorem rejoinPieces_append
    (noBracket : '<' ∉ front)
    (text : List Char) :
    rejoinPieces openTag closeTag (Text.splitOn closeTag (front ++ text)) =
      front ++ rejoinPieces openTag closeTag (Text.splitOn closeTag text) := by
  have pieces : Text.splitOn closeTag (front ++ text) =
      (Text.splitOn closeTag text).modifyHead (front ++ ·) :=
    Text.splitOn_append_of_not_mem noBracket text
  have replaced (piece : List Char) :
      Text.replace openTag [] (front ++ piece) = front ++ Text.replace openTag [] piece :=
    Text.replace_append_of_not_mem noBracket piece
  obtain ⟨first, others, split⟩ := Text.exists_cons_of_splitOn (by decide : closeTag ≠ []) text
  rw [pieces, split, List.modifyHead_cons]
  cases others with
  | nil => rfl
  | cons next others =>
      rw [rejoinPieces, rejoinPieces, replaced]
      split_ifs <;> simp

/-- A mark is taken back when a letter stands behind its closing tag. -/
theorem rejoinPieces_mark
    (noBracket : '<' ∉ hit)
    (text : List Char) :
    rejoinPieces openTag closeTag (Text.splitOn closeTag (openTag ++ hit ++ closeTag ++ text)) =
      (if beginsWithLetter text then hit else openTag ++ hit ++ closeTag) ++
        rejoinPieces openTag closeTag (Text.splitOn closeTag text) := by
  have nonempty : closeTag ≠ [] := by decide
  have absent : ¬ closeTag <+: '<' :: ("mark>".toList ++ hit ++ (closeTag ++ text)) := by
    simp [closeTag_eq, List.cons_prefix_cons]
  have behind : Text.splitOn closeTag ("mark>".toList ++ hit ++ (closeTag ++ text)) =
      (Text.splitOn closeTag (closeTag ++ text)).modifyHead ("mark>".toList ++ hit ++ ·) :=
    Text.splitOn_append_of_not_mem (not_mem_mark_body noBracket) _
  have pieces : Text.splitOn closeTag (openTag ++ hit ++ closeTag ++ text) =
      (openTag ++ hit) :: Text.splitOn closeTag text := by
    rw [mark_append_eq, Text.splitOn_cons absent, behind, Text.splitOn_append_self nonempty]
    simp [openTag_eq]
  have bare : Text.replace openTag [] (openTag ++ hit) = hit := by
    rw [Text.replace_append_self (by decide), Text.replace_of_not_infix, List.nil_append]
    exact fun occurs => noBracket (occurs.subset (by decide))
  obtain ⟨first, others, split⟩ := Text.exists_cons_of_splitOn nonempty text
  rw [pieces, split, rejoinPieces, bare, beginsWithLetter_of_splitOn split]

theorem Segmented.rejoinPieces
    (segmented : Segmented mode keywords text segments)
    (noBracket : '<' ∉ text) :
    rejoinPieces openTag closeTag
        (Text.splitOn closeTag (segments.flatMap (·.enclosed openTag closeTag))) =
      (takeBack segments).flatMap (·.enclosed openTag closeTag) := by
  induction segmented with
  | nil =>
      rw [List.flatMap_nil, Text.splitOn_of_cutAt?_eq_none (by decide) rfl]
      rfl
  | hit _ behind inductionHypothesis =>
      rw [List.mem_append, not_or] at noBracket
      rw [List.flatMap_cons, Segment.enclosed, rejoinPieces_mark noBracket.1,
        inductionHypothesis noBracket.2, behind.beginsWithLetter_enclosed, takeBack,
        List.flatMap_cons]
      split_ifs <;> rfl
  | plain _ _ _ _ inductionHypothesis =>
      rw [List.mem_append, not_or] at noBracket
      rw [List.flatMap_cons, Segment.enclosed, rejoinPieces_append noBracket.1,
        inductionHypothesis noBracket.2, takeBack, List.flatMap_cons, Segment.enclosed]

/-- The marks that stay are those of the hits that are not taken back. -/
theorem encloseWords_eq
    (noBracket : '<' ∉ text)
    (mode : CaseMode)
    (keywords : List (List Char)) :
    encloseWords mode keywords openTag closeTag text =
      (takeBack (Mark.segments mode keywords text)).flatMap (·.enclosed openTag closeTag) :=
  (segmented_segments mode keywords text).rejoinPieces noBracket

/-! ## Letters behind tags -/

/-- A letter stands right behind a closing tag. -/
def LetterBehindTag (text : List Char) : Prop :=
  ∃ c : Char, c.isAlpha = true ∧ closeTag ++ [c] <:+: text

theorem letterBehindTag_append
    (noBracket : '<' ∉ front) :
    LetterBehindTag (front ++ text) ↔ LetterBehindTag text := by
  induction front with
  | nil => rfl
  | cons d front inductionHypothesis =>
      rw [List.mem_cons, not_or] at noBracket
      rw [← inductionHypothesis noBracket.2, List.cons_append]
      refine exists_congr fun c => and_congr_right fun _ => ?_
      rw [List.infix_cons_iff, or_iff_right]
      exact fun begins => noBracket.1 (List.cons_prefix_cons.1 begins).1

theorem letterBehindTag_closeTag :
    LetterBehindTag (closeTag ++ text) ↔ beginsWithLetter text = true ∨ LetterBehindTag text := by
  have inside : LetterBehindTag ("/mark>".toList ++ text) ↔ LetterBehindTag text :=
    letterBehindTag_append (by decide)
  have begins : beginsWithLetter text = true ↔
      ∃ c : Char, c.isAlpha = true ∧ closeTag ++ [c] <+: closeTag ++ text := by
    simp only [List.prefix_append_right_inj]
    cases text with
    | nil => simp [beginsWithLetter]
    | cons d text => simp [beginsWithLetter, List.cons_prefix_cons]
  have split (c : Char) : closeTag ++ [c] <:+: closeTag ++ text ↔
      closeTag ++ [c] <+: closeTag ++ text ∨ closeTag ++ [c] <:+: "/mark>".toList ++ text :=
    List.infix_cons_iff
  rw [← inside, begins]
  simp only [LetterBehindTag, split, and_or_left, exists_or]

theorem letterBehindTag_mark
    (noBracket : '<' ∉ hit) :
    LetterBehindTag (openTag ++ hit ++ closeTag ++ text) ↔
      beginsWithLetter text = true ∨ LetterBehindTag text := by
  have opening : LetterBehindTag ('<' :: ("mark>".toList ++ hit ++ (closeTag ++ text))) ↔
      LetterBehindTag ("mark>".toList ++ hit ++ (closeTag ++ text)) := by
    refine exists_congr fun c => and_congr_right fun _ => ?_
    rw [List.infix_cons_iff, or_iff_right]
    simp [closeTag_eq, List.cons_prefix_cons]
  rw [mark_append_eq, opening, letterBehindTag_append (not_mem_mark_body noBracket),
    letterBehindTag_closeTag]

/--
A letter stands behind a tag that stays when the hit there is followed by one that is taken back.
-/
theorem Segmented.letterBehindTag_iff
    (segmented : Segmented mode keywords text segments)
    (noBracket : '<' ∉ text) :
    LetterBehindTag ((takeBack segments).flatMap (·.enclosed openTag closeTag)) ↔
      ∃ first second gap, [.hit first, .hit second, .plain gap] <:+: segments ∧
        beginsWithLetter second = true ∧ beginsWithLetter gap = true := by
  induction segmented with
  | nil => simp [takeBack, LetterBehindTag, closeTag_eq]
  | plain _ _ _ _ inductionHypothesis =>
      rw [List.mem_append, not_or] at noBracket
      rw [takeBack, List.flatMap_cons, Segment.enclosed, letterBehindTag_append noBracket.1,
        inductionHypothesis noBracket.2]
      simp [List.infix_cons_iff, List.cons_prefix_cons]
  | @hit hit behind segments _ behindSegmented inductionHypothesis =>
      rw [List.mem_append, not_or] at noBracket
      rw [takeBack, List.flatMap_cons]
      split_ifs with continues
      · -- The segment behind is a gap, so that this hit is not the first of two.
        rw [Segment.enclosed, letterBehindTag_append noBracket.1, inductionHypothesis noBracket.2]
        rcases segments with - | ⟨gap | next, segments⟩
        · simp at continues
        · simp [List.infix_cons_iff, List.cons_prefix_cons]
        · simp [Segment.continuesWord] at continues
      · rw [Segment.enclosed, letterBehindTag_mark noBracket.1, inductionHypothesis noBracket.2,
          behindSegmented.beginsWithLetter_takeBack, or_iff_right continues]
        simp [List.infix_cons_iff, List.cons_prefix_cons, or_and_right, exists_or]

/--
Every mark before a gap that begins with a letter is taken back, and only these are. A letter
stands behind a closing tag exactly where a hit is followed by a hit that is taken back.
-/
theorem letter_behind_mark_iff
    (noBracket : '<' ∉ text)
    (mode : CaseMode)
    (keywords : List (List Char)) :
    Segmented mode keywords text (Mark.segments mode keywords text) ∧
      encloseWords mode keywords openTag closeTag text =
        (takeBack (Mark.segments mode keywords text)).flatMap (·.enclosed openTag closeTag) ∧
      (LetterBehindTag (encloseWords mode keywords openTag closeTag text) ↔
        ∃ first second gap,
          [.hit first, .hit second, .plain gap] <:+: Mark.segments mode keywords text ∧
            beginsWithLetter second = true ∧ beginsWithLetter gap = true) := by
  have segmented := segmented_segments mode keywords text
  have stays := encloseWords_eq noBracket mode keywords
  refine ⟨segmented, stays, ?_⟩
  rw [stays]
  exact segmented.letterBehindTag_iff noBracket

/-- The first of two words in front of a letter keeps its mark, though it ends inside a word. -/
theorem letter_behind_mark_of_doubled_word :
    '<' ∉ "catcatalog".toList ∧
      LetterBehindTag
        (encloseWords .sensitive ["cat".toList] openTag closeTag "catcatalog".toList) := by
  have noBracket : '<' ∉ "catcatalog".toList := by decide
  have segments : Mark.segments .sensitive ["cat".toList] "catcatalog".toList =
      [.hit "cat".toList, .hit "cat".toList, .plain "alog".toList] := by decide +kernel
  refine ⟨noBracket, (letter_behind_mark_iff noBracket _ _).2.2.2 ?_⟩
  rw [segments]
  exact ⟨_, _, _, List.infix_rfl, rfl, rfl⟩

end Mark
end BlockSearch
