import BlockSearch.Mark.CaseMode
import BlockSearch.Proofs.Mark.Safety
import Mathlib.Data.List.Basic

/-!
# The segmentation of a text at keywords

A text has exactly one segmentation in which every hit is the longest keyword that occurs where
it begins and no keyword begins in a gap. The segmentation has hits exactly when a keyword
occurs in the text, and then marking the text changes it. A text begins with a keyword when the keys
of its first characters are those of the keyword.
-/

namespace BlockSearch

/-! ## Texts that begin with a keyword -/

namespace CaseMode

theorem begins_iff_map_key
    {mode : CaseMode}
    {keyword text : List Char} :
    mode.begins keyword text = true ↔ keyword.map mode.key <+: text.map mode.key := by
  induction keyword generalizing text with
  | nil => simp [begins]
  | cons k keyword inductionHypothesis =>
      cases text with
      | nil => simp [begins]
      | cons c text =>
          rw [begins, Bool.and_eq_true, inductionHypothesis, same, beq_iff_eq, List.map_cons,
            List.map_cons, List.cons_prefix_cons]

theorem length_le_of_begins
    {mode : CaseMode}
    {keyword text : List Char}
    (begins : mode.begins keyword text = true) :
    keyword.length ≤ text.length := by
  simpa using (begins_iff_map_key.1 begins).length_le

/-- Letters of different case differ: the text has the keyword itself in front. -/
theorem begins_sensitive_iff
    {keyword text : List Char} :
    sensitive.begins keyword text = true ↔ keyword <+: text := by
  have same : sensitive.key = id := rfl
  rw [begins_iff_map_key, same, List.map_id, List.map_id]

/-- Only as many characters of a text as the keyword has decide whether the text begins with it. -/
theorem begins_take
    (mode : CaseMode)
    (keyword text : List Char) :
    mode.begins keyword (text.take keyword.length) = mode.begins keyword text := by
  induction keyword generalizing text with
  | nil => rw [begins, begins]
  | cons k keyword inductionHypothesis =>
      cases text with
      | nil => rfl
      | cons c text =>
          rw [List.length_cons, List.take_succ_cons, begins, begins, inductionHypothesis]

/-- A text begins with two words when it begins with the first, and what follows with the second. -/
theorem begins_append
    (mode : CaseMode)
    (left right text : List Char) :
    mode.begins (left ++ right) text =
      (mode.begins left text && mode.begins right (text.drop left.length)) := by
  induction left generalizing text with
  | nil => simp [begins]
  | cons k left inductionHypothesis =>
      cases text with
      | nil => simp [begins]
      | cons c text => simp [begins, inductionHypothesis, Bool.and_assoc]

end CaseMode

namespace Mark

variable {mode : CaseMode} {keywords : List (List Char)} {gap hit text behind : List Char}
  {segments : List Segment}

/-! ## Keywords at a position -/

/-- A keyword that is not empty occurs where a text begins. -/
def BeginsAt (mode : CaseMode) (keywords : List (List Char)) (text : List Char) : Prop :=
  ∃ keyword ∈ keywords, keyword ≠ [] ∧ mode.begins keyword text = true

/-- A keyword that is not empty occurs somewhere in a text. -/
def Occurs (mode : CaseMode) (keywords : List (List Char)) (text : List Char) : Prop :=
  ∃ rest, rest <:+ text ∧ BeginsAt mode keywords rest

/-- No keyword begins in a gap, though one may begin where it ends. -/
def IsGap (mode : CaseMode) (keywords : List (List Char)) (gap behind : List Char) : Prop :=
  ∀ rest, rest <:+ gap → rest ≠ [] → ¬ BeginsAt mode keywords (rest ++ behind)

/-- A keyword spells the hit, and no longer one occurs where the hit begins. -/
structure IsHit (mode : CaseMode) (keywords : List (List Char)) (hit behind : List Char) :
    Prop where
  /-- A hit is not empty. -/
  nonempty : hit ≠ []
  /-- A keyword has the characters of the hit. -/
  spelled : ∃ keyword ∈ keywords, keyword.length = hit.length ∧ mode.begins keyword hit = true
  /-- The keyword is the longest one at this position. -/
  longest : ∀ keyword ∈ keywords, mode.begins keyword (hit ++ behind) = true →
    keyword.length ≤ hit.length

theorem length_le_longestAt
    {keyword : List Char}
    (member : keyword ∈ keywords)
    (begins : mode.begins keyword text = true) :
    keyword.length ≤ longestAt mode keywords text := by
  induction keywords with
  | nil => contradiction
  | cons first keywords inductionHypothesis =>
      rw [longestAt, List.foldr_cons]
      rcases List.mem_cons.1 member with rfl | later
      · rw [if_pos begins]
        exact Nat.le_max_left _ _
      · have shorter := inductionHypothesis later
        split_ifs
        · exact shorter.trans (Nat.le_max_right _ _)
        · exact shorter

theorem exists_longestAt
    (positive : longestAt mode keywords text ≠ 0) :
    ∃ keyword ∈ keywords, mode.begins keyword text = true ∧
      keyword.length = longestAt mode keywords text := by
  induction keywords with
  | nil => contradiction
  | cons first keywords inductionHypothesis =>
      rw [longestAt, List.foldr_cons] at positive ⊢
      rw [← longestAt] at positive ⊢
      split_ifs at positive ⊢ with here
      · rcases Nat.le_total (longestAt mode keywords text) first.length with longer | shorter
        · exact ⟨first, List.mem_cons_self, here, (Nat.max_eq_left longer).symm⟩
        · rw [Nat.max_eq_right shorter] at positive ⊢
          obtain ⟨keyword, member, begins, length⟩ := inductionHypothesis positive
          exact ⟨keyword, List.mem_cons_of_mem _ member, begins, length⟩
      · obtain ⟨keyword, member, begins, length⟩ := inductionHypothesis positive
        exact ⟨keyword, List.mem_cons_of_mem _ member, begins, length⟩

theorem longestAt_eq_zero_iff : longestAt mode keywords text = 0 ↔ ¬ BeginsAt mode keywords text := by
  constructor
  · rintro none ⟨keyword, member, nonempty, begins⟩
    have length := length_le_longestAt member begins
    rw [none, Nat.le_zero, List.length_eq_zero_iff] at length
    exact nonempty length
  · intro absent
    by_contra positive
    obtain ⟨keyword, member, begins, length⟩ := exists_longestAt positive
    refine absent ⟨keyword, member, ?_, begins⟩
    rintro rfl
    exact positive length.symm

/-- The first characters of a text, as many as the longest keyword there has, are a hit. -/
theorem isHit_take
    (begins : BeginsAt mode keywords text) :
    IsHit mode keywords (text.take (longestAt mode keywords text))
      (text.drop (longestAt mode keywords text)) := by
  have positive : longestAt mode keywords text ≠ 0 := fun none =>
    longestAt_eq_zero_iff.1 none begins
  obtain ⟨keyword, member, beginsHere, length⟩ := exists_longestAt positive
  have short := CaseMode.length_le_of_begins beginsHere
  rw [← length] at positive ⊢
  have taken : (text.take keyword.length).length = keyword.length := List.length_take_of_le short
  refine ⟨fun empty => ?_, ⟨keyword, member, taken.symm, ?_⟩, fun other otherMember otherBegins => ?_⟩
  · rw [empty] at taken
    exact positive taken.symm
  · rwa [mode.begins_take]
  · rw [List.take_append_drop] at otherBegins
    rw [taken, length]
    exact length_le_longestAt otherMember otherBegins

theorem IsHit.beginsAt
    (isHit : IsHit mode keywords hit behind) :
    BeginsAt mode keywords (hit ++ behind) := by
  obtain ⟨keyword, member, length, begins⟩ := isHit.spelled
  refine ⟨keyword, member, ?_, ?_⟩
  · rintro rfl
    exact isHit.nonempty (List.length_eq_zero_iff.1 length.symm)
  · rwa [← mode.begins_take, length, List.take_left]

theorem IsHit.longestAt_eq
    (isHit : IsHit mode keywords hit behind) :
    longestAt mode keywords (hit ++ behind) = hit.length := by
  have positive : longestAt mode keywords (hit ++ behind) ≠ 0 := fun none =>
    longestAt_eq_zero_iff.1 none isHit.beginsAt
  obtain ⟨longest, longestMember, longestBegins, longestLength⟩ := exists_longestAt positive
  obtain ⟨keyword, member, length, begins⟩ := isHit.spelled
  have beginsHere : mode.begins keyword (hit ++ behind) = true := by
    rwa [← mode.begins_take, length, List.take_left]
  refine Nat.le_antisymm ?_ ?_
  · rw [← longestLength]
    exact isHit.longest longest longestMember longestBegins
  · rw [← length]
    exact length_le_longestAt member beginsHere

/-! ## Segmentations -/

/-- A text is cut into gaps, of which no two are next to each other, and hits. -/
inductive Segmented (mode : CaseMode) (keywords : List (List Char)) :
    List Char → List Segment → Prop
  /-- The empty text has no segments. -/
  | nil : Segmented mode keywords [] []
  /-- A hit in front. -/
  | hit {hit behind : List Char} {segments : List Segment} :
      IsHit mode keywords hit behind → Segmented mode keywords behind segments →
        Segmented mode keywords (hit ++ behind) (.hit hit :: segments)
  /-- A gap in front, which is not empty, and behind it a hit or nothing. -/
  | plain {gap behind : List Char} {segments : List Segment} :
      gap ≠ [] → IsGap mode keywords gap behind → (∀ next ∈ segments.head?, next.isHit = true) →
        Segmented mode keywords behind segments →
          Segmented mode keywords (gap ++ behind) (.plain gap :: segments)

/-- A gap that is still open is closed before a hit or at the end. -/
theorem Segmented.closeGap
    (segmented : Segmented mode keywords text segments)
    (isGap : IsGap mode keywords gap.reverse text)
    (next : ∀ next ∈ segments.head?, next.isHit = true) :
    Segmented mode keywords (gap.reverse ++ text) (closeGap gap ++ segments) := by
  unfold Mark.closeGap
  split_ifs with empty
  · rw [List.isEmpty_iff.1 empty]
    exact segmented
  · refine .plain (fun none => empty ?_) isGap next segmented
    rw [List.reverse_eq_nil_iff.1 none, List.isEmpty_nil]

theorem segmented_segmentsFrom
    (isGap : IsGap mode keywords gap.reverse text) :
    Segmented mode keywords (gap.reverse ++ text) (segmentsFrom mode keywords gap text) := by
  fun_induction segmentsFrom mode keywords gap text with
  | case1 gap =>
      have closed := Segmented.nil.closeGap isGap (by simp)
      rwa [List.append_nil (closeGap gap)] at closed
  | case2 gap c rest none inductionHypothesis =>
      rw [List.append_cons, ← List.reverse_cons]
      refine inductionHypothesis fun tail suffix nonempty => ?_
      rw [List.reverse_cons, List.suffix_concat_iff] at suffix
      rcases suffix with empty | ⟨front, rfl, frontSuffix⟩
      · exact absurd empty nonempty
      · rw [List.append_assoc, List.singleton_append]
        by_cases first : front = []
        · rw [first]
          exact longestAt_eq_zero_iff.1 none
        · exact isGap front frontSuffix first
  | case3 gap c rest length longest inductionHypothesis =>
      have begins : BeginsAt mode keywords (c :: rest) := by
        by_contra absent
        rw [longestAt_eq_zero_iff.2 absent] at longest
        contradiction
      have isHit := isHit_take begins
      rw [longest, List.take_succ_cons, List.drop_succ_cons] at isHit
      have behind := inductionHypothesis fun tail suffix nonempty =>
        absurd (List.suffix_nil.1 suffix) nonempty
      have both := Segmented.hit isHit behind
      rw [List.cons_append, List.take_append_drop] at both
      exact both.closeGap isGap (by simp [Segment.isHit])

/-- No keyword begins in a gap, so it is passed over. -/
theorem segmentsFrom_of_isGap
    {front : List Char}
    (isGap : IsGap mode keywords gap text) :
    segmentsFrom mode keywords front (gap ++ text) =
      segmentsFrom mode keywords (gap.reverse ++ front) text := by
  induction gap generalizing front with
  | nil => rfl
  | cons c gap inductionHypothesis =>
      have none := longestAt_eq_zero_iff.2 (isGap (c :: gap) List.suffix_rfl (List.cons_ne_nil c gap))
      rw [List.cons_append] at none ⊢
      rw [segmentsFrom, none]
      dsimp only
      rw [inductionHypothesis fun rest suffix => isGap rest (suffix.trans (List.suffix_cons c gap)),
        List.reverse_cons, List.append_assoc, List.singleton_append]

theorem segmentsFrom_of_isHit
    (isHit : IsHit mode keywords hit behind)
    (front : List Char) :
    segmentsFrom mode keywords front (hit ++ behind) =
      closeGap front ++ .hit hit :: segmentsFrom mode keywords [] behind := by
  cases hit with
  | nil => exact absurd rfl isHit.nonempty
  | cons c hit =>
      have longest := isHit.longestAt_eq
      rw [List.cons_append] at longest ⊢
      rw [segmentsFrom, longest, List.length_cons]
      dsimp only
      rw [List.take_left, List.drop_left]

/-- A text has one segmentation, and it is the one that is computed. -/
theorem segments_eq_iff :
    Mark.segments mode keywords text = segments ↔ Segmented mode keywords text segments := by
  constructor
  · rintro rfl
    have isGap : IsGap mode keywords (List.reverse []) text := fun rest suffix nonempty =>
      absurd (List.suffix_nil.1 suffix) nonempty
    exact segmented_segmentsFrom isGap
  · intro segmented
    rw [Mark.segments]
    induction segmented with
    | nil => rw [segmentsFrom, Mark.closeGap, if_pos List.isEmpty_nil]
    | hit isHit _ inductionHypothesis =>
        rw [segmentsFrom_of_isHit isHit, inductionHypothesis]
        rfl
    | @plain gap behind segments nonempty isGap next behindSegmented inductionHypothesis =>
        have closed : closeGap (gap.reverse ++ []) = [.plain gap] := by
          rw [List.append_nil, closeGap, List.reverse_reverse,
            if_neg (by simpa using nonempty)]
        rw [segmentsFrom_of_isGap isGap]
        cases behindSegmented with
        | nil => rw [segmentsFrom, closed]
        | hit isHit _ =>
            rw [segmentsFrom_of_isHit isHit] at inductionHypothesis ⊢
            rw [closed, ← inductionHypothesis]
            rfl
        | plain => simp [Segment.isHit] at next

theorem segmented_segments (mode : CaseMode) (keywords : List (List Char)) (text : List Char) :
    Segmented mode keywords text (Mark.segments mode keywords text) := segments_eq_iff.1 rfl

/-! ## Hits -/

/-- A text has hits when a keyword occurs in it. -/
theorem Segmented.occurs_iff
    (segmented : Segmented mode keywords text segments) :
    Occurs mode keywords text ↔ ∃ segment ∈ segments, segment.isHit = true := by
  induction segmented with
  | nil =>
      refine ⟨?_, by simp⟩
      rintro ⟨rest, suffix, keyword, _, nonempty, begins⟩
      rw [List.suffix_nil.1 suffix] at begins
      exact absurd (List.length_eq_zero_iff.1 (Nat.le_zero.1 (CaseMode.length_le_of_begins begins)))
        nonempty
  | hit isHit _ _ =>
      exact iff_of_true ⟨_, List.suffix_rfl, isHit.beginsAt⟩ ⟨_, List.mem_cons_self, rfl⟩
  | @plain gap behind segments nonempty isGap next behindSegmented inductionHypothesis =>
      have later : Occurs mode keywords (gap ++ behind) ↔ Occurs mode keywords behind := by
        constructor
        · rintro ⟨rest, ⟨outer, whole⟩, begins⟩
          rcases List.append_eq_append_iff.1 whole with ⟨front, gapEq, rfl⟩ | ⟨inner, _, behindEq⟩
          · by_cases empty : front = []
            · exact ⟨behind, List.suffix_rfl, by simpa [empty] using begins⟩
            · exact absurd begins (isGap front ⟨outer, gapEq.symm⟩ empty)
          · exact ⟨rest, ⟨inner, behindEq.symm⟩, begins⟩
        · rintro ⟨rest, suffix, begins⟩
          exact ⟨rest, suffix.trans (List.suffix_append gap behind), begins⟩
      rw [later, inductionHypothesis]
      simp [Segment.isHit]

theorem Segmented.flatMap_text
    (segmented : Segmented mode keywords text segments) :
    segments.flatMap Segment.text = text := by
  rw [← segments_eq_iff.2 segmented]
  exact flatMap_text_segmentsFrom mode keywords [] text

theorem Segmented.infix_of_mem
    (segmented : Segmented mode keywords text segments)
    {segment : Segment}
    (member : segment ∈ segments) :
    segment.text <:+: text := by
  obtain ⟨front, back, rfl⟩ := List.append_of_mem member
  refine ⟨front.flatMap Segment.text, back.flatMap Segment.text, ?_⟩
  rw [← segmented.flatMap_text, List.flatMap_append, List.flatMap_cons, List.append_assoc]

theorem Segmented.exists_isHit
    (segmented : Segmented mode keywords text segments)
    (member : .hit hit ∈ segments) :
    ∃ behind, IsHit mode keywords hit behind := by
  induction segmented with
  | nil => contradiction
  | hit isHit _ inductionHypothesis =>
      rcases List.mem_cons.1 member with same | later
      · cases same
        exact ⟨_, isHit⟩
      · exact inductionHypothesis later
  | plain _ _ _ _ inductionHypothesis =>
      exact inductionHypothesis ((List.mem_cons.1 member).resolve_left (by simp))

/-- Every hit adds both markers to the text. -/
theorem length_flatMap_enclosed
    (opening closing : List Char)
    (segments : List Segment) :
    (segments.flatMap (·.enclosed opening closing)).length =
      (segments.flatMap Segment.text).length +
        segments.countP Segment.isHit * (opening.length + closing.length) := by
  induction segments with
  | nil => simp
  | cons segment segments inductionHypothesis =>
      rw [List.flatMap_cons, List.flatMap_cons, List.length_append, List.length_append,
        inductionHypothesis]
      cases segment with
      | plain text => simp [Segment.enclosed, Segment.text, Segment.isHit]; omega
      | hit text =>
          rw [List.countP_cons_of_pos (by rfl), Nat.add_mul, Nat.one_mul]
          simp only [Segment.enclosed, Segment.text, List.length_append]
          omega

/-- Marking changes exactly the texts in which a keyword occurs. -/
theorem enclose_eq_self_iff
    {opening closing : List Char}
    (visible : opening ≠ []) :
    enclose mode keywords opening closing text = text ↔ ¬ Occurs mode keywords text := by
  have segmented := segmented_segments mode keywords text
  have positive := List.length_pos_iff.2 visible
  have longer := length_flatMap_enclosed opening closing (Mark.segments mode keywords text)
  rw [segmented.flatMap_text] at longer
  rw [segmented.occurs_iff, enclose]
  constructor
  · intro same
    rw [same, Nat.left_eq_add, Nat.mul_eq_zero, List.countP_eq_zero] at longer
    rintro ⟨segment, member, isHit⟩
    exact (longer.resolve_right (by omega)) segment member isHit
  · intro noHit
    conv_rhs => rw [← segmented.flatMap_text]
    refine List.flatMap_congr fun segment member => ?_
    cases segment with
    | plain text => rfl
    | hit text => exact absurd ⟨_, member, rfl⟩ noHit

end Mark
end BlockSearch
