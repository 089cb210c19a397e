import BlockSearch.Mark.Keyword
import BlockSearch.Proofs.Mark.Segmentation
import BlockSearch.Proofs.Pattern.Parts

/-!
# Enclosing the matches of keywords

The pattern of the keywords lists the longest one first, so where it matches it goes over the
longest keyword that occurs there. Its matches are the hits of the segmentation of the text, and
which keywords there are is all that counts, not their order.
-/

namespace BlockSearch

/-! ## Preferred matches -/

namespace Pattern

variable {mode : CaseMode}

theorem head?_distinct (cursors : List Cursor) : (distinct cursors).head? = cursors.head? := by
  cases cursors <;> rfl

/-- The second pattern counts only where the first one does not match. -/
theorem matchAt?_alt (first second : Pattern) (cursor : Cursor) :
    (alt first second).matchAt? cursor =
      (first.matchAt? cursor).or (second.matchAt? cursor) := by
  rw [matchAt?, ends, head?_distinct, List.head?_append]
  rfl

/-- Of alternative words, the first one that the text begins with is matched. -/
theorem rest_of_matchAt?_anyOf
    {pattern : List Char → Pattern}
    (spells : ∀ word, Spells mode (pattern word) word)
    {words : List (List Char)}
    (nonempty : words ≠ [])
    (cursor : Cursor) :
    ((anyOf (words.map pattern)).matchAt? cursor).map Cursor.rest =
      (words.find? (mode.begins · cursor.rest)).map fun word =>
        cursor.rest.drop word.length := by
  induction words with
  | nil => contradiction
  | cons word words inductionHypothesis =>
      have first := (spells word).rest_of_matchAt? cursor
      cases words with
      | nil =>
          rw [List.map_singleton, anyOf, first, List.find?_singleton]
          split_ifs <;> rfl
      | cons next words =>
          rw [List.map_cons, List.map_cons, anyOf, ← List.map_cons, matchAt?_alt, Option.map_or,
            first, inductionHypothesis (List.cons_ne_nil next words)]
          cases here : mode.begins word cursor.rest with
          | true =>
              rw [List.find?_cons_of_pos (p := (mode.begins · cursor.rest)) here]
              rfl
          | false =>
              have absent := Bool.eq_false_iff.1 here
              rw [List.find?_cons_of_neg (p := (mode.begins · cursor.rest)) absent]
              rfl

end Pattern

namespace Mark

variable {mode : CaseMode} {keywords others words : List (List Char)} {text : List Char}

/-! ## The longest word first -/

theorem dropRepeats_sublist (words : List (List Char)) : (dropRepeats words).Sublist words := by
  fun_induction dropRepeats words with
  | case1 => exact .slnil
  | case2 word => exact List.Sublist.refl _
  | case3 words word inductionHypothesis => exact inductionHypothesis.cons _
  | case4 word next words other inductionHypothesis => exact inductionHypothesis.cons_cons _

theorem mem_dropRepeats
    {word : List Char} :
    word ∈ dropRepeats words ↔ word ∈ words := by
  fun_induction dropRepeats words with
  | case1 => rfl
  | case2 => rfl
  | case3 words word inductionHypothesis => simp [inductionHypothesis]
  | case4 first next words other inductionHypothesis =>
      rw [List.mem_cons, List.mem_cons, inductionHypothesis]

theorem mem_longestFirst
    {word : List Char} :
    word ∈ longestFirst words ↔ word ∈ words := by
  rw [longestFirst, mem_dropRepeats, List.mem_mergeSort]

theorem longestFirst_ne_nil (nonempty : words ≠ []) : longestFirst words ≠ [] := by
  obtain ⟨word, member⟩ := List.exists_mem_of_ne_nil words nonempty
  exact List.ne_nil_of_mem (mem_longestFirst.2 member)

theorem pairwise_longestFirst (words : List (List Char)) :
    (longestFirst words).Pairwise fun first later => later.length ≤ first.length := by
  have sorted :
      (words.mergeSort fun first second => second.length ≤ first.length).Pairwise
        fun first later => decide (later.length ≤ first.length) = true :=
    List.pairwise_mergeSort (by simp; omega) (by simp; omega) words
  exact (sorted.imp of_decide_eq_true).sublist (dropRepeats_sublist _)

theorem longestAt_le
    {bound : Nat}
    (most : ∀ keyword ∈ keywords, mode.begins keyword text = true → keyword.length ≤ bound) :
    longestAt mode keywords text ≤ bound := by
  by_cases none : longestAt mode keywords text = 0
  · rw [none]
    exact Nat.zero_le bound
  · obtain ⟨keyword, member, begins, length⟩ := exists_longestAt none
    rw [← length]
    exact most keyword member begins

theorem longestAt_nil (mode : CaseMode) (keywords : List (List Char)) :
    longestAt mode keywords [] = 0 :=
  Nat.le_zero.1 (longestAt_le fun _ _ begins => CaseMode.length_le_of_begins begins)

/-- The first of sorted words that the text begins with is the longest one. -/
theorem longestAt_of_pairwise
    (sorted : words.Pairwise fun first later => later.length ≤ first.length)
    (mode : CaseMode)
    (text : List Char) :
    longestAt mode words text =
      ((words.find? (mode.begins · text)).map List.length).getD 0 := by
  induction words with
  | nil => rfl
  | cons word words inductionHypothesis =>
      rw [List.pairwise_cons] at sorted
      rw [longestAt, List.foldr_cons, ← longestAt]
      cases here : mode.begins word text with
      | true =>
          rw [List.find?_cons_of_pos (p := (mode.begins · text)) here, if_pos rfl]
          exact Nat.max_eq_left (longestAt_le fun other member _ => sorted.1 other member)
      | false =>
          have absent := Bool.eq_false_iff.1 here
          rw [List.find?_cons_of_neg (p := (mode.begins · text)) absent]
          exact inductionHypothesis sorted.2

theorem longestAt_mono
    (within : ∀ keyword ∈ others, keyword ≠ [] → keyword ∈ keywords) :
    longestAt mode others text ≤ longestAt mode keywords text := by
  refine longestAt_le fun keyword member begins => ?_
  by_cases empty : keyword = []
  · rw [empty]
    exact Nat.zero_le _
  · exact length_le_longestAt (within keyword member empty) begins

/-- Only which keywords there are counts, and empty ones do not. -/
theorem longestAt_congr
    (same : ∀ keyword, keyword ≠ [] → (keyword ∈ others ↔ keyword ∈ keywords)) :
    longestAt mode others text = longestAt mode keywords text :=
  Nat.le_antisymm
    (longestAt_mono fun keyword member nonempty => (same keyword nonempty).1 member)
    (longestAt_mono fun keyword member nonempty => (same keyword nonempty).2 member)

theorem segmentsFrom_congr
    (same : ∀ keyword, keyword ≠ [] → (keyword ∈ others ↔ keyword ∈ keywords))
    (gap text : List Char) :
    segmentsFrom mode others gap text = segmentsFrom mode keywords gap text := by
  fun_induction segmentsFrom mode others gap text with
  | case1 gap => rw [segmentsFrom]
  | case2 gap c rest none inductionHypothesis =>
      rw [longestAt_congr same] at none
      rw [inductionHypothesis, segmentsFrom, none]
  | case3 gap c rest length longest inductionHypothesis =>
      rw [longestAt_congr same] at longest
      rw [inductionHypothesis, segmentsFrom, longest]

/-- The order of the keywords does not count, nor how often one is listed. -/
theorem enclose_congr
    (same : ∀ keyword, keyword ≠ [] → (keyword ∈ others ↔ keyword ∈ keywords))
    (opening closing text : List Char) :
    enclose mode others opening closing text = enclose mode keywords opening closing text := by
  rw [enclose, enclose, segments, segments, segmentsFrom_congr same]

/-! ## Matches and hits -/

/-- A pattern matches where a keyword occurs, and goes over the longest one there. -/
structure Finds (mode : CaseMode) (keywords : List (List Char)) (pattern : Pattern) : Prop where
  /-- Where no keyword occurs there is no match. -/
  misses : ∀ cursor, longestAt mode keywords cursor.rest = 0 → pattern.matchAt? cursor = none
  /-- The preferred match is as long as the longest keyword. -/
  reaches : ∀ cursor length, longestAt mode keywords cursor.rest = length + 1 →
    ∃ reached, pattern.matchAt? cursor = some reached ∧
      reached.rest = cursor.rest.drop (length + 1)

namespace Finds

variable {pattern : Pattern} {previous : Option Char}

/-- Without a match, the rest of the text belongs to the open gap. -/
theorem segmentsFrom_of_none
    (finds : Finds mode keywords pattern)
    (absent : pattern.findFrom? previous text = none)
    (gap : List Char) :
    segmentsFrom mode keywords gap text = closeGap (text.reverse ++ gap) := by
  induction text generalizing previous gap with
  | nil => rw [segmentsFrom, List.reverse_nil, List.nil_append]
  | cons c text inductionHypothesis =>
      cases longest : longestAt mode keywords (c :: text) with
      | zero =>
          rw [Pattern.findFrom?, finds.misses _ longest, Option.map_eq_none_iff] at absent
          rw [segmentsFrom, longest, List.reverse_cons, List.append_assoc, List.singleton_append]
          exact inductionHypothesis absent (c :: gap)
      | succ length =>
          obtain ⟨reached, matched, -⟩ := finds.reaches ⟨previous, c :: text, []⟩ length longest
          rw [Pattern.findFrom?, matched] at absent
          contradiction

/-- The first match is the first hit, and what is skipped before it belongs to the open gap. -/
theorem segmentsFrom_of_some
    (finds : Finds mode keywords pattern)
    {found : Pattern.Found}
    (first : pattern.findFrom? previous text = some found)
    (gap : List Char) :
    found.text ≠ [] ∧
      segmentsFrom mode keywords gap text =
        closeGap (found.skipped.reverse ++ gap) ++
          .hit found.text :: segmentsFrom mode keywords [] found.reached.rest := by
  induction text generalizing previous gap found with
  | nil =>
      rw [Pattern.findFrom?, finds.misses _ (longestAt_nil mode keywords)] at first
      contradiction
  | cons c text inductionHypothesis =>
      cases longest : longestAt mode keywords (c :: text) with
      | zero =>
          rw [Pattern.findFrom?, finds.misses _ longest, Option.map_eq_some_iff] at first
          obtain ⟨later, found, rfl⟩ := first
          obtain ⟨nonempty, segments⟩ := inductionHypothesis found (c :: gap)
          refine ⟨nonempty, ?_⟩
          rw [segmentsFrom, longest, List.reverse_cons, List.append_assoc, List.singleton_append]
          exact segments
      | succ length =>
          obtain ⟨reached, matched, rest⟩ :=
            finds.reaches ⟨previous, c :: text, []⟩ length longest
          have text := Pattern.Cursor.textTo_eq_take (Pattern.behind_of_matchAt? matched) rest
          rw [Pattern.findFrom?, matched] at first
          cases first
          rw [List.take_succ_cons] at text
          rw [List.drop_succ_cons] at rest
          refine ⟨by simp [text], ?_⟩
          rw [segmentsFrom, longest, text, rest]
          rfl

end Finds

/-! ## Enclosing -/

theorem flatMap_enclosed_closeGap (opening closing gap : List Char) :
    (closeGap gap).flatMap (·.enclosed opening closing) = gap.reverse := by
  cases gap <;> simp [closeGap, Segment.enclosed]

/-- The enclosed stretches of a searched text are the enclosed segments, if there is fuel. -/
theorem flatMap_enclosePart_partsFrom
    {pattern : Pattern}
    (finds : Finds mode keywords pattern)
    (opening closing : List Char)
    {fuel : Nat}
    (enough : text.length < fuel)
    (behindMatch : Bool)
    (previous : Option Char) :
    (pattern.partsFrom fuel behindMatch previous text).flatMap (enclosePart opening closing) =
      enclose mode keywords opening closing text := by
  induction fuel generalizing behindMatch previous text with
  | zero => contradiction
  | succ fuel inductionHypothesis =>
      rw [Pattern.partsFrom_succ, enclose, segments]
      cases search : pattern.findFrom? previous text with
      | none =>
          rw [finds.segmentsFrom_of_none search, flatMap_enclosed_closeGap]
          simp [enclosePart]
      | some found =>
          obtain ⟨nonempty, segments⟩ := finds.segmentsFrom_of_some search []
          have split := congrArg List.length (Pattern.eq_append_of_findFrom? search)
          have positive := List.length_pos_iff.2 nonempty
          rw [List.length_append, List.length_append] at split
          have less : found.reached.rest.length < fuel := by omega
          have later := inductionHypothesis less true found.reached.previous
          have whole : (behindMatch && found.skipped.isEmpty && found.text.isEmpty) = false := by
            simp [nonempty]
          dsimp only
          rw [whole, if_neg Bool.false_ne_true, List.flatMap_cons, List.flatMap_cons, later,
            segments, List.flatMap_append, flatMap_enclosed_closeGap, List.flatMap_cons]
          simp [enclosePart, Segment.enclosed, enclose, Mark.segments]

/-- The literals of words, the longest first, are the pattern that finds them. -/
theorem finds_anyOf_longestFirst
    (mode : CaseMode)
    {words : List (List Char)}
    (nonempty : words ≠ [])
    (visible : [] ∉ words) :
    Finds mode words
      (.anyOf ((longestFirst words).map (Pattern.literalWith (switches mode)))) := by
  have longest (text : List Char) : longestAt mode words text =
      (((longestFirst words).find? (mode.begins · text)).map List.length).getD 0 :=
    (longestAt_congr fun _ _ => mem_longestFirst.symm).trans
      (longestAt_of_pairwise (pairwise_longestFirst words) mode text)
  have spells : ∀ word, Pattern.Spells mode (.literalWith (switches mode) word) word :=
    Pattern.Spells.literalWith mode
  have matched := Pattern.rest_of_matchAt?_anyOf spells (longestFirst_ne_nil nonempty)
  constructor
  · intro cursor none
    rw [longest] at none
    cases first : (longestFirst words).find? (mode.begins · cursor.rest) with
    | none => simpa [first] using matched cursor
    | some word =>
        rw [first, Option.map_some, Option.getD_some, List.length_eq_zero_iff] at none
        rw [none] at first
        exact absurd (mem_longestFirst.1 (List.mem_of_find?_eq_some first)) visible
  · intro cursor length positive
    rw [longest] at positive
    cases first : (longestFirst words).find? (mode.begins · cursor.rest) with
    | none => simp [first] at positive
    | some word =>
        rw [first, Option.map_some, Option.getD_some] at positive
        rw [← positive]
        simpa [first] using matched cursor

/-- Without keywords that are not empty, the text stays as it is. -/
theorem enclose_of_not_beginsAt
    (none : ∀ text, ¬ BeginsAt mode keywords text)
    (opening closing text : List Char) :
    enclose mode keywords opening closing text = text := by
  have isGap : IsGap mode keywords text [] := fun rest _ _ => none _
  have whole : segmentsFrom mode keywords [] (text ++ []) =
      segmentsFrom mode keywords (text.reverse ++ []) [] := segmentsFrom_of_isGap isGap
  rw [List.append_nil, List.append_nil] at whole
  rw [enclose, segments, whole, segmentsFrom, flatMap_enclosed_closeGap, List.reverse_reverse]

/-- What is enclosed are the hits of the segmentation. -/
theorem encloseMatches_eq_enclose
    (mode : CaseMode)
    (keywords : List (List Char))
    (opening closing text : List Char) :
    encloseMatches mode keywords opening closing text =
      enclose mode keywords opening closing text := by
  have same (keyword : List Char) (nonempty : keyword ≠ []) :
      keyword ∈ keywords.filter (fun keyword => !keyword.isEmpty) ↔ keyword ∈ keywords := by
    simp [nonempty]
  rw [encloseMatches, pattern?]
  split_ifs with empty
  · refine (enclose_of_not_beginsAt ?_ opening closing text).symm
    rintro text ⟨keyword, member, nonempty, -⟩
    rw [← same keyword nonempty, List.isEmpty_iff.1 empty] at member
    contradiction
  · have nonempty : keywords.filter (fun keyword => !keyword.isEmpty) ≠ [] := by
      simpa using empty
    have finds := finds_anyOf_longestFirst mode nonempty (by simp)
    rw [patternText, Pattern.readWith?_escape rfl (longestFirst_ne_nil nonempty)]
    dsimp only
    rw [Pattern.parts, flatMap_enclosePart_partsFrom finds opening closing (by omega),
      enclose_congr same]

/-- A hit has the characters of a keyword, up to case when case does not matter. -/
theorem IsHit.exists_keyword
    {hit behind : List Char}
    (isHit : IsHit mode keywords hit behind) :
    ∃ keyword ∈ keywords, keyword ≠ [] ∧ keyword.map mode.key = hit.map mode.key := by
  obtain ⟨keyword, member, length, begins⟩ := isHit.spelled
  refine ⟨keyword, member, ?_, ?_⟩
  · rintro rfl
    exact isHit.nonempty (List.length_eq_zero_iff.1 length.symm)
  · exact (CaseMode.begins_iff_map_key.1 begins).eq_of_length (by simpa using length)

/--
Matching the pattern of the keywords encloses the hits of a segmentation of the text, and nothing
else is changed: every hit is a keyword and the longest one that occurs where the hit begins, and
no keyword begins in a gap. Neither the order of the keywords nor a repetition changes the result.
-/
theorem encloseMatches_segmented
    (mode : CaseMode)
    (keywords : List (List Char))
    (opening closing text : List Char) :
    encloseMatches mode keywords opening closing text =
        enclose mode keywords opening closing text ∧
      (∃ segments, Segmented mode keywords text segments ∧
        (∀ hit, .hit hit ∈ segments →
          ∃ keyword ∈ keywords, keyword ≠ [] ∧ keyword.map mode.key = hit.map mode.key) ∧
        segments.flatMap Segment.text = text ∧
        segments.flatMap (·.enclosed opening closing) =
          encloseMatches mode keywords opening closing text) ∧
      ∀ others, (∀ keyword, keyword ≠ [] → (keyword ∈ others ↔ keyword ∈ keywords)) →
        encloseMatches mode others opening closing text =
          encloseMatches mode keywords opening closing text := by
  have segmented := segmented_segments mode keywords text
  refine ⟨encloseMatches_eq_enclose mode keywords opening closing text,
    ⟨segments mode keywords text, segmented, fun hit member => ?_, segmented.flatMap_text, ?_⟩,
    fun others same => ?_⟩
  · obtain ⟨behind, isHit⟩ := segmented.exists_isHit member
    exact isHit.exists_keyword
  · rw [encloseMatches_eq_enclose, enclose]
  · rw [encloseMatches_eq_enclose, encloseMatches_eq_enclose, enclose_congr same]

/-- A keyword that is the beginning of another one, listed before it and again behind it. -/
theorem encloseMatches_segmented_of_prefix :
    encloseMatches .insensitive ["he".toList, "hello".toList, "he".toList, []]
        "[".toList "]".toList "Hello, he".toList = "[Hello], [he]".toList ∧
      encloseMatches .insensitive ["hello".toList, "he".toList]
        "[".toList "]".toList "Hello, he".toList = "[Hello], [he]".toList := by
  have segmented := encloseMatches_segmented .insensitive ["hello".toList, "he".toList]
    "[".toList "]".toList "Hello, he".toList
  have marked : enclose .insensitive ["hello".toList, "he".toList]
      "[".toList "]".toList "Hello, he".toList = "[Hello], [he]".toList := by decide +kernel
  have others := segmented.2.2 ["he".toList, "hello".toList, "he".toList, []] (by simp; tauto)
  exact ⟨others.trans (segmented.1.trans marked), segmented.1.trans marked⟩

end Mark
end BlockSearch
