import BlockSearch.Proofs.Text.Occurrence
import BlockSearch.Search.Block

/-!
# Texts for display are safe

A text for display is made of plain characters and of whole mark tags, whatever the stored text
holds: the markers of the index become tags, keywords are enclosed in tags, and a cut that goes
through a tag takes the rest of the tag away. So a block can be shown as HTML.
-/

namespace BlockSearch
namespace Mark

/-- Every opening bracket of the text begins a whole mark tag, and there are no quotes. -/
structure IsSafe (text : List Char) : Prop where
  /-- An opening bracket is the first character of a tag. -/
  tag_of_bracket :
    ∀ before behind, text = before ++ '<' :: behind →
      openTag <+: '<' :: behind ∨ closeTag <+: '<' :: behind
  /-- There are no double quotes. -/
  no_double_quote : '"' ∉ text
  /-- There are no single quotes. -/
  no_single_quote : '\'' ∉ text

/-! ## Texts with tags -/

/-- A character that needs no escape in HTML text for its own sake. -/
def IsPlain (c : Char) : Prop := c ≠ '<' ∧ c ≠ '"' ∧ c ≠ '\''

instance : DecidablePred IsPlain := fun c =>
  inferInstanceAs (Decidable (c ≠ '<' ∧ c ≠ '"' ∧ c ≠ '\''))

/-- A tag of a mark. -/
def IsTag (text : List Char) : Prop := text = openTag ∨ text = closeTag

/-- A text made of plain characters and of whole tags. -/
inductive Tagged : List Char → Prop
  /-- The empty text. -/
  | nil : Tagged []
  /-- A plain character in front. -/
  | char {c : Char} {text : List Char} : IsPlain c → Tagged text → Tagged (c :: text)
  /-- A tag in front. -/
  | tag {tag text : List Char} : IsTag tag → Tagged text → Tagged (tag ++ text)

/-- A tag begins with a bracket, and what follows is plain and of few characters. -/
theorem IsTag.exists_body
    {tag : List Char}
    (isTag : IsTag tag) :
    ∃ body, tag = '<' :: body ∧ (∀ c ∈ body, IsPlain c) ∧ body ⊆ "/mark>".toList := by
  rcases isTag with rfl | rfl
  · exact ⟨"mark>".toList, rfl, by simp [IsPlain], by decide⟩
  · exact ⟨"/mark>".toList, rfl, by simp [IsPlain], by decide⟩

namespace Tagged

variable {front back text tag : List Char} {c : Char}

theorem of_isTag (isTag : IsTag tag) : Tagged tag := by
  rw [← List.append_nil tag]
  exact .tag isTag .nil

theorem of_plain (plain : ∀ c ∈ text, IsPlain c) : Tagged text := by
  induction text with
  | nil => exact .nil
  | cons c text inductionHypothesis =>
      rw [List.forall_mem_cons] at plain
      exact .char plain.1 (inductionHypothesis plain.2)

theorem append (left : Tagged front) (right : Tagged back) : Tagged (front ++ back) := by
  induction left with
  | nil => exact right
  | char plain _ inductionHypothesis => exact .char plain inductionHypothesis
  | tag isTag _ inductionHypothesis =>
      rw [List.append_assoc]
      exact .tag isTag inductionHypothesis

/-- What a cut through a tag leaves of it at the front of the rest is plain. -/
theorem of_append_right (tagged : Tagged (front ++ back)) : Tagged back := by
  generalize same : front ++ back = whole at tagged
  induction tagged generalizing front with
  | nil =>
      obtain ⟨_, rfl⟩ := List.append_eq_nil_iff.1 same
      exact .nil
  | @char c text plain tagged inductionHypothesis =>
      cases front with
      | nil =>
          rw [List.nil_append] at same
          exact same ▸ .char plain tagged
      | cons d front => exact inductionHypothesis (List.cons.inj same).2
  | @tag tag text isTag tagged inductionHypothesis =>
      rcases List.append_eq_append_iff.1 same with ⟨left, tagEq, rfl⟩ | ⟨left, rfl, textEq⟩
      · obtain ⟨body, bracket, plain, _⟩ := isTag.exists_body
        cases front with
        | nil =>
            rw [List.nil_append] at tagEq
            exact tagEq ▸ .tag isTag tagged
        | cons d front =>
            rw [bracket, List.cons_append, List.cons.injEq] at tagEq
            have inside : ∀ c ∈ left, IsPlain c := fun c member =>
              plain c (by rw [tagEq.2]; exact List.mem_append_right _ member)
            exact (of_plain inside).append tagged
      · exact inductionHypothesis textEq.symm

/-- What stands before a character that is not inside of tags holds whole tags only. -/
theorem of_append_cons
    (outside : c ∉ "/mark>".toList)
    (tagged : Tagged (front ++ c :: back)) :
    Tagged front := by
  generalize same : front ++ c :: back = whole at tagged
  induction tagged generalizing front with
  | nil => simp at same
  | char plain _ inductionHypothesis =>
      cases front with
      | nil => exact .nil
      | cons d front =>
          rw [List.cons_append, List.cons.injEq] at same
          exact .char (same.1 ▸ plain) (inductionHypothesis same.2)
  | @tag tag text isTag tagged inductionHypothesis =>
      rcases List.append_eq_append_iff.1 same with ⟨left, tagEq, rest⟩ | ⟨left, rfl, textEq⟩
      · obtain ⟨body, bracket, _, few⟩ := isTag.exists_body
        cases front with
        | nil => exact .nil
        | cons d front =>
            rw [bracket, List.cons_append, List.cons.injEq] at tagEq
            cases left with
            | nil =>
                rw [List.append_nil] at tagEq
                have whole : d :: front = tag := by
                  rw [bracket, tagEq.1, tagEq.2]
                exact whole ▸ of_isTag isTag
            | cons e left =>
                rw [List.cons_append, List.cons.injEq] at rest
                exact absurd (few (by rw [tagEq.2, ← rest.1]; simp)) outside
      · exact .tag isTag (inductionHypothesis textEq.symm)

theorem isSafe (tagged : Tagged text) : IsSafe text := by
  induction tagged with
  | nil => exact ⟨by simp, by simp, by simp⟩
  | @char c text plain _ inductionHypothesis =>
      obtain ⟨brackets, double, single⟩ := inductionHypothesis
      refine ⟨fun before behind same => ?_, by simp [plain.2.1.symm, double],
        by simp [plain.2.2.symm, single]⟩
      cases before with
      | nil => exact absurd (List.cons.inj same).1 plain.1
      | cons d before => exact brackets before behind (List.cons.inj same).2
  | @tag tag text isTag _ inductionHypothesis =>
      obtain ⟨brackets, double, single⟩ := inductionHypothesis
      obtain ⟨body, bracket, plain, _⟩ := isTag.exists_body
      have noQuote : '"' ∉ tag ∧ '\'' ∉ tag := by
        rw [bracket]
        refine ⟨?_, ?_⟩ <;> rw [List.mem_cons] <;> rintro (impossible | member)
        · exact absurd impossible (by decide)
        · exact (plain _ member).2.1 rfl
        · exact absurd impossible (by decide)
        · exact (plain _ member).2.2 rfl
      refine ⟨fun before behind same => ?_, by simp [noQuote.1, double],
        by simp [noQuote.2, single]⟩
      rcases List.append_eq_append_iff.1 same with ⟨left, rfl, rest⟩ | ⟨left, tagEq, rest⟩
      · exact brackets left behind rest
      · cases left with
        | nil => exact brackets [] behind (by simpa using rest.symm)
        | cons e left =>
            rw [List.cons_append, List.cons.injEq] at rest
            cases before with
            | nil =>
                have begins : tag <+: '<' :: behind := by
                  rw [rest.2, rest.1, ← List.cons_append, tagEq, List.nil_append]
                  exact List.prefix_append _ _
                rcases isTag with rfl | rfl
                · exact .inl begins
                · exact .inr begins
            | cons d before =>
                rw [bracket, List.cons_append, List.cons.injEq] at tagEq
                have inside : '<' ∈ body := by
                  rw [tagEq.2, rest.1]
                  simp
                exact absurd rfl (plain _ inside).1

/-- The first characters of a text are whole tags and plain characters, up to a part of a tag. -/
theorem exists_take
    (tagged : Tagged text)
    (limit : Nat) :
    ∃ whole part, text.take limit = whole ++ part ∧ Tagged whole ∧
      ∃ tag, IsTag tag ∧ part <+: tag := by
  induction tagged generalizing limit with
  | nil => exact ⟨[], [], by simp, .nil, openTag, .inl rfl, List.nil_prefix⟩
  | @char c text plain _ inductionHypothesis =>
      cases limit with
      | zero => exact ⟨[], [], by simp, .nil, openTag, .inl rfl, List.nil_prefix⟩
      | succ limit =>
          obtain ⟨whole, part, same, wholeTagged, cut⟩ := inductionHypothesis limit
          exact ⟨c :: whole, part, by rw [List.take_succ_cons, same, List.cons_append],
            .char plain wholeTagged, cut⟩
  | @tag tag text isTag _ inductionHypothesis =>
      rw [List.take_append]
      by_cases inside : limit ≤ tag.length
      · refine ⟨[], tag.take limit, ?_, .nil, tag, isTag, List.take_prefix _ _⟩
        rw [Nat.sub_eq_zero_of_le inside, List.take_zero, List.append_nil, List.nil_append]
      · obtain ⟨whole, part, same, wholeTagged, cut⟩ := inductionHypothesis (limit - tag.length)
        refine ⟨tag ++ whole, part, ?_, .tag isTag wholeTagged, cut⟩
        rw [List.take_of_length_le (by omega), same, List.append_assoc]

theorem dropPartialTag (tagged : Tagged text) : Tagged (dropPartialTag text) := by
  unfold Mark.dropPartialTag
  split
  · rename_i before tail found
    split_ifs
    · rw [(Text.eq_append_of_cutAtLast? found).1] at tagged
      exact tagged.of_append_cons (by decide)
    · exact tagged
  · exact tagged

end Tagged

/-- The beginning of a tag is dropped from the end of a text. -/
theorem dropPartialTag_append
    {whole part tag : List Char}
    (isTag : IsTag tag)
    (begins : '<' :: part <+: tag) :
    dropPartialTag (whole ++ '<' :: part) = whole := by
  obtain ⟨body, bracket, plain, _⟩ := isTag.exists_body
  have absent : '<' ∉ part := by
    intro member
    rw [bracket, List.cons_prefix_cons] at begins
    exact (plain _ (begins.2.subset member)).1 rfl
  have isPart : (('<' :: part).isPrefixOf openTag || ('<' :: part).isPrefixOf closeTag) = true := by
    rw [Bool.or_eq_true, List.isPrefixOf_iff_prefix, List.isPrefixOf_iff_prefix]
    rcases isTag with rfl | rfl
    · exact .inl begins
    · exact .inr begins
  rw [dropPartialTag, Text.cutAtLast?_append_cons absent]
  exact if_pos isPart

/-- A text that is cut off has whole tags when a part of a tag at its end is dropped. -/
theorem Tagged.dropPartialTag_take
    {text : List Char}
    (tagged : Tagged text)
    (limit : Nat) :
    Tagged (Mark.dropPartialTag (text.take limit)) := by
  obtain ⟨whole, part, same, wholeTagged, tag, isTag, begins⟩ := tagged.exists_take limit
  rw [same]
  cases part with
  | nil =>
      rw [List.append_nil]
      exact wholeTagged.dropPartialTag
  | cons c part =>
      obtain ⟨body, rfl, _, _⟩ := isTag.exists_body
      obtain ⟨rfl, _⟩ := List.cons_prefix_cons.1 begins
      rw [dropPartialTag_append isTag begins]
      exact wholeTagged

/-! ## Replaced and enclosed texts -/

theorem Tagged.intercalate
    {separator : List Char}
    {pieces : List (List Char)}
    (between : Tagged separator)
    (each : ∀ piece ∈ pieces, Tagged piece) :
    Tagged (separator.intercalate pieces) := by
  induction pieces with
  | nil => exact .nil
  | cons piece pieces inductionHypothesis =>
      rw [List.forall_mem_cons] at each
      cases pieces with
      | nil => simpa [List.intercalate] using each.1
      | cons next pieces =>
          rw [List.intercalate_cons_cons]
          exact (each.1.append between).append (inductionHypothesis each.2)

/-- A marker that is not inside of tags can be replaced by a tag. -/
theorem Tagged.replace
    {text marker tag : List Char}
    {c : Char}
    (outside : c ∉ "/mark>".toList)
    (isTag : IsTag tag)
    (tagged : Tagged text) :
    Tagged (Text.replace (c :: marker) tag text) := by
  refine (of_isTag isTag).intercalate (Text.forall_mem_splitOn (List.cons_ne_nil c marker) ?_ tagged)
  intro before rest both
  have behind : Tagged (c :: marker ++ rest) := both.of_append_right
  rw [List.cons_append] at both
  exact ⟨both.of_append_cons outside, behind.of_append_right⟩

theorem isPlain_of_mem_escapeChar (d : Char) : ∀ c ∈ Html.escapeChar d, IsPlain c := by
  unfold Html.escapeChar
  split_ifs with amp less greater double single
  · simp [IsPlain]
  · simp [IsPlain]
  · simp [IsPlain]
  · simp [IsPlain]
  · simp [IsPlain]
  · rw [List.forall_mem_singleton]
    exact ⟨less, double, single⟩

theorem isPlain_of_mem_escape (text : List Char) : ∀ c ∈ Html.escape text, IsPlain c := by
  intro c member
  obtain ⟨d, _, written⟩ := List.mem_flatMap.1 member
  exact isPlain_of_mem_escapeChar d c written

/-- The stretches of a text make up the text. -/
theorem flatMap_text_segmentsFrom
    (mode : CaseMode)
    (keywords : List (List Char))
    (gap text : List Char) :
    (segmentsFrom mode keywords gap text).flatMap Segment.text = gap.reverse ++ text := by
  have closed : ∀ gap, (closeGap gap).flatMap Segment.text = gap.reverse := by
    intro gap
    unfold closeGap
    split_ifs with empty
    · rw [List.isEmpty_iff.1 empty]
      rfl
    · simp [Segment.text]
  fun_induction segmentsFrom mode keywords gap text with
  | case1 gap => rw [closed, List.append_nil]
  | case2 gap c rest _ inductionHypothesis => rw [inductionHypothesis]; simp
  | case3 gap c rest length _ inductionHypothesis =>
      rw [List.flatMap_append, closed, List.flatMap_cons, inductionHypothesis]
      simp [Segment.text]

theorem mem_of_mem_segments
    {mode : CaseMode}
    {keywords : List (List Char)}
    {text : List Char}
    {segment : Segment}
    (member : segment ∈ segments mode keywords text)
    {c : Char}
    (inside : c ∈ segment.text) :
    c ∈ text := by
  have whole := flatMap_text_segmentsFrom mode keywords [] text
  rw [List.reverse_nil, List.nil_append] at whole
  rw [← whole]
  exact List.mem_flatMap_of_mem member inside

/-- A plain text with its keywords between tags is plain, or it has an opening tag. -/
theorem enclose_of_plain
    {text : List Char}
    (plain : ∀ c ∈ text, IsPlain c)
    (mode : CaseMode)
    (keywords : List (List Char)) :
    Tagged (enclose mode keywords openTag closeTag text) ∧
      (openTag <:+: enclose mode keywords openTag closeTag text ∨
        ∀ c ∈ enclose mode keywords openTag closeTag text, IsPlain c) := by
  have inside : ∀ segment ∈ segments mode keywords text, ∀ c ∈ segment.text, IsPlain c :=
    fun segment member c here => plain c (mem_of_mem_segments member here)
  unfold enclose
  generalize segments mode keywords text = list at inside
  induction list with
  | nil => exact ⟨.nil, .inr (by simp)⟩
  | cons segment list inductionHypothesis =>
      rw [List.forall_mem_cons] at inside
      obtain ⟨tagged, opened⟩ := inductionHypothesis inside.2
      have first := Tagged.of_plain inside.1
      rw [List.flatMap_cons]
      cases segment with
      | plain text =>
          refine ⟨first.append tagged, opened.imp (fun here => ?_) fun all => ?_⟩
          · exact here.trans (List.suffix_append _ _).isInfix
          · exact List.forall_mem_append.2 ⟨inside.1, all⟩
      | hit text =>
          have hit : Segment.enclosed openTag closeTag (.hit text) = openTag ++ (text ++ closeTag) :=
            List.append_assoc _ _ _
          have close := Tagged.of_isTag (.inr rfl)
          rw [hit]
          refine ⟨(Tagged.tag (.inl rfl) (first.append close)).append tagged, .inl ?_⟩
          rw [List.append_assoc]
          exact (List.prefix_append _ _).isInfix

/-- The markers of the index in a text become tags. -/
theorem tagged_ofIndexMarkers (text : List Char) : Tagged (ofIndexMarkers text) :=
  ((Tagged.of_plain (isPlain_of_mem_escape text)).replace (by decide) (.inl rfl)).replace
    (by decide) (.inr rfl)

/-- A marker in front makes an opening tag, which the replacement of the other marker keeps. -/
theorem openTag_infix_ofIndexMarkers
    {text : List Char}
    (marked : indexLeft <:+: text) :
    openTag <:+: ofIndexMarkers text := by
  have escaped : indexLeft <:+: Html.escape text := by
    obtain ⟨front, back, rfl⟩ := marked
    refine ⟨Html.escape front, Html.escape back, ?_⟩
    rw [Html.escape, Html.escape, Html.escape, List.flatMap_append, List.flatMap_append]
    rfl
  have opened : openTag <:+: Text.replace indexLeft openTag (Html.escape text) :=
    Text.infix_replace_of_infix (by decide) escaped
  have uncut : ∀ before rest, openTag <:+: before ++ (indexRight ++ rest) →
      openTag <:+: before ∨ openTag <:+: rest := by
    intro before rest occurs
    have enclosed : indexRight = '_' :: ("_mark@_".toList ++ ['_']) := by decide
    rw [enclosed] at occurs
    exact Text.infix_or_infix_of_enclosed (by decide) (by decide) occurs
  obtain ⟨piece, member, inside⟩ := Text.exists_infix_of_splitOn (by decide) uncut opened
  exact inside.trans (Text.infix_intercalate member)

/-! ## Texts for display -/

/-- At the front, marked text is cut before its first tag. -/
theorem tagged_cutFront
    {before rest : List Char}
    (limit : Nat)
    (tagged : Tagged (before ++ (openTag ++ rest))) :
    Tagged (cutFront limit before ++ openTag ++ rest) := by
  unfold cutFront
  rw [List.append_assoc]
  split_ifs
  · exact tagged
  · rw [← List.take_append_drop (before.length - limit) before, List.append_assoc] at tagged
    have dots : Tagged ellipsis := .of_plain (by simp [ellipsis, IsPlain])
    rw [List.append_assoc]
    exact dots.append tagged.of_append_right

/-- A marked text has whole tags, and it is plain unless it has an opening one. -/
theorem tagged_markSearch
    (mode : CaseMode)
    (packed : List Char)
    (limit : Nat)
    (text : List Char) :
    Tagged (markSearch mode packed limit text).text ∧
      (openTag <:+: (markSearch mode packed limit text).text ∨
        ∀ c ∈ (markSearch mode packed limit text).text, IsPlain c) := by
  have plain := isPlain_of_mem_escape text
  unfold markSearch
  split_ifs with noKeyword marked
  · exact ⟨tagged_ofIndexMarkers text,
      .inl (openTag_infix_ofIndexMarkers (Text.contains_iff.1 marked))⟩
  · exact ⟨.of_plain plain, .inr plain⟩
  · unfold markText
    obtain ⟨tagged, opened⟩ :=
      enclose_of_plain plain mode ((unpackKeywords packed).map Html.escape)
    simp only
    split
    · exact ⟨tagged, opened⟩
    · rename_i before rest cut
      rw [Text.eq_append_of_cutAt? cut] at tagged
      refine ⟨tagged_cutFront limit tagged, .inl ?_⟩
      exact ⟨cutFront limit before, rest, rfl⟩

theorem tagged_relocate
    {text : List Char}
    (limit : Nat)
    (tagged : Tagged text) :
    Tagged (relocate limit text) := by
  unfold relocate
  split
  · rename_i before rest cut
    split_ifs
    · rw [Text.eq_append_of_cutAt? cut,
        ← List.take_append_drop (before.length - relocationContext) before,
        List.append_assoc] at tagged
      rw [List.append_assoc]
      exact tagged.of_append_right
    · exact tagged
  · exact tagged

theorem tagged_bound
    {text : List Char}
    (limit : Nat)
    (tagged : Tagged text)
    (opened : openTag <:+: text ∨ ∀ c ∈ text, IsPlain c) :
    Tagged (bound limit text) := by
  have dots : Tagged ellipsis := .of_plain (by simp [ellipsis, IsPlain])
  unfold bound
  split_ifs with marked
  · simp only
    split_ifs
    · exact tagged_relocate limit tagged
    · have cut := (tagged_relocate limit tagged).dropPartialTag_take limit
      refine Tagged.append ?_ dots
      unfold closeMark
      split_ifs
      · exact cut.append (.of_isTag (.inr rfl))
      · exact cut
  · rw [Text.contains_iff] at marked
    have plain := opened.resolve_left marked
    unfold truncate
    split_ifs
    · exact tagged
    · exact (Tagged.of_plain fun c member => plain c (List.mem_of_mem_take member)).append dots

end Mark

/-! ## Blocks for display -/

namespace Block

/-- The texts of a block that are shown as HTML are safe. -/
structure IsSafe (block : Block) : Prop where
  /-- The content. -/
  content : Mark.IsSafe block.content.toList
  /-- The path made of titles. -/
  hpath : Mark.IsSafe block.hpath.toList
  /-- The name. -/
  name : Mark.IsSafe block.name.toList
  /-- The alias. -/
  aliases : Mark.IsSafe block.aliases.toList
  /-- The memo. -/
  memo : Mark.IsSafe block.memo.toList

theorem tagged_markedMeta
    (mode : CaseMode)
    (keyword : List Char)
    (text : String) :
    Mark.Tagged (markedMeta mode keyword text).toList := by
  unfold markedMeta
  split_ifs
  · exact .nil
  · rw [String.toList_ofList]
    exact (Mark.tagged_markSearch mode keyword metaContext text.toList).1

/-- Whatever a record and the keywords hold, the block for display is safe. -/
theorem isSafe_ofRecord
    (mode : CaseMode)
    (keyword : List Char)
    (record : Record) :
    (ofRecord mode keyword record).IsSafe := by
  have content : Mark.Tagged (ofRecord mode keyword record).content.toList := by
    obtain ⟨tagged, opened⟩ :=
      Mark.tagged_markSearch mode keyword contentContext record.content.toList
    rw [ofRecord, String.toList_ofList]
    exact Mark.tagged_bound Mark.contentLimit tagged opened
  have path : Mark.Tagged (ofRecord mode keyword record).hpath.toList := by
    have tagged := (Mark.tagged_markSearch mode keyword pathContext record.hpath.toList).1
    rw [ofRecord, String.toList_ofList, rooted]
    split_ifs
    · exact tagged
    · exact .char (by decide) tagged
  exact {
    content := content.isSafe
    hpath := path.isSafe
    name := (tagged_markedMeta mode keyword record.name).isSafe
    aliases := (tagged_markedMeta mode keyword record.aliases).isSafe
    memo := (tagged_markedMeta mode keyword record.memo).isSafe }

/-- Stored tags are escaped, and stored markers become tags, which need not come in pairs. -/
example :
    (ofRecord .sensitive [] { memo := "<mark>__mark@__'a'__@mark__" }).memo =
      "&lt;mark&gt;</mark>&#39;a&#39;<mark>" := by
  decide +kernel

end Block
end BlockSearch
