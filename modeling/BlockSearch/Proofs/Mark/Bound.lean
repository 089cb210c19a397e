import BlockSearch.Proofs.Mark.Alternation
import BlockSearch.Proofs.Text.Position

/-!
# Bounded content

A bounded text is a piece of the text with at most a closing tag and an ellipsis behind it, and no
tag of the text is cut where the piece ends. So tags that alternate still do. The first mark of a
text stays, unless the limit lies in its tag or right behind it.
-/

namespace BlockSearch
namespace Mark

variable {front back text before rest : List Char} {limit : Nat}

/-! ## Positions -/

theorem cutAt?_openTag_eq_some_iff :
    Text.cutAt? openTag text = some (before, rest) ↔
      text = before ++ (openTag ++ rest) ∧ ¬ openTag <:+: before :=
  Text.cutAt?_cons_eq_some_iff (by decide)

theorem truncateAt?_eq (limit : Nat) (text : List Char) :
    truncateAt? limit text = some (truncate limit text) := by
  rw [truncateAt?, truncate, Text.getElem?_positions]
  by_cases long : limit < text.length
  · rw [if_pos long, if_neg (by omega)]
    simp only [Text.sides?_take, Option.map_some]
  · rw [if_neg long, if_pos (by omega)]

/-- The walk back from a late mark ends at a character. -/
theorem relocateAt?_eq (limit : Nat) (text : List Char) :
    relocateAt? limit text = some (relocate limit text) := by
  rw [relocateAt?, relocate]
  cases cut : Text.cutAt? openTag text with
  | none => rw [Text.firstPosition?, cut, Option.map_none]
  | some pair =>
      obtain ⟨before, rest⟩ := pair
      have position : Text.firstPosition? openTag text = some (Text.utf8Length before) := by
        rw [Text.firstPosition?, cut, Option.map_some]
      have sides := Text.sides?_of_firstPosition? position
      rw [cut, Option.map_some] at sides
      simp only [position, sides, Option.bind_eq_bind, Option.bind_some]
      split_ifs with late
      · have kept : (before.reverse.take (min relocationWalk (relocationKeep + 1))).length =
            relocationKeep + 1 := by
          rw [List.length_take, List.length_reverse]
          unfold relocationThreshold at late
          unfold relocationWalk relocationKeep
          omega
        have inside : relocationKeep < before.length := by
          unfold relocationThreshold at late
          unfold relocationKeep
          omega
        have place : before.length - 1 - relocationKeep = before.length - relocationContext := by
          unfold relocationKeep relocationContext
          omega
        rw [kept]
        simp only [Text.getElem?_reverse_positions inside, Option.getD_some, place]
        obtain ⟨rfl, _⟩ := cutAt?_openTag_eq_some_iff.1 cut
        have split := Text.sides?_utf8Length (before.take (before.length - relocationContext))
          (before.drop (before.length - relocationContext) ++ (openTag ++ rest))
        rw [← List.append_assoc, List.take_append_drop] at split
        rw [split, Option.bind_some, List.append_assoc]
      · rfl

theorem dropPartialTagAt?_eq (text : List Char) :
    dropPartialTagAt? text = some (dropPartialTag text) := by
  rw [dropPartialTagAt?, dropPartialTag]
  cases cut : Text.cutAtLast? '<' text with
  | none => rw [Text.lastPosition?, cut, Option.map_none]
  | some pair =>
      obtain ⟨before, tail⟩ := pair
      have position : Text.lastPosition? '<' text = some (Text.utf8Length before) := by
        rw [Text.lastPosition?, cut, Option.map_some]
      have sides := Text.sides?_of_lastPosition? position
      rw [cut, Option.map_some] at sides
      simp only [position, sides, Option.bind_eq_bind, Option.bind_some]
      split_ifs <;> rfl

/-- Bounding a text by byte positions never cuts inside of a character. -/
theorem boundAt?_eq (limit : Nat) (text : List Char) :
    boundAt? limit text = some (bound limit text) := by
  rw [boundAt?, bound]
  split_ifs with marked
  · simp only [relocateAt?_eq, Option.bind_eq_bind, Option.bind_some]
    split_ifs with short
    · rfl
    · rw [Text.getElem?_positions, if_pos (by omega)]
      simp only [Text.sides?_take, dropPartialTagAt?_eq, Option.bind_some]
  · exact truncateAt?_eq limit text

/-! ## Pieces -/

/-- What is dropped from the end of a text leaves no part of a tag there, whatever follows. -/
theorem exists_dropPartialTag (text : List Char) :
    ∃ dropped, text = dropPartialTag text ++ dropped ∧
      ∀ back, Parted (dropPartialTag text) (dropped ++ back) := by
  have cut : ∀ {tag : Tag} {left right before : List Char}, tag.text = left ++ right → left ≠ [] →
      text = before ++ left →
        ∃ tail, left = '<' :: tail ∧ Text.cutAtLast? '<' text = some (before, tail) := by
    rintro tag left right before split nonempty rfl
    obtain ⟨body, bracket, few⟩ := tag.exists_body
    cases left with
    | nil => contradiction
    | cons c tail =>
        rw [bracket, List.cons_append, List.cons.injEq] at split
        obtain ⟨rfl, split⟩ := split
        refine ⟨tail, rfl, Text.cutAtLast?_append_cons fun member => ?_⟩
        exact absurd (few (by rw [split]; simp [member])) (by decide : '<' ∉ "/mark>".toList)
  unfold dropPartialTag
  split
  · rename_i before tail found
    split_ifs with isPart
    · refine ⟨'<' :: tail, (Text.eq_append_of_cutAtLast? found).1, fun back => ?_⟩
      exact parted_cons (by decide) before (tail ++ back)
    · refine ⟨[], (List.append_nil text).symm, fun back => ?_⟩
      rintro tag left right split nonempty _ ⟨outer, whole⟩ _
      obtain ⟨part, rfl, same⟩ := cut split nonempty whole.symm
      obtain rfl : tail = part := by
        rw [found] at same
        exact (Prod.mk.inj (Option.some.inj same)).2
      refine isPart ?_
      rw [Bool.or_eq_true, List.isPrefixOf_iff_prefix, List.isPrefixOf_iff_prefix]
      have begins : '<' :: tail <+: tag.text := ⟨right, split.symm⟩
      cases tag with
      | opening => exact .inl begins
      | closing => exact .inr begins
  · rename_i absent
    refine ⟨[], (List.append_nil text).symm, fun back => ?_⟩
    rintro tag left right split nonempty _ ⟨outer, whole⟩ _
    obtain ⟨part, _, found⟩ := cut split nonempty whole.symm
    rw [absent] at found
    contradiction

/-- What stands before the rest of a text holds and cuts no tag, when tags alternate. -/
def DropsNoTag (text front behind : List Char) : Prop :=
  text = front ++ behind ∧ (Alternating (tags text) → tags front = [] ∧ Parted front behind)

/-- Relocation drops text in front, which in a text of alternating tags holds none. -/
theorem exists_relocate (limit : Nat) (text : List Char) :
    ∃ front, DropsNoTag text front (relocate limit text) := by
  unfold relocate
  split
  · rename_i before rest cut
    split_ifs with late
    · obtain ⟨rfl, absent⟩ := cutAt?_openTag_eq_some_iff.1 cut
      have split := List.take_append_drop (before.length - relocationContext) before
      refine ⟨before.take (before.length - relocationContext), ?_, fun alternating => ?_⟩
      · conv_lhs => rw [← split]
        simp only [List.append_assoc]
      · have parted : Parted before (openTag ++ rest) :=
          parted_cons (by decide) before ("mark>".toList ++ rest)
        rw [tags_append parted] at alternating
        have none : tags before = [] :=
          alternating.eq_nil_of_append fun member => absent (mem_tags_iff.1 member)
        rw [tags_eq_nil_iff] at none ⊢
        refine ⟨fun tag inside => none tag (inside.trans (List.take_prefix _ _).isInfix), ?_⟩
        rw [← split] at parted none
        rw [List.append_assoc]
        exact parted.of_append none
    · exact ⟨[], rfl, fun _ => ⟨rfl, nil_parted text⟩⟩
  · exact ⟨[], rfl, fun _ => ⟨rfl, nil_parted text⟩⟩

theorem tags_append_ellipsis (text : List Char) : tags (text ++ ellipsis) = tags text := by
  have parted : Parted text ellipsis := parted_cons (by decide) text "..".toList
  rw [tags_append parted, show tags ellipsis = [] from rfl, List.append_nil]

/-- An excerpt is a piece of a text with an ending, cut so that alternating tags stay whole. -/
structure IsExcerpt (text excerpt front piece back ending : List Char) : Prop where
  /-- The piece stands in the text. -/
  whole : text = front ++ (piece ++ back)
  /-- The excerpt is the piece with the ending. -/
  made : excerpt = piece ++ ending
  /-- The ending is at most a closing tag and an ellipsis. -/
  ending : ending = [] ∨ ending = ellipsis ∨ ending = closeTag ++ ellipsis
  /-- Tags that alternate in the text do so in the excerpt. -/
  alternates : Alternating (tags text) → Alternating (tags excerpt)
  /-- No tag is cut where the piece begins. -/
  begins : Alternating (tags text) → Parted front (piece ++ back)
  /-- No tag is cut where the piece ends. -/
  ends : Alternating (tags text) → Parted (front ++ piece) back

theorem DropsNoTag.tags_eq
    (drops : DropsNoTag text front back)
    (alternating : Alternating (tags text)) :
    tags text = tags back := by
  obtain ⟨none, parted⟩ := drops.2 alternating
  rw [drops.1, tags_append parted, none, List.nil_append]

theorem DropsNoTag.isExcerpt (drops : DropsNoTag text front back) :
    IsExcerpt text back front back [] [] where
  whole := by rw [List.append_nil, drops.1]
  made := (List.append_nil back).symm
  ending := .inl rfl
  alternates alternating := drops.tags_eq alternating ▸ alternating
  begins alternating := by
    rw [List.append_nil]
    exact (drops.2 alternating).2
  ends _ := parted_nil _

/-- A mark that a cut left open is closed behind the piece. -/
theorem DropsNoTag.exists_isExcerpt
    (drops : DropsNoTag text front back)
    (limit : Nat) :
    ∃ piece behind ending,
      IsExcerpt text (closeMark (dropPartialTag (back.take limit)) ++ ellipsis) front piece behind
        ending := by
  obtain ⟨dropped, cut, parted⟩ := exists_dropPartialTag (back.take limit)
  generalize dropPartialTag (back.take limit) = piece at cut parted ⊢
  have split : back = piece ++ (dropped ++ back.drop limit) := by
    rw [← List.append_assoc, ← cut, List.take_append_drop]
  have alternates : Alternating (tags text) → Alternating (tags (closeMark piece ++ ellipsis)) := by
    intro alternating
    rw [drops.tags_eq alternating, split, tags_append (parted _)] at alternating
    rw [tags_append_ellipsis]
    exact alternating_tags_closeMark alternating
  have begins : Alternating (tags text) → Parted front (piece ++ (dropped ++ back.drop limit)) :=
    fun alternating => split ▸ (drops.2 alternating).2
  have excerpt : ∀ ending, closeMark piece ++ ellipsis = piece ++ ending →
      (ending = [] ∨ ending = ellipsis ∨ ending = closeTag ++ ellipsis) →
        IsExcerpt text (closeMark piece ++ ellipsis) front piece (dropped ++ back.drop limit) ending :=
    fun ending made known => {
      whole := by rw [← split, drops.1]
      made := made
      ending := known
      alternates := alternates
      begins := begins
      ends := fun alternating => (begins alternating).append (parted _) }
  by_cases opened : Text.occurrences closeTag piece < Text.occurrences openTag piece
  · have closed : closeMark piece = piece ++ closeTag := if_pos opened
    exact ⟨piece, _, closeTag ++ ellipsis,
      excerpt _ (by rw [closed, List.append_assoc]) (.inr (.inr rfl))⟩
  · have closed : closeMark piece = piece := if_neg opened
    exact ⟨piece, _, ellipsis, excerpt _ (by rw [closed]) (.inr (.inl rfl))⟩

/-- Without an opening tag there are no alternating tags but none. -/
theorem tags_eq_nil_of_unmarked
    (absent : ¬ openTag <:+: text)
    (alternating : Alternating (tags text)) :
    tags text = [] := by
  rw [← List.append_nil (tags text)] at alternating
  exact alternating.eq_nil_of_append fun member => absent (mem_tags_iff.1 member)

theorem exists_isExcerpt_truncate
    (absent : ¬ openTag <:+: text)
    (limit : Nat) :
    ∃ piece behind ending, IsExcerpt text (truncate limit text) [] piece behind ending := by
  unfold truncate
  split_ifs with short
  · exact ⟨text, [], [], DropsNoTag.isExcerpt ⟨rfl, fun _ => ⟨rfl, nil_parted text⟩⟩⟩
  · have split := List.take_append_drop limit text
    have none : Alternating (tags text) → ∀ tag : Tag, ¬ tag.text <:+: text :=
      fun alternating => tags_eq_nil_iff.1 (tags_eq_nil_of_unmarked absent alternating)
    refine ⟨text.take limit, text.drop limit, ellipsis, {
      whole := split.symm
      made := rfl
      ending := .inr (.inl rfl)
      alternates := fun alternating => ?_
      begins := fun _ => nil_parted _
      ends := fun alternating => ?_ }⟩
    · rw [tags_append_ellipsis, tags_eq_nil_iff.2 fun tag inside =>
        none alternating tag (inside.trans (List.take_prefix limit text).isInfix)]
      exact .nil
    · rintro tag left right tagEq - - ⟨outer, leftEq⟩ ⟨rest, rightEq⟩
      refine none alternating tag ⟨outer, rest, ?_⟩
      rw [tagEq, ← split, ← rightEq, ← List.nil_append (text.take limit), ← leftEq]
      simp only [List.append_assoc]

/-- A bounded text is an excerpt of the text. -/
theorem exists_isExcerpt_bound (limit : Nat) (text : List Char) :
    ∃ front piece back ending, IsExcerpt text (bound limit text) front piece back ending := by
  unfold bound
  split_ifs with marked
  · obtain ⟨front, drops⟩ := exists_relocate limit text
    generalize relocate limit text = moved at drops ⊢
    dsimp only
    split_ifs with short
    · exact ⟨front, moved, [], [], drops.isExcerpt⟩
    · exact ⟨front, drops.exists_isExcerpt limit⟩
  · rw [Text.contains_iff] at marked
    exact ⟨[], exists_isExcerpt_truncate marked limit⟩

/-! ## Lengths -/

theorem length_closeMark_le (text : List Char) : (closeMark text).length ≤ text.length + 7 := by
  unfold closeMark
  split_ifs
  · rw [List.length_append, show closeTag.length = 7 from rfl]
  · exact Nat.le_add_right _ _

theorem length_dropPartialTag_le (text : List Char) :
    (dropPartialTag text).length ≤ text.length := by
  obtain ⟨dropped, cut, _⟩ := exists_dropPartialTag text
  conv_rhs => rw [cut, List.length_append]
  exact Nat.le_add_right _ _

theorem length_truncate_le (limit : Nat) (text : List Char) :
    (truncate limit text).length ≤ limit + 3 := by
  unfold truncate
  split_ifs with short
  · exact short.trans (Nat.le_add_right _ _)
  · have taken := List.length_take_le limit text
    rw [List.length_append, show ellipsis.length = 3 from rfl]
    omega

theorem length_bound_le (limit : Nat) (text : List Char) :
    (bound limit text).length ≤ limit + 10 := by
  unfold bound
  split_ifs
  · generalize relocate limit text = moved
    dsimp only
    split_ifs with short
    · omega
    · have closed := length_closeMark_le (dropPartialTag (moved.take limit))
      have dropped := length_dropPartialTag_le (moved.take limit)
      have taken := List.length_take_le limit moved
      rw [List.length_append, show ellipsis.length = 3 from rfl]
      omega
  · exact (length_truncate_le limit text).trans (by omega)

theorem bound_of_unmarked
    (absent : ¬ openTag <:+: text)
    (limit : Nat) :
    bound limit text = truncate limit text := by
  rw [← Text.contains_iff] at absent
  exact if_neg absent

/-- A text within the limit begins its first mark there as well, so it stays where it is. -/
theorem relocate_of_length_le (short : text.length ≤ limit) : relocate limit text = text := by
  unfold relocate
  split
  · rename_i before rest cut
    have whole := Text.length_of_cutAt? cut
    have tag : openTag.length = 6 := rfl
    rw [if_neg (by omega)]
  · rfl

theorem bound_of_length_le (short : text.length ≤ limit) : bound limit text = text := by
  unfold bound
  rw [relocate_of_length_le short]
  split_ifs
  · exact if_pos short
  · exact if_pos short

/--
A bounded text is found without cutting inside of a character, is little longer than the limit, is
the text itself when that is short enough, and else an excerpt of it.
-/
theorem boundAt?_excerpt (limit : Nat) (text : List Char) :
    boundAt? limit text = some (bound limit text) ∧
      (bound limit text).length ≤ limit + 10 ∧
      (¬ openTag <:+: text → (bound limit text).length ≤ limit + 3) ∧
      (text.length ≤ limit → bound limit text = text) ∧
      ∃ front piece back ending, IsExcerpt text (bound limit text) front piece back ending := by
  refine ⟨boundAt?_eq limit text, length_bound_le limit text, fun absent => ?_, bound_of_length_le,
    exists_isExcerpt_bound limit text⟩
  rw [bound_of_unmarked absent]
  exact length_truncate_le limit text

/-- A cut through a closing tag leaves no part of it, and the mark is closed again. -/
theorem boundAt?_excerpt_of_split_tag :
    Alternating (tags "<mark>é</mark>ö".toList) ∧
      Alternating (tags (bound 9 "<mark>é</mark>ö".toList)) ∧
        bound 9 "<mark>é</mark>ö".toList = "<mark>é</mark>...".toList := by
  have alternating : Alternating (tags "<mark>é</mark>ö".toList) := .pair .nil
  obtain ⟨-, -, -, -, front, piece, back, ending, excerpt⟩ :=
    boundAt?_excerpt 9 "<mark>é</mark>ö".toList
  exact ⟨alternating, excerpt.alternates alternating, by decide +kernel⟩

/-! ## The first mark -/

/-- A mark stays when something stands behind its tag. -/
theorem openTag_infix_dropPartialTag
    {c : Char}
    (front back : List Char) :
    openTag <:+: dropPartialTag (front ++ (openTag ++ c :: back)) := by
  have whole : openTag <:+: front ++ (openTag ++ c :: back) :=
    (List.prefix_append _ _).isInfix.trans (List.suffix_append _ _).isInfix
  unfold dropPartialTag
  by_cases later : '<' ∈ c :: back
  · cases cut : Text.cutAtLast? '<' (c :: back) with
    | none => exact absurd later (Text.cutAtLast?_eq_none_iff.1 cut)
    | some pair =>
        obtain ⟨before, tail⟩ := pair
        obtain ⟨split, absent⟩ := Text.eq_append_of_cutAtLast? cut
        have found : Text.cutAtLast? '<' (front ++ (openTag ++ c :: back)) =
            some (front ++ (openTag ++ before), tail) := by
          rw [split, ← Text.cutAtLast?_append_cons absent]
          simp only [List.append_assoc]
        rw [found]
        dsimp only
        split_ifs
        · exact (List.prefix_append _ _).isInfix.trans (List.suffix_append _ _).isInfix
        · exact whole
  · have absent : '<' ∉ "mark>".toList ++ c :: back := by
      rw [List.mem_append, not_or]
      exact ⟨by decide, later⟩
    have found : Text.cutAtLast? '<' (front ++ (openTag ++ c :: back)) =
        some (front, "mark>".toList ++ c :: back) := Text.cutAtLast?_append_cons absent
    have noOpening : ¬ openTag ++ c :: back <+: openTag := by
      intro begins
      have length := begins.length_le
      rw [List.length_append, List.length_cons] at length
      omega
    have noClosing : ¬ openTag ++ c :: back <+: closeTag := fun begins =>
      absurd ((List.prefix_append openTag (c :: back)).trans begins) (by decide)
    rw [found]
    dsimp only
    rw [if_neg]
    · exact whole
    · rw [Bool.or_eq_true, List.isPrefixOf_iff_prefix, List.isPrefixOf_iff_prefix, not_or]
      exact ⟨noOpening, noClosing⟩

theorem infix_closeMark_append
    (inside : openTag <:+: text)
    (ending : List Char) :
    openTag <:+: closeMark text ++ ending := by
  have first : openTag <:+: closeMark text := by
    unfold closeMark
    split_ifs
    · exact inside.trans (List.prefix_append _ _).isInfix
    · exact inside
  exact first.trans (List.prefix_append _ _).isInfix

/-- A piece without an opening tag stays without one. -/
theorem not_infix_closeMark_append_ellipsis
    (absent : ¬ openTag <:+: text) :
    ¬ openTag <:+: closeMark text ++ ellipsis := by
  have openings : Text.occurrences openTag text = _ := occurrences_eq_count .opening text
  have none : .opening ∉ tags text := fun member => absent (mem_tags_iff.1 member)
  rw [List.count_eq_zero.2 none] at openings
  have closed : closeMark text = text := if_neg (by omega)
  rw [closed]
  intro inside
  have member : .opening ∈ tags (text ++ ellipsis) := mem_tags_iff.2 inside
  rw [tags_append_ellipsis] at member
  exact none member

/-- What a limit in the first tag of a text, or before it, leaves holds no opening tag. -/
theorem not_infix_dropPartialTag_take
    (absent : ¬ openTag <:+: before)
    (limit : Nat)
    (inside : limit ≤ before.length + openTag.length)
    (rest : List Char) :
    ¬ openTag <:+: dropPartialTag ((before ++ (openTag ++ rest)).take limit) := by
  have piece : dropPartialTag ((before ++ (openTag ++ rest)).take limit) <+: before := by
    by_cases early : limit ≤ before.length
    · obtain ⟨dropped, cut, _⟩ := exists_dropPartialTag ((before ++ (openTag ++ rest)).take limit)
      rw [List.take_append_of_le_length early] at cut ⊢
      have kept : dropPartialTag (before.take limit) <+: before.take limit := ⟨dropped, cut.symm⟩
      exact kept.trans (List.take_prefix limit before)
    · obtain ⟨more, rfl⟩ : ∃ more, limit = before.length + (more + 1) :=
        ⟨limit - before.length - 1, by omega⟩
      have part : (before ++ (openTag ++ rest)).take (before.length + (more + 1)) =
          before ++ '<' :: "mark>".toList.take more := by
        rw [List.take_length_add_append, List.take_append_of_le_length (by omega)]
        rfl
      have begins : '<' :: "mark>".toList.take more <+: openTag := List.take_prefix (more + 1) openTag
      rw [part, dropPartialTag_append (.inl rfl) begins]
  exact fun occurs => absent (occurs.trans piece.isInfix)

/--
The first mark of a text stays exactly when the text is short enough, when the mark is moved
forward, and when its tag ends before the limit.
-/
theorem openTag_infix_bound_iff
    (absent : ¬ openTag <:+: before)
    (limit : Nat)
    (rest : List Char) :
    openTag <:+: bound limit (before ++ (openTag ++ rest)) ↔
      (before ++ (openTag ++ rest)).length ≤ limit ∨
        (relocationThreshold < limit ∧ limit ≤ before.length) ∨
          before.length + openTag.length < limit := by
  have cut : Text.cutAt? openTag (before ++ (openTag ++ rest)) = some (before, rest) :=
    cutAt?_openTag_eq_some_iff.2 ⟨rfl, absent⟩
  have marked : ∀ front : List Char, openTag <:+: front ++ (openTag ++ rest) := fun front =>
    (List.prefix_append _ _).isInfix.trans (List.suffix_append _ _).isInfix
  -- A text that is longer than the limit keeps a mark whose tag ends before the limit.
  have keeps : ∀ front : List Char, front.length + openTag.length < limit →
      limit < (front ++ (openTag ++ rest)).length →
        openTag <:+: dropPartialTag ((front ++ (openTag ++ rest)).take limit) := by
    intro front early long
    obtain ⟨more, rfl⟩ : ∃ more, limit = front.length + (openTag.length + (more + 1)) :=
      ⟨limit - front.length - openTag.length - 1, by omega⟩
    rw [List.take_length_add_append, List.take_length_add_append]
    cases rest with
    | nil => simp only [List.length_append, List.length_nil] at long; omega
    | cons c rest => exact openTag_infix_dropPartialTag front (rest.take more)
  have found : Text.contains openTag (before ++ (openTag ++ rest)) = true :=
    Text.contains_iff.2 (marked before)
  rw [bound, if_pos found, relocate, cut]
  dsimp only
  split_ifs with late short short
  · exact iff_of_true (by rw [List.append_assoc]; exact marked _) (.inr (.inl late))
  · refine iff_of_true (infix_closeMark_append ?_ _) (.inr (.inl late))
    rw [List.append_assoc] at short ⊢
    have context : (before.drop (before.length - relocationContext)).length ≤ relocationContext := by
      rw [List.length_drop]
      omega
    have room : relocationContext + openTag.length < relocationThreshold := by decide
    exact keeps _ (by omega) (by omega)
  · exact iff_of_true (marked before) (.inl short)
  · by_cases early : before.length + openTag.length < limit
    · exact iff_of_true (infix_closeMark_append (keeps before early (by omega)) _)
        (.inr (.inr early))
    · refine iff_of_false (not_infix_closeMark_append_ellipsis
        (not_infix_dropPartialTag_take absent limit (by omega) rest)) ?_
      rintro (impossible | impossible | impossible)
      · exact short impossible
      · exact late impossible
      · exact early impossible

/-- A mark that begins right before the limit is lost. -/
theorem openTag_infix_bound_iff_of_split_tag :
    ¬ openTag <:+: List.replicate 126 'a' ∧
      ¬ openTag <:+: bound 129 (List.replicate 126 'a' ++ (openTag ++ "hit</mark>".toList)) := by
  have absent : ¬ openTag <:+: List.replicate 126 'a' := by
    intro inside
    have bracket : '<' ∈ List.replicate 126 'a' := inside.subset (by decide)
    exact absurd (List.eq_of_mem_replicate bracket) (by decide)
  refine ⟨absent, fun kept => ?_⟩
  rcases (openTag_infix_bound_iff absent 129 "hit</mark>".toList).1 kept with short | late | early
  · exact absurd short (by decide +kernel)
  · exact absurd late (by decide +kernel)
  · exact absurd early (by decide +kernel)

end Mark
end BlockSearch
