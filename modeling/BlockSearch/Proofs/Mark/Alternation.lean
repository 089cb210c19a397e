import BlockSearch.Proofs.Mark.Safety

/-!
# The tags of a text

The tags of a text are those of its parts, when no tag reaches over the place between them. In a
text whose tags alternate, the tags of a first part do too, but for an opening tag at the end that
is not closed; closing it makes them alternate again.
-/

namespace BlockSearch
namespace Mark

/-- One of the two tags of a mark. -/
inductive Tag
  /-- The tag before an occurrence. -/
  | opening
  /-- The tag behind an occurrence. -/
  | closing
  deriving DecidableEq, Repr

namespace Tag

/-- A tag as it is written. -/
def text : Tag → List Char
  | .opening => openTag
  | .closing => closeTag

/-- The tag that a text begins with. -/
def first? (text : List Char) : Option Tag :=
  if openTag <+: text then some .opening
  else if closeTag <+: text then some .closing
  else none

end Tag

/-- The tags of a text, in order. -/
def tags : List Char → List Tag
  | [] => []
  | c :: text => (Tag.first? (c :: text)).toList ++ tags text

/-- Opening and closing tags take turns, an opening one first and a closing one last. -/
inductive Alternating : List Tag → Prop
  /-- There are no tags. -/
  | nil : Alternating []
  /-- A mark in front. -/
  | pair {tags : List Tag} : Alternating tags → Alternating (.opening :: .closing :: tags)

/-- No tag reaches over the place between two texts. -/
def Parted (front back : List Char) : Prop :=
  ∀ (tag : Tag) (left right : List Char), tag.text = left ++ right → left ≠ [] → right ≠ [] →
    left <:+ front → ¬ right <+: back

variable {front back text : List Char} {tag : Tag} {c : Char}

/-! ## Places between tags -/

theorem Tag.isTag (tag : Tag) : IsTag tag.text := by
  cases tag with
  | opening => exact .inl rfl
  | closing => exact .inr rfl

/-- A tag begins with a bracket, and few other characters follow. -/
theorem Tag.exists_body (tag : Tag) : ∃ body, tag.text = '<' :: body ∧ body ⊆ "/mark>".toList := by
  obtain ⟨body, bracket, _, few⟩ := tag.isTag.exists_body
  exact ⟨body, bracket, few⟩

theorem Tag.text_ne_nil (tag : Tag) : tag.text ≠ [] := by
  obtain ⟨body, bracket, _⟩ := tag.exists_body
  simp [bracket]

theorem parted_nil (front : List Char) : Parted front [] :=
  fun _ _ _ _ _ nonempty _ begins => nonempty (List.prefix_nil.1 begins)

theorem nil_parted (back : List Char) : Parted [] back :=
  fun _ _ _ _ nonempty _ ends => absurd (List.suffix_nil.1 ends) nonempty

/-- Before a character that stands in no tag, and before a bracket, no tag is cut. -/
theorem parted_cons
    (outside : c ∉ "/mark>".toList)
    (front back : List Char) :
    Parted front (c :: back) := by
  rintro tag left right split leftNonempty rightNonempty - begins
  obtain ⟨body, bracket, few⟩ := tag.exists_body
  cases left with
  | nil => exact leftNonempty rfl
  | cons d left =>
      cases right with
      | nil => exact rightNonempty rfl
      | cons e right =>
          obtain ⟨rfl, _⟩ := List.cons_prefix_cons.1 begins
          rw [bracket, List.cons_append, List.cons.injEq] at split
          exact outside (few (by rw [split.2]; simp))

theorem Parted.of_suffix
    {behind : List Char}
    (parted : Parted front back)
    (suffix : behind <:+ front) :
    Parted behind back :=
  fun tag left right split leftNonempty rightNonempty ends =>
    parted tag left right split leftNonempty rightNonempty (ends.trans suffix)

/-- A place is cut by no tag when neither a place before it is nor the text behind that one there. -/
theorem Parted.append
    {middle : List Char}
    (parted : Parted front (middle ++ back))
    (later : Parted middle back) :
    Parted (front ++ middle) back := by
  rintro tag left right split leftNonempty rightNonempty ⟨outer, whole⟩ begins
  rcases List.append_eq_append_iff.1 whole with ⟨inner, frontEq, rfl⟩ | ⟨inner, rfl, middleEq⟩
  · -- The tag begins in the front part, so it reaches over the middle one.
    by_cases empty : inner = []
    · rw [empty, List.nil_append] at split
      exact later tag middle right split (by simpa [empty] using leftNonempty) rightNonempty
        List.suffix_rfl begins
    · rw [List.append_assoc] at split
      exact parted tag inner (middle ++ right) split empty (by simp [rightNonempty])
        ⟨outer, frontEq.symm⟩ ((List.prefix_append_right_inj middle).2 begins)
  · exact later tag left right split leftNonempty rightNonempty ⟨inner, middleEq.symm⟩ begins

/-- A place in a text without tags is cut by none, when none reaches over the end of the text. -/
theorem Parted.of_append
    {middle : List Char}
    (parted : Parted (front ++ middle) back)
    (absent : ∀ tag : Tag, ¬ tag.text <:+: front ++ middle) :
    Parted front (middle ++ back) := by
  rintro tag left right split leftNonempty rightNonempty ⟨outer, frontEq⟩ ⟨rest, whole⟩
  have inside : ∀ inner, middle = right ++ inner → False := by
    rintro inner rfl
    exact absent tag ⟨outer, inner, by rw [split, ← frontEq]; simp⟩
  rcases List.append_eq_append_iff.1 whole with ⟨inner, middleEq, _⟩ | ⟨inner, rightEq, backEq⟩
  · exact inside inner middleEq
  · by_cases empty : inner = []
    · exact inside [] (by simp [rightEq, empty])
    · refine parted tag (left ++ middle) inner ?_ (by simp [leftNonempty]) empty ?_ ⟨rest, backEq.symm⟩
      · rw [split, rightEq, List.append_assoc]
      · exact ⟨outer, by rw [← frontEq, List.append_assoc]⟩

/-! ## Tags of a text -/

theorem Tag.first?_eq_some_iff : Tag.first? text = some tag ↔ tag.text <+: text := by
  have apart : openTag <+: text → ¬ closeTag <+: text := by
    rintro opened closed
    rcases List.prefix_or_prefix_of_prefix opened closed with impossible | impossible
    · exact absurd impossible (by decide)
    · exact absurd impossible (by decide)
  unfold first?
  cases tag <;> split_ifs <;> simp_all [Tag.text]

/-- A tag that begins a text begins its front part too, when no tag is cut. -/
theorem Parted.first?_append
    (parted : Parted (c :: front) back) :
    Tag.first? (c :: front ++ back) = Tag.first? (c :: front) := by
  refine Option.ext fun tag => ?_
  rw [Tag.first?_eq_some_iff, Tag.first?_eq_some_iff]
  refine ⟨fun begins => ?_, fun begins => begins.trans (List.prefix_append _ _)⟩
  rcases List.prefix_or_prefix_of_prefix begins (List.prefix_append (c :: front) back) with
    inside | ⟨right, split⟩
  · exact inside
  · by_cases empty : right = []
    · rw [← split, empty, List.append_nil]
    · rw [← split, List.prefix_append_right_inj] at begins
      exact absurd begins
        (parted tag _ right split.symm (List.cons_ne_nil c front) empty List.suffix_rfl)

/-- The tags of a text are those of its parts. -/
theorem tags_append (parted : Parted front back) : tags (front ++ back) = tags front ++ tags back := by
  induction front with
  | nil => rfl
  | cons c front inductionHypothesis =>
      have later := inductionHypothesis (parted.of_suffix (List.suffix_cons c front))
      rw [List.cons_append, tags, ← List.cons_append, parted.first?_append, later, tags,
        List.append_assoc]

theorem mem_tags_iff : tag ∈ tags text ↔ tag.text <:+: text := by
  induction text with
  | nil => simp [tags, tag.text_ne_nil]
  | cons c text inductionHypothesis =>
      rw [tags, List.mem_append, Option.mem_toList, Tag.first?_eq_some_iff, inductionHypothesis,
        List.infix_cons_iff]

theorem tags_eq_nil_iff : tags text = [] ↔ ∀ tag : Tag, ¬ tag.text <:+: text := by
  rw [List.eq_nil_iff_forall_not_mem]
  exact forall_congr' fun tag => not_congr mem_tags_iff

theorem tags_text_append (tag : Tag) (back : List Char) :
    tags (tag.text ++ back) = tag :: tags back := by
  cases tag <;> rfl

/-- The occurrences of a tag that are found one after the other are all of them. -/
theorem occurrences_eq_count (tag : Tag) (text : List Char) :
    Text.occurrences tag.text text = (tags text).count tag := by
  obtain ⟨body, bracket, few⟩ := tag.exists_body
  have absent : '<' ∉ body := fun member => absurd (few member) (by decide)
  induction size : text.length using Nat.strongRecOn generalizing text with
  | ind bound inductionHypothesis =>
      rw [Text.occurrences]
      cases cut : Text.cutAt? tag.text text with
      | none =>
          rw [Text.splitOn_of_cutAt?_eq_none tag.text_ne_nil cut, List.count_eq_zero.2]
          · rfl
          · exact fun member => Text.cutAt?_eq_none_iff.1 cut (mem_tags_iff.1 member)
      | some pair =>
          obtain ⟨before, rest⟩ := pair
          have shorter : rest.length < bound := size ▸ Text.length_lt_of_cutAt? tag.text_ne_nil cut
          obtain ⟨first, others, pieces⟩ := Text.exists_cons_of_splitOn tag.text_ne_nil rest
          have later := inductionHypothesis _ shorter rest rfl
          rw [Text.occurrences, pieces] at later
          have none : (tags before).count tag = 0 := by
            rw [bracket] at cut
            have outside := ((Text.cutAt?_cons_eq_some_iff absent).1 cut).2
            rw [← bracket] at outside
            exact List.count_eq_zero.2 fun member => outside (mem_tags_iff.1 member)
          have parted : Parted before (tag.text ++ rest) := by
            rw [bracket]
            exact parted_cons (by decide) before (body ++ rest)
          rw [Text.splitOn_of_cutAt?_eq_some tag.text_ne_nil cut, pieces,
            Text.eq_append_of_cutAt? cut, tags_append parted, tags_text_append, List.count_append,
            none, List.count_cons_self, ← later]
          simp

/-! ## Alternating tags -/

/-- A first part of alternating tags alternates, or does when its last tag is closed. -/
theorem Alternating.of_append
    {first second : List Tag}
    (alternating : Alternating (first ++ second)) :
    Alternating first ∧ first.count .opening = first.count .closing ∨
      Alternating (first ++ [.closing]) ∧ first.count .closing < first.count .opening := by
  generalize same : first ++ second = whole at alternating
  induction alternating generalizing first with
  | nil =>
      rw [(List.append_eq_nil_iff.1 same).1]
      exact .inl ⟨.nil, rfl⟩
  | @pair tags _ inductionHypothesis =>
      match first with
      | [] => exact .inl ⟨.nil, rfl⟩
      | [tag] =>
          obtain ⟨rfl, _⟩ := List.cons.inj same
          exact .inr ⟨.pair .nil, by decide⟩
      | tag :: next :: first =>
          rw [List.cons_append, List.cons_append, List.cons.injEq, List.cons.injEq] at same
          obtain ⟨rfl, rfl, rest⟩ := same
          refine (inductionHypothesis rest).imp ?_ ?_
          · rintro ⟨alternating, counts⟩
            exact ⟨.pair alternating, by simpa using counts⟩
          · rintro ⟨alternating, counts⟩
            exact ⟨.pair alternating, by simpa using counts⟩

/-- An opening tag comes first. -/
theorem Alternating.eq_nil_of_append
    {first second : List Tag}
    (alternating : Alternating (first ++ second))
    (absent : .opening ∉ first) :
    first = [] := by
  generalize same : first ++ second = whole at alternating
  cases first with
  | nil => rfl
  | cons tag first =>
      cases alternating with
      | nil => contradiction
      | pair _ =>
          obtain ⟨rfl, _⟩ := List.cons.inj same
          exact absurd List.mem_cons_self absent

/-- Closing the mark that a cut left open makes the tags of a first part alternate. -/
theorem alternating_tags_closeMark
    {rest : List Tag}
    (alternating : Alternating (tags text ++ rest)) :
    Alternating (tags (closeMark text)) := by
  have openings : Text.occurrences openTag text = _ := occurrences_eq_count .opening text
  have closings : Text.occurrences closeTag text = _ := occurrences_eq_count .closing text
  rw [closeMark, openings, closings]
  rcases alternating.of_append with ⟨first, counts⟩ | ⟨closed, counts⟩
  · rwa [if_neg (by omega)]
  · rw [if_pos counts]
    have parted : Parted text closeTag := parted_cons (by decide) text "/mark>".toList
    rw [tags_append parted]
    exact closed

end Mark
end BlockSearch
