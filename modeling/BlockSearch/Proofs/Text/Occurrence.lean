import BlockSearch.Proofs.Lists
import BlockSearch.Text.Occurrence
import Mathlib.Data.List.Infix
import Mathlib.Data.List.TakeWhile
import Mathlib.Tactic.SplitIfs

/-!
# Occurrences as infixes

A cut, a test and a split at a text are described by the text being an infix. A word without a
character cannot reach over an occurrence of that character. A text that is put together is split,
and something in it is replaced, from left to right in each of its parts. A text without a null
character is seen whole.
-/

namespace BlockSearch
namespace Text

variable {part text before rest word : List Char}

/-! ## Null characters -/

theorem beforeNull_eq_self (noNull : '\x00' ∉ text) : beforeNull text = text := by
  apply List.takeWhile_eq_self_iff.2
  intro c member
  simpa using ne_of_mem_of_not_mem member noNull

theorem null_not_mem_beforeNull (text : List Char) : '\x00' ∉ beforeNull text := fun member =>
  absurd (List.mem_takeWhile_imp member) (by decide)

theorem beforeNull_append
    (noNull : '\x00' ∉ before)
    (text : List Char) :
    beforeNull (before ++ text) = before ++ beforeNull text := by
  apply List.takeWhile_append_of_pos
  intro c member
  simpa using ne_of_mem_of_not_mem member noNull

theorem beforeNull_append_cons
    (noNull : '\x00' ∉ before)
    (text : List Char) :
    beforeNull (before ++ '\x00' :: text) = before := by
  rw [beforeNull_append noNull]
  exact List.append_nil before

/-! ## Cuts -/

theorem stripStart?_eq_some_iff : stripStart? part text = some rest ↔ text = part ++ rest := by
  induction part generalizing text with
  | nil => simp [stripStart?]
  | cons s part inductionHypothesis =>
      cases text with
      | nil => simp [stripStart?]
      | cons c text =>
          rw [stripStart?, List.cons_append, List.cons.injEq]
          split_ifs with same
          · simp [inductionHypothesis, same]
          · simp [Ne.symm same]

theorem stripStart?_eq_none_iff : stripStart? part text = none ↔ ¬ part <+: text := by
  rw [Option.eq_none_iff_forall_ne_some]
  constructor
  · rintro none ⟨rest, rfl⟩
    exact none rest (stripStart?_eq_some_iff.2 rfl)
  · rintro absent rest found
    exact absent ⟨rest, (stripStart?_eq_some_iff.1 found).symm⟩

theorem eq_append_of_cutAt?
    (found : cutAt? part text = some (before, rest)) :
    text = before ++ (part ++ rest) := by
  induction text generalizing before with
  | nil =>
      simp only [cutAt?, Option.map_eq_some_iff, Prod.mk.injEq] at found
      obtain ⟨tail, stripped, rfl, rfl⟩ := found
      rw [List.nil_append, ← stripStart?_eq_some_iff, stripped]
  | cons c text inductionHypothesis =>
      rw [cutAt?] at found
      split at found
      · rename_i tail stripped
        cases found
        rw [List.nil_append, ← stripStart?_eq_some_iff, stripped]
      · simp only [Option.map_eq_some_iff, Prod.mk.injEq] at found
        obtain ⟨⟨left, right⟩, cut, rfl, rfl⟩ := found
        rw [inductionHypothesis cut, List.cons_append]

theorem cutAt?_eq_none_iff : cutAt? part text = none ↔ ¬ part <:+: text := by
  induction text with
  | nil => simp [cutAt?, stripStart?_eq_none_iff]
  | cons c text inductionHypothesis =>
      rw [cutAt?, List.infix_cons_iff, not_or]
      split
      · rename_i tail stripped
        have here : part <+: c :: text := ⟨tail, (stripStart?_eq_some_iff.1 stripped).symm⟩
        simp [here]
      · rename_i stripped
        rw [Option.map_eq_none_iff, inductionHypothesis]
        simp [stripStart?_eq_none_iff.1 stripped]

/-- A text is cut at the first occurrence, so what stands behind any other is behind the cut. -/
theorem suffix_of_cutAt?
    {front behind : List Char}
    (found : cutAt? part text = some (before, rest))
    (occurs : text = front ++ (part ++ behind)) :
    behind <:+ rest := by
  have shorter : behind.length ≤ rest.length := by
    induction text generalizing front before with
    | nil =>
        obtain ⟨_, empty⟩ := List.append_eq_nil_iff.1 occurs.symm
        rw [(List.append_eq_nil_iff.1 empty).2]
        exact Nat.zero_le _
    | cons c text inductionHypothesis =>
        have whole := congrArg List.length occurs
        rw [cutAt?] at found
        split at found
        · rename_i tail stripped
          cases found
          have stripped := length_of_stripStart? stripped
          rw [stripped, List.length_append, List.length_append] at whole
          omega
        · rename_i absent
          cases front with
          | nil =>
              exact absurd ⟨behind, occurs.symm⟩ (stripStart?_eq_none_iff.1 absent)
          | cons d front =>
              obtain ⟨⟨left, right⟩, cut, same⟩ := Option.map_eq_some_iff.1 found
              cases same
              exact inductionHypothesis cut (List.cons.inj occurs).2
  have suffix : behind <:+ text := ⟨front ++ part, by rw [occurs, List.append_assoc]⟩
  have cut : rest <:+ text := ⟨before ++ part, by rw [eq_append_of_cutAt? found, List.append_assoc]⟩
  exact List.suffix_of_suffix_length_le suffix cut shorter

/-- A word whose first character is not repeated in it does not reach over another one. -/
theorem prefix_of_prefix_append_cons
    {c : Char}
    {tail front back : List Char}
    (absent : c ∉ tail)
    (nonempty : front ≠ [])
    (begins : c :: tail <+: front ++ c :: back) :
    c :: tail <+: front := by
  cases front with
  | nil => exact absurd rfl nonempty
  | cons d front =>
      rw [List.cons_append, List.cons_prefix_cons] at begins
      obtain ⟨rfl, begins⟩ := begins
      rw [List.cons_prefix_cons]
      refine ⟨rfl, ?_⟩
      have cut : front ++ [c] <+: front ++ c :: back := ⟨back, by simp⟩
      rcases List.prefix_or_prefix_of_prefix begins cut with short | long
      · rcases List.prefix_concat_iff.1 short with same | inside
        · exact absurd (by rw [same]; simp) absent
        · exact inside
      · exact absurd (long.subset (by simp)) absent

/-- A word whose first character is not repeated in it is cut at where it first occurs. -/
theorem cutAt?_cons_eq_some_iff
    {c : Char}
    {tail : List Char}
    (absent : c ∉ tail) :
    cutAt? (c :: tail) text = some (before, rest) ↔
      text = before ++ c :: (tail ++ rest) ∧ ¬ c :: tail <:+: before := by
  constructor
  · intro found
    have whole := eq_append_of_cutAt? found
    refine ⟨whole, ?_⟩
    rintro ⟨front, back, split⟩
    have occurs : text = front ++ (c :: tail ++ (back ++ (c :: tail ++ rest))) := by
      rw [whole, ← split]
      simp
    have shorter := (suffix_of_cutAt? found occurs).length_le
    simp only [List.length_append, List.length_cons] at shorter
    omega
  · rintro ⟨rfl, first⟩
    cases found : cutAt? (c :: tail) (before ++ c :: (tail ++ rest)) with
    | none => exact absurd ⟨before, rest, by simp⟩ (cutAt?_eq_none_iff.1 found)
    | some cut =>
        obtain ⟨front, back⟩ := cut
        have whole := eq_append_of_cutAt? found
        have later := (suffix_of_cutAt? found (rfl : _ = before ++ (c :: tail ++ rest))).length_le
        rcases List.append_eq_append_iff.1 whole with ⟨left, rfl, same⟩ | ⟨left, rfl, same⟩
        · have lengths := congrArg List.length same
          simp only [List.length_append, List.length_cons] at lengths
          obtain rfl := List.length_eq_zero_iff.1 (by omega : left.length = 0)
          rw [List.nil_append, List.cons_append, List.cons.injEq] at same
          rw [List.append_nil, List.append_cancel_left same.2]
        · by_cases here : left = []
          · rw [here, List.nil_append, List.cons_append, List.cons.injEq] at same
            rw [here, List.append_nil, List.append_cancel_left same.2]
          · have begins : c :: tail <+: left ++ c :: (tail ++ rest) := ⟨back, same⟩
            have inside := prefix_of_prefix_append_cons absent here begins
            exact absurd (inside.isInfix.trans (List.suffix_append front left).isInfix) first

theorem contains_iff : contains part text = true ↔ part <:+: text := by
  rw [contains, Option.isSome_iff_ne_none, ne_eq, cutAt?_eq_none_iff, not_not]

theorem cutAtLast?_eq_none_iff {c : Char} : cutAtLast? c text = none ↔ c ∉ text := by
  simp [cutAtLast?]

theorem cutAtLast?_append_cons
    {c : Char}
    (absent : c ∉ rest) :
    cutAtLast? c (before ++ c :: rest) = some (before, rest) := by
  have reversed : (before ++ c :: rest).reverse = rest.reverse ++ c :: before.reverse := by simp
  have behind : ∀ d ∈ rest.reverse, (d != c) = true := by
    intro d member
    have other : d ≠ c := fun same => absent (same ▸ List.mem_reverse.1 member)
    simpa using other
  rw [cutAtLast?, if_pos (by simp), reversed, List.dropWhile_append_of_pos behind,
    List.takeWhile_append_of_pos behind]
  simp

/-- The part behind the last occurrence does not hold the character. -/
theorem eq_append_of_cutAtLast?
    {c : Char}
    (found : cutAtLast? c text = some (before, rest)) :
    text = before ++ c :: rest ∧ c ∉ rest := by
  have present : c ∈ text := by
    unfold cutAtLast? at found
    split_ifs at found with here
    simpa using here
  obtain ⟨back, front, reversed, absent⟩ :=
    List.eq_append_cons_of_mem (List.mem_reverse.2 present)
  have same : text = front.reverse ++ c :: back.reverse := by
    rw [← List.reverse_reverse text, reversed]
    simp
  have behind : c ∉ back.reverse := fun member => absent (List.mem_reverse.1 member)
  rw [same, cutAtLast?_append_cons behind] at found
  cases found
  exact ⟨same, behind⟩

/-! ## Splits -/

theorem splitOn_of_cutAt?_eq_none
    (nonempty : part ≠ [])
    (absent : cutAt? part text = none) :
    splitOn part text = [text] := by
  rw [splitOn, dif_pos nonempty, splitAt]
  split <;> simp_all

theorem splitOn_of_cutAt?_eq_some
    (nonempty : part ≠ [])
    (found : cutAt? part text = some (before, rest)) :
    splitOn part text = before :: splitOn part rest := by
  rw [splitOn, splitOn, dif_pos nonempty, dif_pos nonempty, splitAt]
  split <;> simp_all

theorem exists_cons_of_splitOn
    (nonempty : part ≠ [])
    (text : List Char) :
    ∃ first others, splitOn part text = first :: others := by
  cases cut : cutAt? part text with
  | none => exact ⟨text, [], splitOn_of_cutAt?_eq_none nonempty cut⟩
  | some pair => exact ⟨pair.1, splitOn part pair.2, splitOn_of_cutAt?_eq_some nonempty cut⟩

/-- What holds of a text, and of both sides of a cut of whatever it holds of, holds of all pieces. -/
theorem forall_mem_splitOn
    {property : List Char → Prop}
    (nonempty : part ≠ [])
    (sides : ∀ before rest, property (before ++ (part ++ rest)) → property before ∧ property rest)
    (holds : property text) :
    ∀ piece ∈ splitOn part text, property piece := by
  induction size : text.length using Nat.strongRecOn generalizing text with
  | ind bound inductionHypothesis =>
      cases cut : cutAt? part text with
      | none =>
          rw [splitOn_of_cutAt?_eq_none nonempty cut, List.forall_mem_singleton]
          exact holds
      | some pair =>
          obtain ⟨before, rest⟩ := pair
          have shorter : rest.length < bound := size ▸ length_lt_of_cutAt? nonempty cut
          have both := sides before rest (eq_append_of_cutAt? cut ▸ holds)
          rw [splitOn_of_cutAt?_eq_some nonempty cut, List.forall_mem_cons]
          exact ⟨both.1, inductionHypothesis _ shorter both.2 rfl⟩

/-- A word that no occurrence of a separator cuts through lies in one of the pieces. -/
theorem exists_infix_of_splitOn
    (nonempty : part ≠ [])
    (uncut : ∀ before rest, word <:+: before ++ (part ++ rest) → word <:+: before ∨ word <:+: rest)
    (occurs : word <:+: text) :
    ∃ piece ∈ splitOn part text, word <:+: piece := by
  induction size : text.length using Nat.strongRecOn generalizing text with
  | ind bound inductionHypothesis =>
      cases cut : cutAt? part text with
      | none =>
          rw [splitOn_of_cutAt?_eq_none nonempty cut]
          exact ⟨text, List.mem_singleton_self text, occurs⟩
      | some pair =>
          obtain ⟨before, rest⟩ := pair
          have shorter : rest.length < bound := size ▸ length_lt_of_cutAt? nonempty cut
          rw [splitOn_of_cutAt?_eq_some nonempty cut]
          rcases uncut before rest (eq_append_of_cutAt? cut ▸ occurs) with front | back
          · exact ⟨before, List.mem_cons_self, front⟩
          · obtain ⟨piece, member, inside⟩ := inductionHypothesis _ shorter back rfl
            exact ⟨piece, List.mem_cons_of_mem _ member, inside⟩

/-- A word without a character lies on one side of every occurrence of the character. -/
theorem infix_or_infix_of_not_mem
    {c : Char}
    (absent : c ∉ word)
    (occurs : word <:+: before ++ c :: rest) :
    word <:+: before ∨ word <:+: rest := by
  have front : ∀ before, word <+: before ++ c :: rest → word <+: before := by
    intro before here
    have split : before ++ [c] <+: before ++ c :: rest := ⟨rest, by simp⟩
    rcases List.prefix_or_prefix_of_prefix here split with short | long
    · rcases List.prefix_concat_iff.1 short with rfl | inside
      · exact absurd (by simp) absent
      · exact inside
    · exact absurd (long.subset (by simp)) absent
  induction before with
  | nil =>
      rcases List.infix_cons_iff.1 occurs with here | later
      · exact .inl (front [] here).isInfix
      · exact .inr later
  | cons d before inductionHypothesis =>
      rw [List.cons_append, List.infix_cons_iff] at occurs
      rcases occurs with here | later
      · exact .inl (front (d :: before) here).isInfix
      · exact (inductionHypothesis later).imp_left fun inside => List.infix_cons_iff.2 (.inr inside)

/-- A word without a character does not reach over a text that this character encloses. -/
theorem infix_or_infix_of_enclosed
    {c : Char}
    {middle : List Char}
    (absent : c ∉ word)
    (outside : ¬ word <:+: middle)
    (occurs : word <:+: before ++ (c :: (middle ++ [c]) ++ rest)) :
    word <:+: before ∨ word <:+: rest := by
  rw [List.cons_append] at occurs
  rcases infix_or_infix_of_not_mem absent occurs with front | back
  · exact .inl front
  · rw [List.append_assoc] at back
    rcases infix_or_infix_of_not_mem absent back with inside | later
    · exact absurd inside outside
    · exact .inr later

/-! ## Texts put together -/

/-- A character that the front does not hold is found behind the front. -/
theorem exists_append_of_not_mem
    {c : Char}
    {front : List Char}
    (absent : c ∉ front)
    (same : front ++ text = before ++ c :: rest) :
    ∃ middle, before = front ++ middle ∧ text = middle ++ c :: rest := by
  rcases List.append_eq_append_iff.1 same with ⟨middle, rfl, later⟩ | ⟨middle, rfl, later⟩
  · exact ⟨middle, rfl, later⟩
  · cases middle with
    | nil => exact ⟨[], by simp, by simpa using later.symm⟩
    | cons d middle =>
        obtain ⟨rfl, -⟩ := List.cons.inj later
        exact absurd (List.mem_append_right _ List.mem_cons_self) absent

theorem splitOn_append_self
    (nonempty : part ≠ [])
    (text : List Char) :
    splitOn part (part ++ text) = [] :: splitOn part text := by
  apply splitOn_of_cutAt?_eq_some nonempty
  cases part with
  | nil => contradiction
  | cons d part =>
      have stripped : stripStart? (d :: part) (d :: (part ++ text)) = some text :=
        stripStart?_eq_some_iff.2 rfl
      rw [List.cons_append, cutAt?, stripped]

/-- A character with which no occurrence begins is put in front of the first piece. -/
theorem splitOn_cons
    (absent : ¬ part <+: c :: text) :
    splitOn part (c :: text) = (splitOn part text).modifyHead (c :: ·) := by
  have nonempty : part ≠ [] := by
    rintro rfl
    exact absent List.nil_prefix
  have cut : cutAt? part (c :: text) = (cutAt? part text).map fun cut => (c :: cut.1, cut.2) := by
    rw [cutAt?, stripStart?_eq_none_iff.2 absent]
  cases later : cutAt? part text with
  | none =>
      rw [later, Option.map_none] at cut
      rw [splitOn_of_cutAt?_eq_none nonempty cut, splitOn_of_cutAt?_eq_none nonempty later]
      rfl
  | some pair =>
      rw [later, Option.map_some] at cut
      rw [splitOn_of_cutAt?_eq_some nonempty cut, splitOn_of_cutAt?_eq_some nonempty later]
      rfl

/-- Characters other than the first one of an occurrence are put in front of the first piece. -/
theorem splitOn_append_of_not_mem
    {tail : List Char}
    (absent : c ∉ front)
    (text : List Char) :
    splitOn (c :: tail) (front ++ text) = (splitOn (c :: tail) text).modifyHead (front ++ ·) := by
  induction front with
  | nil => exact (congrFun List.modifyHead_id _).symm
  | cons d front inductionHypothesis =>
      rw [List.mem_cons, not_or] at absent
      have other : ¬ c :: tail <+: d :: (front ++ text) := fun begins =>
        absent.1 (List.cons_prefix_cons.1 begins).1
      rw [List.cons_append, splitOn_cons other, inductionHypothesis absent.2,
        List.modifyHead_modifyHead]
      rfl

/-! ## Replacements -/

theorem infix_intercalate
    {separator piece : List Char}
    {pieces : List (List Char)}
    (member : piece ∈ pieces) :
    piece <:+: separator.intercalate pieces := by
  induction pieces with
  | nil => contradiction
  | cons first pieces inductionHypothesis =>
      cases pieces with
      | nil =>
          rw [List.mem_singleton] at member
          simp [member, List.intercalate]
      | cons next pieces =>
          rw [List.intercalate_cons_cons]
          rcases List.mem_cons.1 member with rfl | member
          · exact ⟨[], separator ++ separator.intercalate (next :: pieces), by simp⟩
          · exact (inductionHypothesis member).trans (List.suffix_append _ _).isInfix

/-- A replaced text holds the replacement, if anything was replaced. -/
theorem infix_replace_of_infix
    {replacement : List Char}
    (nonempty : part ≠ [])
    (occurs : part <:+: text) :
    replacement <:+: replace part replacement text := by
  cases cut : cutAt? part text with
  | none => exact absurd occurs (cutAt?_eq_none_iff.1 cut)
  | some pair =>
      obtain ⟨next, others, pieces⟩ := exists_cons_of_splitOn nonempty pair.2
      rw [replace, splitOn_of_cutAt?_eq_some nonempty cut, pieces, List.intercalate_cons_cons]
      exact ⟨pair.1, replacement.intercalate (next :: others), rfl⟩

/-- The pieces of a split, joined again. -/
theorem intercalate_splitOn (part text : List Char) :
    part.intercalate (splitOn part text) = text := by
  by_cases nonempty : part = []
  · subst nonempty
    have characters : (text.map fun c => [c]).flatten = text := by
      rw [← List.flatMap_def, List.flatMap_singleton']
    simp [splitOn, Lists.nil_intercalate, characters]
  induction size : text.length using Nat.strongRecOn generalizing text with
  | ind bound inductionHypothesis =>
      cases cut : cutAt? part text with
      | none => rw [splitOn_of_cutAt?_eq_none nonempty cut, List.intercalate_singleton]
      | some pair =>
          obtain ⟨before, rest⟩ := pair
          have shorter : rest.length < bound := size ▸ length_lt_of_cutAt? nonempty cut
          have joined := inductionHypothesis _ shorter rest rfl
          obtain ⟨first, others, pieces⟩ := exists_cons_of_splitOn nonempty rest
          rw [pieces] at joined
          rw [splitOn_of_cutAt?_eq_some nonempty cut, pieces, List.intercalate_cons_cons, joined,
            eq_append_of_cutAt? cut, List.append_assoc]

theorem replace_self (part text : List Char) : replace part part text = text :=
  intercalate_splitOn part text

theorem replace_of_not_infix
    {replacement : List Char}
    (absent : ¬ part <:+: text) :
    replace part replacement text = text := by
  have nonempty : part ≠ [] := by
    rintro rfl
    exact absent List.nil_infix
  rw [replace, splitOn_of_cutAt?_eq_none nonempty (cutAt?_eq_none_iff.2 absent),
    List.intercalate_singleton]

/-- An occurrence lies between two pieces. -/
theorem exists_cons_cons_of_infix
    (occurs : part <:+: text) :
    ∃ first second others, splitOn part text = first :: second :: others := by
  by_cases nonempty : part = []
  · cases text with
    | nil => exact ⟨[], [], [], by simp [splitOn, nonempty]⟩
    | cons c text => exact ⟨[], [c], text.map (fun c => [c]) ++ [[]], by simp [splitOn, nonempty]⟩
  · cases cut : cutAt? part text with
    | none => exact absurd occurs (cutAt?_eq_none_iff.1 cut)
    | some pair =>
        obtain ⟨second, others, pieces⟩ := exists_cons_of_splitOn nonempty pair.2
        exact ⟨pair.1, second, others, by rw [splitOn_of_cutAt?_eq_some nonempty cut, pieces]⟩

/-- A text with an occurrence is changed, unless the replacement is what it takes the place of. -/
theorem replace_eq_self_iff
    {replacement : List Char} :
    replace part replacement text = text ↔ part = replacement ∨ ¬ part <:+: text := by
  constructor
  · intro unchanged
    by_contra other
    push Not at other
    obtain ⟨first, second, others, pieces⟩ := exists_cons_cons_of_infix other.2
    have joined := intercalate_splitOn part text
    rw [replace, pieces] at unchanged
    rw [pieces] at joined
    exact other.1 (Lists.eq_of_intercalate_eq (joined.trans unchanged.symm))
  · rintro (rfl | absent)
    · exact replace_self part text
    · exact replace_of_not_infix absent

@[simp]
theorem replace_nil (nonempty : part ≠ []) : replace part replacement [] = [] :=
  replace_of_not_infix fun inside => nonempty (List.infix_nil.1 inside)

theorem replace_append_self
    (nonempty : part ≠ [])
    (text : List Char) :
    replace part replacement (part ++ text) = replacement ++ replace part replacement text := by
  obtain ⟨first, others, pieces⟩ := exists_cons_of_splitOn nonempty text
  rw [replace, replace, splitOn_append_self nonempty, pieces, List.intercalate_cons_cons,
    List.nil_append]

/-- A character with which no occurrence begins stays. -/
theorem replace_cons
    (absent : ¬ part <+: c :: text) :
    replace part replacement (c :: text) = c :: replace part replacement text := by
  have nonempty : part ≠ [] := by
    rintro rfl
    exact absent List.nil_prefix
  obtain ⟨first, others, pieces⟩ := exists_cons_of_splitOn nonempty text
  rw [replace, replace, splitOn_cons absent, pieces, List.modifyHead_cons]
  cases others with
  | nil => rw [List.intercalate_singleton, List.intercalate_singleton]
  | cons next others =>
      rw [List.intercalate_cons_cons, List.intercalate_cons_cons, List.cons_append,
        List.cons_append]

/-- Characters other than the first one of an occurrence stay. -/
theorem replace_append_of_not_mem
    {tail : List Char}
    (absent : c ∉ front)
    (text : List Char) :
    replace (c :: tail) replacement (front ++ text) =
      front ++ replace (c :: tail) replacement text := by
  induction front with
  | nil => rfl
  | cons d front inductionHypothesis =>
      rw [List.mem_cons, not_or] at absent
      have other : ¬ c :: tail <+: d :: (front ++ text) := fun begins =>
        absent.1 (List.cons_prefix_cons.1 begins).1
      rw [List.cons_append, replace_cons other, inductionHypothesis absent.2, List.cons_append]

end Text
end BlockSearch
