import BlockSearch.Proofs.Text.Occurrence
import BlockSearch.Text.Position
import Mathlib.Tactic.SplitIfs

/-!
# Cutting at byte positions

The position of a character is the number of bytes of the text before it, so a text is cut there
between two characters and the cut gives what stands before the character and what is left.
-/

namespace BlockSearch
namespace Text

variable {part text before rest : List Char}

theorem utf8Length_cons (c : Char) (text : List Char) :
    utf8Length (c :: text) = c.utf8Size + utf8Length text := rfl

/-- A text has as many bytes as characters when all of them are ASCII, and else more. -/
theorem utf8Length_eq_length_iff :
    utf8Length text = text.length ↔ ∀ c ∈ text, c.val ≤ 127 := by
  have enough : ∀ text : List Char, text.length ≤ utf8Length text := by
    intro text
    induction text with
    | nil => exact Nat.le_refl 0
    | cons c text inductionHypothesis =>
        have positive := c.utf8Size_pos
        rw [utf8Length_cons, List.length_cons]
        omega
  induction text with
  | nil => simp [utf8Length]
  | cons c text inductionHypothesis =>
      have positive := c.utf8Size_pos
      have rest := enough text
      rw [utf8Length_cons, List.length_cons, List.forall_mem_cons]
      constructor
      · intro same
        exact ⟨Char.utf8Size_eq_one_iff.1 (by omega), inductionHypothesis.1 (by omega)⟩
      · rintro ⟨first, others⟩
        have single := Char.utf8Size_eq_one_iff.2 first
        have same := inductionHypothesis.2 others
        omega

/-- Every position of a character is one at which the text is cut. -/
theorem sides?_utf8Length (before rest : List Char) :
    sides? (utf8Length before) (before ++ rest) = some (before, rest) := by
  induction before with
  | nil => rw [utf8Length, List.foldr_nil, sides?, List.nil_append]
  | cons c before inductionHypothesis =>
      have positive : c.utf8Size ≠ 0 := c.utf8Size_pos.ne'
      obtain ⟨size, whole⟩ := Nat.exists_eq_succ_of_ne_zero positive
      rw [utf8Length_cons, List.cons_append, whole, Nat.succ_add, sides?, whole,
        if_pos (by omega), show size + utf8Length before + 1 - (size + 1) = utf8Length before by
          omega, inductionHypothesis, Option.map_some]

/-- A text is cut before every character. -/
theorem sides?_take (index : Nat) (text : List Char) :
    sides? (utf8Length (text.take index)) text = some (text.take index, text.drop index) := by
  have whole := sides?_utf8Length (text.take index) (text.drop index)
  rwa [List.take_append_drop] at whole

theorem sides?_of_firstPosition?
    {position : Nat}
    (found : firstPosition? part text = some position) :
    sides? position text = (cutAt? part text).map fun cut => (cut.1, part ++ cut.2) := by
  obtain ⟨⟨before, rest⟩, cut, rfl⟩ := Option.map_eq_some_iff.1 found
  rw [cut, Option.map_some, eq_append_of_cutAt? cut, sides?_utf8Length]

theorem sides?_of_lastPosition?
    {c : Char}
    {position : Nat}
    (found : lastPosition? c text = some position) :
    sides? position text = (cutAtLast? c text).map fun cut => (cut.1, c :: cut.2) := by
  obtain ⟨⟨before, rest⟩, cut, rfl⟩ := Option.map_eq_some_iff.1 found
  rw [cut, Option.map_some, (eq_append_of_cutAtLast? cut).1, sides?_utf8Length]

theorem getElem?_positionsFrom
    (position index : Nat)
    (text : List Char) :
    (positionsFrom position text)[index]? =
      if index < text.length then some (position + utf8Length (text.take index)) else none := by
  induction text generalizing position index with
  | nil => simp [positionsFrom]
  | cons c text inductionHypothesis =>
      cases index with
      | zero => simp [positionsFrom, utf8Length]
      | succ index =>
          rw [positionsFrom, List.getElem?_cons_succ, inductionHypothesis]
          simp [utf8Length_cons, Nat.add_assoc]

/-- The bytes before a character are those of the characters before it. -/
theorem getElem?_positions (index : Nat) (text : List Char) :
    (positions text)[index]? =
      if index < text.length then some (utf8Length (text.take index)) else none := by
  rw [positions, getElem?_positionsFrom, Nat.zero_add]

theorem length_positionsFrom (position : Nat) (text : List Char) :
    (positionsFrom position text).length = text.length := by
  induction text generalizing position with
  | nil => rfl
  | cons c text inductionHypothesis =>
      rw [positionsFrom, List.length_cons, List.length_cons, inductionHypothesis]

/-- The position of a character is counted from the end of the text as well. -/
theorem getElem?_reverse_positions
    {index : Nat}
    (inside : index < text.length) :
    (positions text).reverse[index]? =
      some (utf8Length (text.take (text.length - 1 - index))) := by
  have length : (positions text).length = text.length := length_positionsFrom 0 text
  rw [List.getElem?_reverse (by omega), length, getElem?_positions, if_pos (by omega)]

end Text
end BlockSearch
