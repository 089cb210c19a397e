import BlockSearch.Proofs.Mark.Matching
import Mathlib.Algebra.Order.Field.Rat
import Mathlib.Tactic.Linarith
import Mathlib.Tactic.NormNum
import Mathlib.Tactic.Positivity
import Mathlib.Tactic.Ring

/-!
# Similarity of texts

The similarity of two texts weighs their matches against their lengths and against the matches that
stand in a different order. It is computed with rounded numbers; the same formula over the rational
numbers gives its exact value. The exact value does not depend on the order of the texts, lies from
zero to one, and is one for equal texts alone. A shared beginning raises it towards one.
-/

namespace BlockSearch
namespace Similarity

/-! ## Matches -/

theorem matchCount_comm (a b : List Char) : matchCount b a = matchCount a b := by
  rw [matchCount, matchCount, matchedChars_swap, Prod.fst_swap]
  exact (perm_matchedChars a b).length_eq.symm

theorem matchCount_le_left (a b : List Char) : matchCount a b ≤ a.length := by
  obtain ⟨pairs, -, matched⟩ := exists_matchedChars_eq a b
  rw [matchCount, matched]
  exact (selected_sublist a _).length_le

theorem matchCount_le_right (a b : List Char) : matchCount a b ≤ b.length := by
  rw [← matchCount_comm]
  exact matchCount_le_left b a

theorem halfTranspositions_comm (a b : List Char) :
    halfTranspositions b a = halfTranspositions a b := by
  have swapped := List.zip_swap (matchedChars a b).2 (matchedChars a b).1
  rw [halfTranspositions, halfTranspositions, matchedChars_swap]
  change (((matchedChars a b).2.zip (matchedChars a b).1).filter fun pair =>
      pair.1 != pair.2).length =
    (((matchedChars a b).1.zip (matchedChars a b).2).filter fun pair => pair.1 != pair.2).length
  rw [← swapped, List.filter_map, List.length_map]
  congr 1
  apply List.filter_congr
  intro pair _
  exact bne_comm

theorem halfTranspositions_le (a b : List Char) : halfTranspositions a b ≤ matchCount a b := by
  rw [halfTranspositions, matchCount]
  apply (List.length_filter_le _ _).trans
  rw [List.length_zip]
  exact Nat.min_le_left _ _

theorem matchCount_self (a : List Char) : matchCount a a = a.length := by
  rw [matchCount, matchedChars_self]

theorem halfTranspositions_self (a : List Char) : halfTranspositions a a = 0 := by
  rw [halfTranspositions, matchedChars_self]
  simp [List.zip_eq_zipWith]

theorem eq_of_filter_zip_eq_nil
    {left right : List Char}
    (length : left.length = right.length)
    (same : ((left.zip right).filter fun pair => pair.1 != pair.2) = []) :
    left = right := by
  induction left generalizing right with
  | nil => exact (List.length_eq_zero_iff.1 length.symm).symm
  | cons x left inductionHypothesis =>
      cases right with
      | nil => contradiction
      | cons y right =>
          rw [List.zip_cons_cons, List.filter_cons] at same
          split_ifs at same with different
          have first : x = y := by simpa using different
          rw [first, inductionHypothesis (Nat.succ.inj length) same]

/-- Texts with the same characters that differ in one place at most are equal. -/
theorem eq_of_perm_of_length_filter_le
    {left right : List Char}
    (perm : left.Perm right)
    (close : ((left.zip right).filter fun pair => pair.1 != pair.2).length ≤ 1) :
    left = right := by
  induction left generalizing right with
  | nil => exact perm.nil_eq
  | cons x left inductionHypothesis =>
      cases right with
      | nil => exact perm.eq_nil
      | cons y right =>
          by_cases same : x = y
          · subst same
            rw [inductionHypothesis perm.cons_inv]
            simpa using close
          · -- The rest is equal, so that the first characters must be, too.
            have rest : left = right := by
              apply eq_of_filter_zip_eq_nil (Nat.succ.inj perm.length_eq)
              rw [List.zip_cons_cons, List.filter_cons_of_pos (by simpa using same),
                List.length_cons] at close
              exact List.length_eq_zero_iff.1 (Nat.le_zero.1 (Nat.le_of_succ_le_succ close))
            subst rest
            have count := perm.count_eq x
            simp [Ne.symm same] at count

/-- Texts all of whose characters are matched, with no transposition, are equal. -/
theorem eq_of_matchCount_eq
    {a b : List Char}
    (left : matchCount a b = a.length)
    (right : matchCount a b = b.length)
    (ordered : halfTranspositions a b ≤ 1) :
    a = b := by
  obtain ⟨pairs, -, matched⟩ := exists_matchedChars_eq a b
  have perm := perm_matchedChars a b
  have otherLength : (matchedChars a b).2.length = b.length := by
    rw [← perm.length_eq]
    exact right
  rw [matchCount] at left
  rw [halfTranspositions] at ordered
  rw [matched] at left ordered perm otherLength
  have first := (selected_sublist a _).eq_of_length left
  have second := (selected_sublist b _).eq_of_length otherLength
  dsimp only at perm ordered
  rw [first, second] at perm ordered
  exact eq_of_perm_of_length_filter_le perm ordered

/-! ## Shared beginnings -/

theorem sharedStart_comm (limit : Nat) (a b : List Char) :
    sharedStart limit b a = sharedStart limit a b := by
  fun_induction sharedStart limit a b with
  | case1 limit x a b inductionHypothesis => simp [sharedStart, inductionHypothesis]
  | case2 limit x a y b different => simp [sharedStart, Ne.symm different]
  | case3 limit a b other =>
      cases limit with
      | zero => rfl
      | succ limit =>
          cases a with
          | nil => cases b <;> rfl
          | cons x a =>
              cases b with
              | nil => rfl
              | cons y b => exact absurd rfl (other limit x a y b rfl rfl)

theorem sharedStart_le (limit : Nat) (a b : List Char) : sharedStart limit a b ≤ limit := by
  fun_induction sharedStart limit a b <;> omega

/-! ## Exact values -/

/-- The exact value of the similarity of two texts. -/
def exactJaro (a b : List Char) : ℚ := jaroIn Nat.cast a b

/-- The exact value of the similarity that is raised for a shared beginning. -/
def exactJaroWinkler (threshold : ℚ) (a b : List Char) : ℚ :=
  jaroWinklerIn Nat.cast threshold Mark.boostStart a b

theorem exactJaro_comm (a b : List Char) : exactJaro b a = exactJaro a b := by
  rw [exactJaro, exactJaro, jaroIn, jaroIn, matchCount_comm, halfTranspositions_comm,
    Bool.or_comm b.isEmpty, Bool.and_comm b.isEmpty]
  dsimp only
  rw [add_comm (_ / (b.length : ℚ))]

/-- The value of texts without a match, and the formula for texts with matches. -/
theorem exactJaro_cases (a b : List Char) :
    (a = [] ∧ b = [] ∧ exactJaro a b = 1) ∨
      (a ≠ b ∧ exactJaro a b = 0) ∨
      (0 < matchCount a b ∧
        exactJaro a b =
          ((matchCount a b : ℚ) / a.length + (matchCount a b : ℚ) / b.length +
            ((matchCount a b : ℚ) - (halfTranspositions a b / 2 : ℕ)) / matchCount a b) / 3) := by
  rw [exactJaro, jaroIn]
  split_ifs with oneEmpty bothEmpty unmatched
  · rw [Bool.and_eq_true, List.isEmpty_iff, List.isEmpty_iff] at bothEmpty
    exact .inl ⟨bothEmpty.1, bothEmpty.2, by norm_num⟩
  · refine .inr (.inl ⟨?_, by norm_num⟩)
    rintro rfl
    simp_all
  · refine .inr (.inl ⟨?_, by norm_num⟩)
    rintro rfl
    rw [matchCount_self, List.length_eq_zero_iff] at unmatched
    simp [unmatched] at oneEmpty
  · exact .inr (.inr ⟨Nat.pos_of_ne_zero unmatched, by norm_num⟩)

/-- Each of the three parts of the formula is at most one, and none is negative. -/
theorem parts_of_matches
    {a b : List Char}
    (some : 0 < matchCount a b) :
    (matchCount a b : ℚ) / a.length ≤ 1 ∧ (matchCount a b : ℚ) / b.length ≤ 1 ∧
      0 ≤ ((matchCount a b : ℚ) - (halfTranspositions a b / 2 : ℕ)) / matchCount a b ∧
      ((matchCount a b : ℚ) - (halfTranspositions a b / 2 : ℕ)) / matchCount a b ≤ 1 := by
  have positive : (0 : ℚ) < matchCount a b := Nat.cast_pos.2 some
  have moved : ((halfTranspositions a b / 2 : ℕ) : ℚ) ≤ matchCount a b :=
    Nat.cast_le.2 ((Nat.div_le_self _ _).trans (halfTranspositions_le a b))
  have unmoved : (0 : ℚ) ≤ (halfTranspositions a b / 2 : ℕ) := Nat.cast_nonneg _
  refine ⟨?_, ?_, ?_, ?_⟩
  · exact div_le_one_of_le₀ (Nat.cast_le.2 (matchCount_le_left a b)) (Nat.cast_nonneg _)
  · exact div_le_one_of_le₀ (Nat.cast_le.2 (matchCount_le_right a b)) (Nat.cast_nonneg _)
  · exact div_nonneg (sub_nonneg.2 moved) positive.le
  · exact div_le_one_of_le₀ (sub_le_self _ unmoved) positive.le

theorem exactJaro_nonneg (a b : List Char) : 0 ≤ exactJaro a b := by
  rcases exactJaro_cases a b with ⟨-, -, value⟩ | ⟨-, value⟩ | ⟨some, value⟩
  · rw [value]
    exact zero_le_one
  · rw [value]
  · obtain ⟨-, -, ordered, -⟩ := parts_of_matches some
    rw [value]
    positivity

theorem exactJaro_le_one (a b : List Char) : exactJaro a b ≤ 1 := by
  rcases exactJaro_cases a b with ⟨-, -, value⟩ | ⟨-, value⟩ | ⟨some, value⟩
  · rw [value]
  · rw [value]
    exact zero_le_one
  · obtain ⟨left, right, -, ordered⟩ := parts_of_matches some
    rw [value]
    linarith

/-- Only equal texts are as similar as can be. -/
theorem exactJaro_eq_one_iff (a b : List Char) : exactJaro a b = 1 ↔ a = b := by
  constructor
  · intro one
    rcases exactJaro_cases a b with ⟨rfl, rfl, -⟩ | ⟨-, value⟩ | ⟨some, value⟩
    · rfl
    · rw [value] at one
      exact absurd one zero_ne_one
    · -- The sum of the three parts is three, so that each of them is one.
      obtain ⟨left, right, -, ordered⟩ := parts_of_matches some
      rw [value] at one
      have positive : (0 : ℚ) < matchCount a b := Nat.cast_pos.2 some
      have whole : (matchCount a b : ℚ) / a.length = 1 := by linarith
      have otherWhole : (matchCount a b : ℚ) / b.length = 1 := by linarith
      have unmoved :
          ((matchCount a b : ℚ) - (halfTranspositions a b / 2 : ℕ)) / matchCount a b = 1 := by
        linarith
      have none : ((halfTranspositions a b / 2 : ℕ) : ℚ) = 0 := by
        rw [div_eq_one_iff_eq positive.ne'] at unmoved
        linarith
      have few : halfTranspositions a b / 2 = 0 := Nat.cast_eq_zero.1 none
      exact eq_of_matchCount_eq (Nat.cast_injective (eq_of_div_eq_one whole))
        (Nat.cast_injective (eq_of_div_eq_one otherWhole)) (by omega)
  · rintro rfl
    rcases exactJaro_cases a a with ⟨-, -, value⟩ | ⟨different, -⟩ | ⟨some, value⟩
    · exact value
    · contradiction
    · rw [matchCount_self] at some value
      have positive : (a.length : ℚ) ≠ 0 := Nat.cast_ne_zero.2 some.ne'
      rw [value, halfTranspositions_self, Nat.zero_div, Nat.cast_zero, sub_zero, div_self positive]
      norm_num

/-! ## Raised values -/

/-- The share of what a similarity lacks that is made up for by a shared beginning. -/
def boost (threshold : ℚ) (a b : List Char) : ℚ :=
  if exactJaro a b ≤ threshold then 0 else sharedStart Mark.boostStart a b / 10

theorem exactJaroWinkler_eq (threshold : ℚ) (a b : List Char) :
    exactJaroWinkler threshold a b =
      exactJaro a b + boost threshold a b * (1 - exactJaro a b) := by
  rw [exactJaroWinkler, jaroWinklerIn, boost, ← exactJaro]
  split_ifs
  · rw [zero_mul, add_zero]
  · have tenth : (0.1 : ℚ) = 1 / 10 := by norm_num
    have whole : (1.0 : ℚ) = 1 := by norm_num
    rw [tenth, whole]
    ring

theorem boost_nonneg (threshold : ℚ) (a b : List Char) : 0 ≤ boost threshold a b := by
  rw [boost]
  split_ifs <;> positivity

/-- A beginning of four characters makes up for less than one half. -/
theorem boost_lt_one (threshold : ℚ) (a b : List Char) : boost threshold a b < 1 := by
  rw [boost]
  split_ifs
  · exact zero_lt_one
  · have few : (sharedStart Mark.boostStart a b : ℚ) ≤ (4 : ℕ) :=
      Nat.cast_le.2 (sharedStart_le Mark.boostStart a b)
    rw [Nat.cast_ofNat] at few
    linarith

theorem boost_comm (threshold : ℚ) (a b : List Char) :
    boost threshold b a = boost threshold a b := by
  rw [boost, boost, exactJaro_comm, sharedStart_comm]

/--
Two texts have the same matches and half transpositions in either order, no more matches than
characters, and the same exact similarity. It lies from zero to one, and it is one for equal texts
alone. So does, whatever the threshold, the similarity that is raised for a shared beginning, which
is never below the plain one.
-/
theorem similarity_comm_and_eq_one_iff (a b : List Char) :
    matchCount b a = matchCount a b ∧ halfTranspositions b a = halfTranspositions a b ∧
      matchCount a b ≤ a.length ∧ matchCount a b ≤ b.length ∧
      exactJaro b a = exactJaro a b ∧ 0 ≤ exactJaro a b ∧ exactJaro a b ≤ 1 ∧
      (exactJaro a b = 1 ↔ a = b) ∧
      ∀ threshold,
        exactJaroWinkler threshold b a = exactJaroWinkler threshold a b ∧
        exactJaro a b ≤ exactJaroWinkler threshold a b ∧ exactJaroWinkler threshold a b ≤ 1 ∧
        (exactJaroWinkler threshold a b = 1 ↔ a = b) := by
  have most := exactJaro_le_one a b
  refine ⟨matchCount_comm a b, halfTranspositions_comm a b, matchCount_le_left a b,
    matchCount_le_right a b, exactJaro_comm a b, exactJaro_nonneg a b, most,
    exactJaro_eq_one_iff a b, fun threshold => ?_⟩
  have part := boost_nonneg threshold a b
  have notAll := boost_lt_one threshold a b
  have lacks : 0 ≤ 1 - exactJaro a b := sub_nonneg.2 most
  have raised : 0 ≤ boost threshold a b * (1 - exactJaro a b) := mul_nonneg part lacks
  have left : 1 - exactJaroWinkler threshold a b =
      (1 - boost threshold a b) * (1 - exactJaro a b) := by
    rw [exactJaroWinkler_eq]
    ring
  have some : 0 < 1 - boost threshold a b := sub_pos.2 notAll
  refine ⟨?_, ?_, ?_, ?_⟩
  · rw [exactJaroWinkler_eq, exactJaroWinkler_eq, exactJaro_comm, boost_comm]
  · rw [exactJaroWinkler_eq]
    exact le_add_of_nonneg_right raised
  · apply sub_nonneg.1
    rw [left]
    exact mul_nonneg some.le lacks
  · rw [← exactJaro_eq_one_iff, eq_comm, ← sub_eq_zero, left, mul_eq_zero, sub_eq_zero, sub_eq_zero]
    constructor
    · rintro (all | one)
      · exact absurd all notAll.ne'
      · exact one.symm
    · exact fun one => .inr one.symm

/-- All six characters match, and two of them stand in a different order. -/
example : exactJaro "MARTHA".toList "MARHTA".toList = 17 / 18 := by decide +kernel

end Similarity
end BlockSearch
