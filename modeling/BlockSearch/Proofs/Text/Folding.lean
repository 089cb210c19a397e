import Mathlib.Data.List.Chain
import Mathlib.Tactic.SplitIfs
import BlockSearch.Text.Folding

/-!
# Letters up to case

The table of case foldings lists no code point twice, and it folds to none that it lists. So a
letter that was folded stays as it is, and the case variants of a letter are exactly the letters
with the same folding.
-/

namespace BlockSearch
namespace Text

variable {range other : FoldRange} {n : Nat} {c k : Char}

/-! ## ASCII letters -/

/-- Nothing but a letter changes, and it becomes a letter in lower case. -/
theorem eq_of_toLower_eq
    {c d : Char}
    (same : c.toLower = d)
    (other : d.val.toNat < 97 ∨ 122 < d.val.toNat) :
    c = d := by
  change dite _ _ _ = _ at same
  split_ifs at same with upper
  · have value := congrArg (fun c : Char => c.val.toNat) same
    obtain ⟨above, most⟩ := upper
    rw [ge_iff_le, UInt32.le_iff_toNat_le] at above
    rw [UInt32.le_iff_toNat_le] at most
    simp only [UInt32.toNat_add, Char.reduceVal, UInt32.reduceToNat, Char.toNat_val,
      UInt32.reduceSub, Nat.reducePow] at above most value other
    omega
  · exact same

theorem isAlpha_of_isAlpha_toLower
    {c : Char}
    (letter : c.toLower.isAlpha = true) :
    c.isAlpha = true := by
  by_cases upper : c.isUpper = true
  · change (c.isUpper || c.isLower) = true
    rw [upper, Bool.true_or]
  · have same : c.toLower = c := by
      change dite _ _ _ = _
      rw [dif_neg]
      intro bounds
      exact upper (decide_eq_true bounds)
    rwa [same] at letter

/-! ## The table -/

namespace FoldRange

/-- The code point that a range folds another one to. -/
def image (range : FoldRange) (n : Nat) : Nat := (n + range.offset).toNat

/-- Code points between two bounds are those of characters: there is no surrogate between them. -/
def Scalars (first last : Int) : Prop :=
  0 ≤ first ∧ (last < 0xD800 ∨ 0xDFFF < first ∧ last < 0x110000)

instance (first last : Int) : Decidable (Scalars first last) :=
  inferInstanceAs (Decidable (_ ∧ _))

/--
What a range folds to lies before another range or behind it, or between the strides of the
other range.
-/
def misses (range other : FoldRange) : Bool :=
  Nat.blt (range.image range.last) other.first || Nat.blt other.last (range.image range.first) ||
    (other.stride == 2 && (range.stride == 2 || range.first == range.last) &&
      (range.image range.first - other.first) % 2 == 1)

theorem covers_iff :
    range.covers n = true ↔
      range.first ≤ n ∧ n ≤ range.last ∧ (n - range.first) % range.stride = 0 := by
  simp [covers, and_assoc]

theorem not_covers_image
    (misses : range.misses other = true)
    (covered : range.covers n = true) :
    other.covers (range.image n) = false := by
  obtain ⟨low, high, stride⟩ := covers_iff.1 covered
  rw [Bool.eq_false_iff, Ne, covers_iff]
  rintro ⟨otherLow, otherHigh, otherStride⟩
  simp only [FoldRange.misses, image, Bool.or_eq_true, Bool.and_eq_true, Nat.blt_eq, beq_iff_eq]
    at misses otherLow otherHigh otherStride
  rcases misses with (before | behind) | ⟨⟨two, same | one⟩, odd⟩
  · omega
  · omega
  · rw [two] at otherStride
    rw [same] at stride
    omega
  · rw [two] at otherStride
    omega

end FoldRange

theorem foldRanges_scalars
    (member : range ∈ foldRanges) :
    FoldRange.Scalars range.first range.last ∧
      FoldRange.Scalars (range.first + range.offset) (range.last + range.offset) := by
  have all : ∀ range ∈ foldRanges, FoldRange.Scalars range.first range.last ∧
      FoldRange.Scalars (range.first + range.offset) (range.last + range.offset) := by
    decide +kernel
  exact all range member

/-- The ranges stand in the order of their code points and share none of them. -/
theorem foldRanges_pairwise :
    foldRanges.Pairwise fun range later =>
      range.first ≤ range.last ∧ range.last < later.first := by
  have chain : foldRanges.IsChain fun range later =>
      range.first ≤ range.last ∧ range.last < later.first := by decide +kernel
  have : Trans
      (fun range later : FoldRange => range.first ≤ range.last ∧ range.last < later.first)
      (fun range later : FoldRange => range.first ≤ range.last ∧ range.last < later.first)
      (fun range later : FoldRange => range.first ≤ range.last ∧ range.last < later.first) :=
    ⟨fun first second => ⟨first.1, by omega⟩⟩
  exact chain.pairwise

/-- No range folds to a code point that some range covers. -/
theorem foldRanges_misses
    (member : range ∈ foldRanges)
    (otherMember : other ∈ foldRanges) :
    range.misses other = true := by
  have all : (foldRanges.all fun range => foldRanges.all range.misses) = true := by
    decide +kernel
  exact List.all_eq_true.1 (List.all_eq_true.1 all range member) other otherMember

/-- A code point is looked up in the one range that covers it. -/
theorem find?_covers
    (member : range ∈ foldRanges)
    (covered : range.covers n = true) :
    foldRanges.find? (·.covers n) = some range := by
  obtain ⟨before, behind, whole⟩ := List.append_of_mem member
  rw [List.find?_eq_some_iff_append]
  refine ⟨covered, before, behind, whole, fun other otherMember => ?_⟩
  have ordered := foldRanges_pairwise
  rw [whole, List.pairwise_append] at ordered
  have later := (ordered.2.2 other otherMember range List.mem_cons_self).2
  have low := (FoldRange.covers_iff.1 covered).1
  rw [Bool.not_eq_true', Bool.eq_false_iff, Ne, FoldRange.covers_iff]
  omega

/-! ## Folding -/

theorem toNat_ofNat_of_scalars
    {first last : Int}
    (scalars : FoldRange.Scalars first last)
    (low : first ≤ n)
    (high : n ≤ last) :
    (Char.ofNat n).toNat = n := by
  have valid : n.isValidChar := by
    rcases scalars with ⟨_, before | ⟨behind, most⟩⟩
    · exact .inl (by omega)
    · exact .inr ⟨by omega, by omega⟩
  rw [Char.ofNat, dif_pos valid]
  rfl

/-- A covered code point is the code point of a character, and so is its image. -/
theorem toNat_ofNat_of_covers
    (member : range ∈ foldRanges)
    (covered : range.covers n = true) :
    (Char.ofNat n).toNat = n ∧ (Char.ofNat (range.image n)).toNat = range.image n ∧
      (range.image n : Int) = n + range.offset := by
  obtain ⟨own, image⟩ := foldRanges_scalars member
  obtain ⟨low, high, -⟩ := FoldRange.covers_iff.1 covered
  have shifted : (range.image n : Int) = n + range.offset :=
    Int.toNat_of_nonneg (by have := image.1; omega)
  exact ⟨toNat_ofNat_of_scalars own (by omega) (by omega),
    toNat_ofNat_of_scalars image (by omega) (by omega), shifted⟩

/-- ASCII letters are folded as the table says, too: only its first range is about them. -/
theorem simpleFold_eq (c : Char) :
    simpleFold c =
      match foldRanges.find? (·.covers c.toNat) with
      | some range => Char.ofNat (range.image c.toNat)
      | none => c := by
  rw [simpleFold]
  split_ifs with small
  · have lower : ∀ n < 128, (Char.ofNat n).toLower =
        match (foldRanges.take 1).find? (·.covers n) with
        | some range => Char.ofNat (range.image n)
        | none => Char.ofNat n := by decide +kernel
    have later : ∀ range ∈ foldRanges.drop 1, 128 ≤ range.first := by decide +kernel
    have absent : (foldRanges.drop 1).find? (·.covers c.toNat) = none := by
      rw [List.find?_eq_none]
      intro range member
      have first := later range member
      rw [FoldRange.covers_iff]
      omega
    have same := lower c.toNat small
    have first : foldRanges.find? (·.covers c.toNat) =
        (foldRanges.take 1).find? (·.covers c.toNat) := by
      conv_lhs => rw [← List.take_append_drop 1 foldRanges]
      rw [List.find?_append, absent, Option.or_none]
    rw [Char.ofNat_toNat] at same
    rw [first, same]
  · rfl

theorem toNat_simpleFold_of_covers
    (member : range ∈ foldRanges)
    (covered : range.covers c.toNat = true) :
    (simpleFold c).toNat = range.image c.toNat := by
  rw [simpleFold_eq, find?_covers member covered]
  exact (toNat_ofNat_of_covers member covered).2.1

theorem simpleFold_of_not_covers
    (uncovered : ∀ range ∈ foldRanges, range.covers c.toNat = false) :
    simpleFold c = c := by
  have none : foldRanges.find? (·.covers c.toNat) = none := by
    simpa using uncovered
  rw [simpleFold_eq, none]

/-- No range covers a folded letter. -/
theorem not_covers_simpleFold
    (otherMember : other ∈ foldRanges) :
    other.covers (simpleFold c).toNat = false := by
  by_cases covered : ∃ range ∈ foldRanges, range.covers c.toNat = true
  · obtain ⟨range, member, covers⟩ := covered
    rw [toNat_simpleFold_of_covers member covers]
    exact FoldRange.not_covers_image (foldRanges_misses member otherMember) covers
  · have uncovered : ∀ range ∈ foldRanges, range.covers c.toNat = false := by
      simpa using covered
    rw [simpleFold_of_not_covers uncovered]
    exact uncovered other otherMember

/-- Folding a letter twice is folding it once. -/
@[simp]
theorem simpleFold_simpleFold (c : Char) : simpleFold (simpleFold c) = simpleFold c :=
  simpleFold_of_not_covers fun _ member => not_covers_simpleFold member

/-! ## Variants -/

theorem unfold?_eq_some_iff
    (member : range ∈ foldRanges) :
    range.unfold? c = some k ↔ range.covers k.toNat = true ∧ simpleFold k = c := by
  have unfolds : range.unfold? c = some k ↔
      ∃ n : Nat, (n : Int) + range.offset = c.toNat ∧ range.covers n = true ∧ Char.ofNat n = k := by
    simp only [Bool.and_eq_true, FoldRange.unfold?, decide_eq_true_eq, Option.ite_none_right_eq_some,
      Option.some_inj]
    constructor
    · rintro ⟨⟨positive, covered⟩, same⟩
      exact ⟨_, by omega, covered, same⟩
    · rintro ⟨n, image, covered, same⟩
      have shifted : (c.toNat : Int) - range.offset = n := by omega
      rw [shifted, Int.toNat_natCast]
      exact ⟨⟨Int.natCast_nonneg n, covered⟩, same⟩
  rw [unfolds]
  constructor
  · rintro ⟨n, image, covered, rfl⟩
    obtain ⟨own, -, shifted⟩ := toNat_ofNat_of_covers member covered
    rw [← own] at covered
    refine ⟨covered, Char.toNat_inj.1 ?_⟩
    rw [toNat_simpleFold_of_covers member covered, own]
    omega
  · rintro ⟨covered, rfl⟩
    obtain ⟨-, -, shifted⟩ := toNat_ofNat_of_covers member covered
    refine ⟨k.toNat, ?_, covered, Char.ofNat_toNat k⟩
    rw [toNat_simpleFold_of_covers member covered, shifted]

/-- The case variants of a letter are the letters with the same folding. -/
theorem mem_caseVariants_iff : k ∈ caseVariants c ↔ simpleFold k = simpleFold c := by
  rw [caseVariants, List.mem_cons, List.mem_filterMap]
  constructor
  · rintro (rfl | ⟨range, member, unfolded⟩)
    · exact simpleFold_simpleFold c
    · exact ((unfold?_eq_some_iff member).1 unfolded).2
  · intro same
    by_cases covered : ∃ range ∈ foldRanges, range.covers k.toNat = true
    · obtain ⟨range, member, covers⟩ := covered
      exact .inr ⟨range, member, (unfold?_eq_some_iff member).2 ⟨covers, same⟩⟩
    · have uncovered : ∀ range ∈ foldRanges, range.covers k.toNat = false := by
        simpa using covered
      exact .inl ((simpleFold_of_not_covers uncovered).symm.trans same)

end Text
end BlockSearch
