import BlockSearch.Mark.Score
import Mathlib.Data.List.Basic
import Mathlib.Data.Nat.Init

/-!
# Matched characters

Every character of a text is matched with the first free equal character of another text that is
near enough. The pairs of places that are matched are stable: of two places that could be matched,
one is matched with the other one or with an earlier place. As both sides prefer earlier places,
there is only one stable way to match them. So it does not matter which of two texts comes first,
and a text is matched with itself place by place.
-/

namespace BlockSearch
namespace Similarity

/-! ## Stable pairs -/

/-- Pairs of acceptable places that leave no two places with a reason to be matched instead. -/
structure Stable (accepts : Nat → Nat → Prop) (pairs : List (Nat × Nat)) : Prop where
  /-- The places of a pair accept each other. -/
  accepted : ∀ {i j}, (i, j) ∈ pairs → accepts i j
  /-- A place on the left is in one pair at most. -/
  left_unique : ∀ {i j k}, (i, j) ∈ pairs → (i, k) ∈ pairs → j = k
  /-- A place on the right is in one pair at most. -/
  right_unique : ∀ {i j k}, (i, k) ∈ pairs → (j, k) ∈ pairs → i = j
  /-- Of two acceptable places, one is matched with the other one or with an earlier place. -/
  settled : ∀ {i j}, accepts i j → (∃ k ≤ j, (i, k) ∈ pairs) ∨ ∃ k ≤ i, (k, j) ∈ pairs

namespace Stable

variable {accepts : Nat → Nat → Prop} {pairs others : List (Nat × Nat)}

theorem congr
    {other : Nat → Nat → Prop}
    (stable : Stable accepts pairs)
    (same : ∀ i j, other i j ↔ accepts i j) :
    Stable other pairs where
  accepted member := (same _ _).2 (stable.accepted member)
  left_unique := stable.left_unique
  right_unique := stable.right_unique
  settled accepted := stable.settled ((same _ _).1 accepted)

/-- Stable pairs are stable from the other side. -/
theorem swap
    (stable : Stable accepts pairs) :
    Stable (fun i j => accepts j i) (pairs.map Prod.swap) := by
  have mem_swap {i j : Nat} : (i, j) ∈ pairs.map Prod.swap ↔ (j, i) ∈ pairs := by
    constructor
    · intro member
      obtain ⟨⟨first, second⟩, inside, same⟩ := List.mem_map.1 member
      cases same
      exact inside
    · intro member
      exact List.mem_map.2 ⟨(j, i), member, rfl⟩
  constructor
  · intro i j member
    exact stable.accepted (mem_swap.1 member)
  · intro i j k first second
    exact stable.right_unique (mem_swap.1 first) (mem_swap.1 second)
  · intro i j k first second
    exact stable.left_unique (mem_swap.1 first) (mem_swap.1 second)
  · intro i j accepted
    simp only [mem_swap]
    exact (stable.settled accepted).symm

/-- Two places are matched before all others, of which those that accept one of them come later. -/
theorem cons
    {rest : Nat → Nat → Prop}
    {i j : Nat}
    (stable : Stable rest pairs)
    (accepted : accepts i j)
    (others : ∀ k l, rest k l → accepts k l ∧ k ≠ i ∧ l ≠ j)
    (cases : ∀ k l, accepts k l → rest k l ∨ (k = i ∧ j ≤ l) ∨ (l = j ∧ i ≤ k)) :
    Stable accepts ((i, j) :: pairs) where
  accepted member := by
    rcases List.mem_cons.1 member with here | later
    · cases here
      exact accepted
    · exact (others _ _ (stable.accepted later)).1
  left_unique first second := by
    rcases List.mem_cons.1 first with here | later <;>
      rcases List.mem_cons.1 second with there | behind
    · exact congrArg Prod.snd (here.trans there.symm)
    · cases here
      exact absurd rfl (others _ _ (stable.accepted behind)).2.1
    · cases there
      exact absurd rfl (others _ _ (stable.accepted later)).2.1
    · exact stable.left_unique later behind
  right_unique first second := by
    rcases List.mem_cons.1 first with here | later <;>
      rcases List.mem_cons.1 second with there | behind
    · exact congrArg Prod.fst (here.trans there.symm)
    · cases here
      exact absurd rfl (others _ _ (stable.accepted behind)).2.2
    · cases there
      exact absurd rfl (others _ _ (stable.accepted later)).2.2
    · exact stable.right_unique later behind
  settled acceptable := by
    rcases cases _ _ acceptable with later | ⟨rfl, early⟩ | ⟨rfl, early⟩
    · apply (stable.settled later).imp
      · exact fun ⟨k, early, member⟩ => ⟨k, early, List.mem_cons_of_mem _ member⟩
      · exact fun ⟨k, early, member⟩ => ⟨k, early, List.mem_cons_of_mem _ member⟩
    · exact .inl ⟨j, early, List.mem_cons_self⟩
    · exact .inr ⟨i, early, List.mem_cons_self⟩

/-- There is only one stable way to match places. -/
theorem mem_of_mem
    (stable : Stable accepts pairs)
    (other : Stable accepts others)
    {i j : Nat}
    (member : (i, j) ∈ pairs) :
    (i, j) ∈ others := by
  -- The other pairs hold a pair that is no later. If it was earlier, both ways would agree on it.
  induction bound : i + j using Nat.strong_induction_on generalizing i j pairs others with
  | _ bound inductionHypothesis =>
      rcases other.settled (stable.accepted member) with ⟨k, early, inside⟩ | ⟨k, early, inside⟩
      · rcases Nat.eq_or_lt_of_le early with rfl | earlier
        · exact inside
        · have both := inductionHypothesis (i + k) (by omega) other stable inside rfl
          exact absurd (stable.left_unique both member) (Nat.ne_of_lt earlier)
      · rcases Nat.eq_or_lt_of_le early with rfl | earlier
        · exact inside
        · have both := inductionHypothesis (k + j) (by omega) other stable inside rfl
          exact absurd (stable.right_unique both member) (Nat.ne_of_lt earlier)

theorem mem_iff
    (stable : Stable accepts pairs)
    (other : Stable accepts others)
    {pair : Nat × Nat} :
    pair ∈ pairs ↔ pair ∈ others :=
  ⟨stable.mem_of_mem other, other.mem_of_mem stable⟩

end Stable

/-! ## Claimed slots -/

/-- A place behind the first `skip` ones and no more than `width` further has a free slot. -/
def Free (c : Char) (skip width : Nat) (slots : List Slot) (j : Nat) : Prop :=
  skip ≤ j ∧ j < skip + width ∧ slots[j]? = some (c, false)

section

variable {c : Char} {skip width : Nat} {slot : Slot} {slots claimed : List Slot} {j : Nat}

theorem free_succ_cons :
    Free c (skip + 1) width (slot :: slots) (j + 1) ↔ Free c skip width slots j := by
  rw [Free, Free, List.getElem?_cons_succ]
  refine and_congr ?_ (and_congr ?_ Iff.rfl) <;> omega

theorem free_zero_cons :
    Free c 0 (width + 1) (slot :: slots) (j + 1) ↔ Free c 0 width slots j := by
  rw [Free, Free, List.getElem?_cons_succ]
  refine and_congr ?_ (and_congr ?_ Iff.rfl) <;> omega

/-- A slot is claimed unless none is free. -/
theorem not_free_of_claim?
    (failed : claim? c skip width slots = none)
    (j : Nat) :
    ¬ Free c skip width slots j := by
  fun_induction claim? c skip width slots generalizing j with
  | case1 => simp [Free]
  | case2 width skip slot rest inductionHypothesis =>
      cases j with
      | zero => simp [Free]
      | succ j =>
          rw [free_succ_cons]
          exact inductionHypothesis (Option.map_eq_none_iff.1 failed) j
  | case3 => simp [Free]
  | case4 => contradiction
  | case5 width slot rest taken inductionHypothesis =>
      cases j with
      | zero =>
          rintro ⟨-, -, here⟩
          cases Option.some.inj here
          simp at taken
      | succ j =>
          rw [free_zero_cons]
          exact inductionHypothesis (Option.map_eq_none_iff.1 failed) j

/-- The slot that is claimed is the first free one. -/
theorem exists_of_claim?
    (claims : claim? c skip width slots = some claimed) :
    ∃ j, Free c skip width slots j ∧ (∀ k, Free c skip width slots k → j ≤ k) ∧
      claimed = slots.set j (c, true) := by
  fun_induction claim? c skip width slots generalizing claimed with
  | case1 => contradiction
  | case2 width skip slot rest inductionHypothesis =>
      obtain ⟨later, found, rfl⟩ := Option.map_eq_some_iff.1 claims
      obtain ⟨j, free, first, rfl⟩ := inductionHypothesis found
      refine ⟨j + 1, free_succ_cons.2 free, fun k other => ?_, rfl⟩
      cases k with
      | zero => simp [Free] at other
      | succ k => exact Nat.succ_le_succ (first k (free_succ_cons.1 other))
  | case3 => contradiction
  | case4 width slot rest here =>
      obtain ⟨character, taken⟩ := slot
      obtain ⟨rfl, rfl⟩ : taken = false ∧ character = c := by simpa using here
      refine ⟨0, by simp [Free], fun k _ => Nat.zero_le k, ?_⟩
      exact (Option.some.inj claims).symm
  | case5 width slot rest taken inductionHypothesis =>
      obtain ⟨later, found, rfl⟩ := Option.map_eq_some_iff.1 claims
      obtain ⟨j, free, first, rfl⟩ := inductionHypothesis found
      refine ⟨j + 1, free_zero_cons.2 free, fun k other => ?_, rfl⟩
      cases k with
      | zero =>
          obtain ⟨-, -, here⟩ := other
          cases Option.some.inj here
          simp at taken
      | succ k => exact Nat.succ_le_succ (first k (free_zero_cons.1 other))

/-- A claimed slot adds its character to those that are matched. -/
theorem perm_of_claim?
    (claims : claim? c skip width slots = some claimed) :
    ((claimed.filter (·.2)).map (·.1)).Perm (c :: (slots.filter (·.2)).map (·.1)) := by
  fun_induction claim? c skip width slots generalizing claimed with
  | case1 => contradiction
  | case3 => contradiction
  | case4 width slot rest here =>
      obtain ⟨character, taken⟩ := slot
      obtain ⟨rfl, rfl⟩ : taken = false ∧ character = c := by simpa using here
      obtain rfl := Option.some.inj claims
      apply List.Perm.refl
  | case2 width skip slot rest inductionHypothesis
  | case5 width slot rest taken inductionHypothesis =>
      obtain ⟨later, found, rfl⟩ := Option.map_eq_some_iff.1 claims
      have perm := inductionHypothesis found
      obtain ⟨character, matched⟩ := slot
      cases matched with
      | false => exact perm
      | true => exact (perm.cons character).trans (List.Perm.swap _ _ _)

end

/-! ## Runs -/

/-- Characters are equal, the one on the right is free, and they are not too far apart. -/
def Accepts
    (window index : Nat)
    (rest : List Char)
    (slots : List Slot)
    (i j : Nat) : Prop :=
  ∃ c, (c, i) ∈ rest.zipIdx index ∧ slots[j]? = some (c, false) ∧ i ≤ j + window ∧ j ≤ i + window

/-- The characters of a text at some places. -/
def selected (index : Nat) (text : List Char) (places : List Nat) : List Char :=
  ((text.zipIdx index).filter fun entry => places.contains entry.2).map (·.1)

/-- The slots with some more of them matched. -/
def matchedAt (slots : List Slot) (places : List Nat) : List Slot :=
  slots.zipIdx.map fun entry => (entry.1.1, entry.1.2 || places.contains entry.2)

theorem selected_cons_of_lt
    {index : Nat}
    {c : Char}
    {rest : List Char}
    {places : List Nat}
    (later : ∀ i ∈ places, index < i) :
    selected index (c :: rest) places = selected (index + 1) rest places := by
  have skipped : index ∉ places := fun member => Nat.lt_irrefl _ (later index member)
  simp [selected, List.zipIdx_cons, skipped]

theorem selected_cons_cons
    {index : Nat}
    {c : Char}
    {rest : List Char}
    (places : List Nat) :
    selected index (c :: rest) (index :: places) = c :: selected (index + 1) rest places := by
  have behind : ∀ entry ∈ rest.zipIdx (index + 1), entry.2 ≠ index := by
    intro entry member
    have bound := List.le_snd_of_mem_zipIdx member
    omega
  have same : (rest.zipIdx (index + 1)).filter (fun entry => (index :: places).contains entry.2) =
      (rest.zipIdx (index + 1)).filter fun entry => places.contains entry.2 := by
    apply List.filter_congr
    intro entry member
    simp [behind entry member]
  rw [selected, List.zipIdx_cons, List.filter_cons_of_pos (by simp), List.map_cons, same]
  rfl

theorem matchedAt_nil (slots : List Slot) : matchedAt slots [] = slots := by
  simp [matchedAt]

theorem matchedAt_set
    {slots : List Slot}
    {c : Char}
    {j : Nat}
    (free : slots[j]? = some (c, false))
    (places : List Nat) :
    matchedAt (slots.set j (c, true)) places = matchedAt slots (j :: places) := by
  apply List.ext_getElem?
  intro k
  rw [matchedAt, matchedAt, List.getElem?_map, List.getElem?_map, List.getElem?_zipIdx,
    List.getElem?_zipIdx]
  by_cases same : k = j
  · obtain ⟨inside, here⟩ := List.getElem?_eq_some_iff.1 free
    simp [same, inside, here]
  · rw [List.getElem?_set_ne (Ne.symm same)]
    cases slots[k]? <;> simp [same]

/-- A free slot stays free when another one is claimed, and no other slot becomes free. -/
theorem getElem?_set_eq_free_iff
    {slots : List Slot}
    {c d : Char}
    {j k : Nat} :
    (slots.set j (c, true))[k]? = some (d, false) ↔ k ≠ j ∧ slots[k]? = some (d, false) := by
  rw [List.getElem?_set]
  split_ifs with same inside
  · simp [same]
  · simp [same]
  · simp [Ne.symm same]

/-- What is matched from a place on is selected by stable pairs. -/
theorem exists_matchFrom_eq
    (window index : Nat)
    (rest : List Char)
    (slots : List Slot) :
    ∃ pairs, Stable (Accepts window index rest slots) pairs ∧
      matchFrom window index rest slots =
        (selected index rest (pairs.map Prod.fst), matchedAt slots (pairs.map Prod.snd)) := by
  induction rest generalizing index slots with
  | nil =>
      refine ⟨[], ?_, ?_⟩
      · constructor <;> simp [Accepts]
      · rw [matchFrom, List.map_nil, List.map_nil, matchedAt_nil]
        rfl
  | cons c rest inductionHypothesis =>
      have first {d : Char} {i : Nat} (member : (d, i) ∈ (c :: rest).zipIdx index) :
          (d = c ∧ i = index) ∨ (d, i) ∈ rest.zipIdx (index + 1) := by
        rw [List.zipIdx_cons, List.mem_cons, Prod.mk.injEq] at member
        exact member
      have later {d : Char} {i : Nat} (member : (d, i) ∈ rest.zipIdx (index + 1)) : index < i :=
        List.le_snd_of_mem_zipIdx member
      have near {k : Nat} : Free c (index - window) (index + window + 1 - (index - window)) slots k ↔
          slots[k]? = some (c, false) ∧ index ≤ k + window ∧ k ≤ index + window := by
        rw [Free, and_comm, and_comm (a := k < _), and_assoc]
        refine and_congr Iff.rfl ?_
        omega
      rw [matchFrom]
      cases claims : claim? c (index - window) (index + window + 1 - (index - window)) slots with
      | none =>
          obtain ⟨pairs, stable, matched⟩ := inductionHypothesis (index + 1) slots
          refine ⟨pairs, ?_, ?_⟩
          · apply stable.congr
            intro i j
            constructor
            · rintro ⟨d, member, free, left, right⟩
              rcases first member with ⟨rfl, rfl⟩ | behind
              · exact absurd (near.2 ⟨free, left, right⟩) (not_free_of_claim? claims j)
              · exact ⟨d, behind, free, left, right⟩
            · rintro ⟨d, member, near⟩
              exact ⟨d, by simp [List.zipIdx_cons, member], near⟩
          · rw [selected_cons_of_lt]
            · exact matched
            · intro i member
              obtain ⟨⟨i, j⟩, inside, rfl⟩ := List.mem_map.1 member
              obtain ⟨d, behind, -⟩ := stable.accepted inside
              exact later behind
      | some claimed =>
          obtain ⟨j, free, least, rfl⟩ := exists_of_claim? claims
          obtain ⟨here, left, right⟩ := near.1 free
          obtain ⟨pairs, stable, matched⟩ := inductionHypothesis (index + 1) (slots.set j (c, true))
          refine ⟨(index, j) :: pairs, ?_, ?_⟩
          · apply stable.cons
            · exact ⟨c, by simp [List.zipIdx_cons], here, left, right⟩
            · rintro k l ⟨d, member, other, near⟩
              obtain ⟨different, other⟩ := getElem?_set_eq_free_iff.1 other
              exact ⟨⟨d, by simp [List.zipIdx_cons, member], other, near⟩, Nat.ne_of_gt (later member),
                different⟩
            · rintro k l ⟨d, member, other, below, above⟩
              rcases first member with ⟨rfl, rfl⟩ | behind
              · exact .inr (.inl ⟨rfl, least l (near.2 ⟨other, below, above⟩)⟩)
              · by_cases same : l = j
                · exact .inr (.inr ⟨same, Nat.le_of_lt (later behind)⟩)
                · exact .inl ⟨d, behind, getElem?_set_eq_free_iff.2 ⟨same, other⟩, below, above⟩
          · simp only [matched, List.map_cons, selected_cons_cons, matchedAt_set here]

/-- What is matched from a place on has the characters that are matched on the other side. -/
theorem perm_matchFrom
    (window index : Nat)
    (rest : List Char)
    (slots : List Slot) :
    (((matchFrom window index rest slots).2.filter (·.2)).map (·.1)).Perm
      ((matchFrom window index rest slots).1 ++ (slots.filter (·.2)).map (·.1)) := by
  induction rest generalizing index slots with
  | nil => apply List.Perm.refl
  | cons c rest inductionHypothesis =>
      rw [matchFrom]
      cases claims : claim? c (index - window) (index + window + 1 - (index - window)) slots with
      | none => exact inductionHypothesis (index + 1) slots
      | some claimed =>
          have behind := inductionHypothesis (index + 1) claimed
          apply behind.trans
          apply ((perm_of_claim? claims).append_left _).trans
          apply List.perm_middle

/-! ## Matched characters of two texts -/

/-- Places of two texts hold the same character and are not too far apart. -/
def Acceptable (window : Nat) (a b : List Char) (i j : Nat) : Prop :=
  (∃ c, a[i]? = some c ∧ b[j]? = some c) ∧ i ≤ j + window ∧ j ≤ i + window

theorem acceptable_swap
    {window : Nat}
    {a b : List Char}
    {i j : Nat} :
    Acceptable window b a i j ↔ Acceptable window a b j i := by
  refine and_congr ?_ and_comm
  exact exists_congr fun c => and_comm

theorem selected_congr
    {index : Nat}
    {text : List Char}
    {places others : List Nat}
    (same : ∀ i, i ∈ places ↔ i ∈ others) :
    selected index text places = selected index text others := by
  rw [selected, selected]
  congr 1
  apply List.filter_congr
  intro entry _
  simp [same]

theorem selected_sublist
    (text : List Char)
    (places : List Nat) :
    (selected 0 text places).Sublist text := by
  have whole := (List.filter_sublist (l := text.zipIdx)
    (p := fun entry => places.contains entry.2)).map Prod.fst
  rwa [List.zipIdx_map_fst] at whole

/-- The characters of two texts that are matched are selected by stable pairs of places. -/
theorem exists_matchedChars_eq (a b : List Char) :
    ∃ pairs, Stable (Acceptable (window a b) a b) pairs ∧
      matchedChars a b =
        (selected 0 a (pairs.map Prod.fst), selected 0 b (pairs.map Prod.snd)) := by
  obtain ⟨pairs, stable, matched⟩ :=
    exists_matchFrom_eq (window a b) 0 a (b.map fun c => (c, false))
  refine ⟨pairs, stable.congr fun i j => ?_, ?_⟩
  · simp only [Accepts, Acceptable, List.mk_mem_zipIdx_iff_getElem?, List.getElem?_map,
      Option.map_eq_some_iff, Prod.mk.injEq, and_true, exists_eq_right, ← and_assoc, exists_and_right]
  · rw [matchedChars, matched, Prod.mk.injEq]
    refine ⟨rfl, ?_⟩
    rw [matchedAt, selected, List.zipIdx_map, List.map_map, List.filter_map, List.map_map]
    simp only [Function.comp_def, Bool.false_or, Prod.map]
    rfl

theorem window_comm (a b : List Char) : window b a = window a b := by
  rw [window, window, Nat.max_comm]

/-- It does not matter which text comes first. -/
theorem matchedChars_swap (a b : List Char) : matchedChars b a = (matchedChars a b).swap := by
  obtain ⟨pairs, stable, matched⟩ := exists_matchedChars_eq a b
  obtain ⟨others, otherStable, otherMatched⟩ := exists_matchedChars_eq b a
  have swapped : Stable (Acceptable (window b a) b a) (pairs.map Prod.swap) := by
    rw [window_comm]
    exact stable.swap.congr fun i j => acceptable_swap
  have same (pair : Nat × Nat) : pair ∈ others ↔ pair ∈ pairs.map Prod.swap :=
    otherStable.mem_iff swapped
  rw [otherMatched, matched, Prod.swap_prod_mk, Prod.mk.injEq]
  constructor <;>
    apply selected_congr <;>
    intro i <;>
    simp only [List.mem_map, same, exists_exists_and_eq_and, Prod.fst_swap, Prod.snd_swap]

/-- A text is matched with itself place by place. -/
theorem matchedChars_self (a : List Char) : matchedChars a a = (a, a) := by
  obtain ⟨pairs, stable, matched⟩ := exists_matchedChars_eq a a
  have diagonal : Stable (Acceptable (window a a) a a)
      ((List.range a.length).map fun i => (i, i)) := by
    have mem_iff {i j : Nat} :
        (i, j) ∈ (List.range a.length).map (fun i => (i, i)) ↔ i < a.length ∧ j = i := by
      rw [List.mem_map]
      constructor
      · rintro ⟨k, inside, same⟩
        cases same
        exact ⟨List.mem_range.1 inside, rfl⟩
      · rintro ⟨inside, rfl⟩
        exact ⟨j, List.mem_range.2 inside, rfl⟩
    constructor
    · intro i j member
      obtain ⟨inside, rfl⟩ := mem_iff.1 member
      have here := List.getElem?_eq_getElem inside
      exact ⟨⟨a[j], here, here⟩, Nat.le_add_right _ _, Nat.le_add_right _ _⟩
    · intro i j k first second
      rw [(mem_iff.1 first).2, (mem_iff.1 second).2]
    · intro i j k first second
      exact (mem_iff.1 first).2.symm.trans (mem_iff.1 second).2
    · rintro i j ⟨⟨c, here, there⟩, -⟩
      obtain ⟨inside, -⟩ := List.getElem?_eq_some_iff.1 here
      obtain ⟨otherInside, -⟩ := List.getElem?_eq_some_iff.1 there
      rcases Nat.le_total i j with early | late
      · exact .inl ⟨i, early, mem_iff.2 ⟨inside, rfl⟩⟩
      · exact .inr ⟨j, late, mem_iff.2 ⟨otherInside, rfl⟩⟩
  have all (i : Nat) (inside : i < a.length) : (i, i) ∈ pairs := by
    rw [stable.mem_iff diagonal]
    exact List.mem_map.2 ⟨i, List.mem_range.2 inside, rfl⟩
  have whole {places : List Nat} (every : ∀ i < a.length, i ∈ places) :
      selected 0 a places = a := by
    rw [selected, List.filter_eq_self.2, List.zipIdx_map_fst]
    intro entry member
    exact List.contains_iff_mem.2 (every _ (List.snd_lt_of_mem_zipIdx member))
  rw [matched, whole, whole]
  · intro i inside
    exact List.mem_map_of_mem (all i inside)
  · intro i inside
    exact List.mem_map_of_mem (all i inside)

/-- Both texts have the same matched characters, perhaps in different orders. -/
theorem perm_matchedChars (a b : List Char) :
    (matchedChars a b).1.Perm (matchedChars a b).2 := by
  have perm := perm_matchFrom (window a b) 0 a (b.map fun c => (c, false))
  have unmatched : ((b.map fun c => (c, false)).filter (·.2)).map (·.1) = [] := by simp
  rw [unmatched, List.append_nil] at perm
  exact perm.symm

end Similarity
end BlockSearch
