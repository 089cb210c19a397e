import BlockSearch.Library.Path
import BlockSearch.Text.Occurrence
import Mathlib.Data.List.Basic
import Mathlib.Tactic.SplitIfs

/-!
# Parents of paths

The parent of a path is a text that the path begins with, followed by a slash. So the names
on the way to the parent are the first names on the way to the path.
-/

namespace BlockSearch

/-! ## Splitting at slashes -/

namespace Text

variable {separator : Char}

theorem cutAt?_append_cons
    {before : List Char}
    (absent : separator ∉ before)
    (rest : List Char) :
    cutAt? [separator] (before ++ separator :: rest) = some (before, rest) := by
  induction before with
  | nil =>
      rw [List.nil_append, cutAt?, stripStart?, if_pos rfl]
      rfl
  | cons c before inductionHypothesis =>
      rw [List.mem_cons, not_or] at absent
      rw [List.cons_append, cutAt?, stripStart?, if_neg absent.1, inductionHypothesis absent.2]
      rfl

theorem cutAt?_of_not_mem
    {text : List Char}
    (absent : separator ∉ text) :
    cutAt? [separator] text = none := by
  induction text with
  | nil => rfl
  | cons c text inductionHypothesis =>
      rw [List.mem_cons, not_or] at absent
      rw [cutAt?, stripStart?, if_neg absent.1, inductionHypothesis absent.2]
      rfl

theorem splitOn_of_not_mem
    {text : List Char}
    (absent : separator ∉ text) :
    splitOn [separator] text = [text] := by
  have cut := cutAt?_of_not_mem absent
  rw [splitOn, dif_pos (by simp), splitAt]
  split <;> simp_all

theorem splitOn_append_cons_of_not_mem
    {before : List Char}
    (absent : separator ∉ before)
    (rest : List Char) :
    splitOn [separator] (before ++ separator :: rest) = before :: splitOn [separator] rest := by
  have cut := cutAt?_append_cons absent rest
  rw [splitOn, splitOn, dif_pos (by simp), dif_pos (by simp), splitAt]
  split <;> simp_all

/-- A text is split at a separator and then on both sides of it. -/
theorem splitOn_append_cons
    (front back : List Char) :
    splitOn [separator] (front ++ separator :: back) =
      splitOn [separator] front ++ splitOn [separator] back := by
  induction length : front.length using Nat.strongRecOn generalizing front with
  | ind bound inductionHypothesis =>
      by_cases present : separator ∈ front
      · obtain ⟨before, rest, rfl, absent⟩ := List.eq_append_cons_of_mem present
        have shorter : rest.length < bound := by
          rw [← length, List.length_append, List.length_cons]
          omega
        rw [List.append_assoc, List.cons_append, splitOn_append_cons_of_not_mem absent,
          splitOn_append_cons_of_not_mem absent, inductionHypothesis _ shorter rest rfl,
          List.cons_append]
      · rw [splitOn_append_cons_of_not_mem present, splitOn_of_not_mem present,
          List.singleton_append]

theorem splitOn_ne_nil (text : List Char) : splitOn [separator] text ≠ [] := by
  by_cases present : separator ∈ text
  · obtain ⟨before, rest, rfl, absent⟩ := List.eq_append_cons_of_mem present
    rw [splitOn_append_cons_of_not_mem absent]
    exact List.cons_ne_nil _ _
  · rw [splitOn_of_not_mem present]
    exact List.cons_ne_nil _ _

end Text

/-! ## Parents -/

namespace Path

/-- A name ends at the end of the path or before a slash. -/
theorem stop_of_mem_stepsFrom
    {name text : List Char}
    {offset : Nat}
    {step : Step}
    (member : step ∈ stepsFrom name offset text) :
    offset ≤ step.stop ∧
      (step.stop = offset + text.length ∨
        ∃ front back, text = front ++ '/' :: back ∧ step.stop = offset + front.length) := by
  have closed : ∀ {name : List Char} {stop : Nat}, step ∈ Step.close name stop →
      step.stop = stop := by
    intro name stop member
    unfold Step.close at member
    split_ifs at member with empty
    · contradiction
    · rw [List.mem_singleton.1 member]
  induction text generalizing name offset with
  | nil =>
      have stop := closed member
      exact ⟨Nat.le_of_eq stop.symm, .inl stop⟩
  | cons c text inductionHypothesis =>
      have shifted : ∀ {name : List Char}, step ∈ stepsFrom name (offset + 1) text →
          offset ≤ step.stop ∧ (step.stop = offset + (c :: text).length ∨
            ∃ front back, c :: text = front ++ '/' :: back ∧
              step.stop = offset + front.length) := by
        intro name member
        obtain ⟨later, ending⟩ := inductionHypothesis member
        refine ⟨by omega, ending.imp (fun stop => ?_) ?_⟩
        · rw [stop, List.length_cons]
          omega
        · rintro ⟨front, back, split, stop⟩
          refine ⟨c :: front, back, by rw [split]; rfl, ?_⟩
          rw [stop, List.length_cons]
          omega
      rw [stepsFrom] at member
      split_ifs at member with slash
      · rcases List.mem_append.1 member with member | member
        · have stop := closed member
          exact ⟨Nat.le_of_eq stop.symm, .inr ⟨[], text, by rw [slash]; rfl, stop⟩⟩
        · exact shifted member
      · exact shifted member

/-- The names of a path end one after the other. -/
theorem pairwise_stepsFrom
    (name : List Char)
    (offset : Nat)
    (text : List Char) :
    (stepsFrom name offset text).Pairwise fun left right => left.stop < right.stop := by
  induction text generalizing name offset with
  | nil =>
      unfold stepsFrom Step.close
      split_ifs <;> simp
  | cons c text inductionHypothesis =>
      rw [stepsFrom]
      split_ifs with slash
      · rw [List.pairwise_append]
        refine ⟨?_, inductionHypothesis _ _, ?_⟩
        · unfold Step.close
          split_ifs <;> simp
        · intro left leftMember right rightMember
          have later := (stop_of_mem_stepsFrom rightMember).1
          unfold Step.close at leftMember
          split_ifs at leftMember with empty
          · contradiction
          · rw [List.mem_singleton.1 leftMember]
            exact later
      · exact inductionHypothesis _ _

theorem steps_sublist (path : String) : List.Sublist (steps path) (stepsFrom [] 0 path.toList) := by
  unfold steps
  split
  · rename_i none
    rw [none]
  · rename_i first rest found
    rw [found]
    dsimp only
    split_ifs
    · exact (List.filter_sublist).trans (List.sublist_cons_self _ _)
    · exact (List.filter_sublist).trans (List.sublist_cons_self _ _)
    · exact List.filter_sublist.cons_cons _

/-- The parent is the root, empty, or what stands before a slash of the path. -/
theorem parent?_spec
    {path parent : String}
    (parentOf : parent? path = some parent) :
    parent = "/" ∨ parent = "" ∨ ∃ back, path.toList = parent.toList ++ '/' :: back := by
  unfold parent? at parentOf
  split at parentOf
  · contradiction
  · split_ifs at parentOf
    · exact .inl (Option.some.inj parentOf).symm
    · exact .inr (.inl (Option.some.inj parentOf).symm)
  · rename_i last previous others reversed
    right
    right
    have split : steps path = others.reverse ++ [previous, last] := by
      rw [← List.reverse_reverse (steps path), reversed]
      simp
    have sublist := steps_sublist path
    have ordered := (pairwise_stepsFrom [] 0 path.toList).sublist sublist
    rw [split, List.pairwise_append] at ordered
    have before : previous.stop < last.stop := by simpa using ordered.2.1
    have bound : last.stop ≤ path.toList.length := by
      have member : last ∈ steps path := by rw [split]; simp
      rcases (stop_of_mem_stepsFrom (sublist.subset member)).2 with stop | ⟨front, back, text, stop⟩
      · omega
      · rw [stop, text, List.length_append]
        omega
    have member : previous ∈ steps path := by rw [split]; simp
    rcases (stop_of_mem_stepsFrom (sublist.subset member)).2 with stop | ⟨front, back, text, stop⟩
    · omega
    · refine ⟨back, ?_⟩
      rw [← Option.some.inj parentOf, String.toList_ofList, stop, Nat.zero_add, text,
        List.take_left]

end Path
end BlockSearch
