import BlockSearch.Pattern.Replacement
import BlockSearch.Proofs.Pattern.Literal

/-!
# The stretches of a searched text

A pattern goes over a text from its start to its end, so the matches and the stretches between
them are the text. When every match is what it is replaced with, the text stays what it is;
the matches of a literal are always that.
-/

namespace BlockSearch

namespace Replacement

/-- A replacement text without a dollar sign refers to no group. -/
theorem read_of_not_mem
    {text : List Char}
    (absent : '$' ∉ text) :
    read text = [.text text] := by
  have ordinary : ∀ c ∈ text, (c != '$') = true := by
    intro c member
    simpa using ne_of_mem_of_not_mem member absent
  rw [read, readWithin, List.takeWhile_eq_self_iff.2 ordinary,
    List.dropWhile_eq_nil_iff.2 ordinary]

end Replacement

namespace Pattern

/-! ## Ends -/

theorem mem_of_mem_distinct
    {cursor : Cursor}
    {cursors : List Cursor}
    (member : cursor ∈ distinct cursors) :
    cursor ∈ cursors := by
  induction cursors with
  | nil => exact member
  | cons first cursors inductionHypothesis =>
      rw [distinct, List.mem_cons, List.mem_filter] at member
      rcases member with rfl | ⟨later, _⟩
      · exact List.mem_cons_self
      · exact List.mem_cons_of_mem _ (inductionHypothesis later)

/-- A cursor at a later place of a text, or at the same one. -/
def Cursor.Behind (reached cursor : Cursor) : Prop := reached.rest <:+ cursor.rest

theorem Cursor.Behind.trans
    {first second third : Cursor}
    (far : third.Behind second)
    (near : second.Behind first) :
    third.Behind first := List.IsSuffix.trans far near

namespace Repetition

theorem add_behind
    {start cursor : Cursor}
    {repetition : Repetition}
    (found : ∀ reached ∈ repetition.found, reached.Behind start)
    (behind : cursor.Behind start) :
    ∀ reached ∈ (repetition.add cursor).found, reached.Behind start := by
  rw [add]
  split_ifs
  · exact found
  · exact List.forall_mem_cons.2 ⟨behind, found⟩

/-- A repetition of steps that lead to later places leads to later places. -/
theorem explore_behind
    {greedy : Bool}
    {next : Cursor → List Cursor}
    (steps : ∀ cursor, ∀ reached ∈ next cursor, reached.Behind cursor)
    {start : Cursor}
    {fuel : Nat}
    {repetition : Repetition}
    {cursor : Cursor}
    (found : ∀ reached ∈ repetition.found, reached.Behind start)
    (behind : cursor.Behind start) :
    ∀ reached ∈ (explore greedy next fuel repetition cursor).found, reached.Behind start := by
  induction fuel generalizing repetition cursor with
  | zero => exact found
  | succ fuel inductionHypothesis =>
      rw [explore]
      split_ifs
      · exact found
      all_goals
        refine List.foldlRecOn (motive := fun repetition : Repetition =>
          ∀ reached ∈ repetition.found, reached.Behind start) _ _ found ?_
        intro repetition found reached member
        have later := (steps cursor reached member).trans behind
      · exact add_behind (inductionHypothesis found later) later
      · exact inductionHypothesis (add_behind found later) later

end Repetition

/-- A pattern leads to later places. -/
theorem behind_of_mem_ends
    {pattern : Pattern}
    {cursor reached : Cursor}
    (member : reached ∈ pattern.ends cursor) :
    reached.Behind cursor := by
  induction pattern generalizing cursor reached with
  | empty =>
      rw [List.mem_singleton.1 member]
      exact List.suffix_rfl
  | one set =>
      rw [ends] at member
      split at member
      · contradiction
      · rename_i c rest shape
        split_ifs at member
        · rw [List.mem_singleton.1 member, Cursor.Behind, shape]
          exact List.suffix_cons c rest
        · contradiction
  | place condition =>
      rw [ends] at member
      split_ifs at member
      · rw [List.mem_singleton.1 member]
        exact List.suffix_rfl
      · contradiction
  | seq first second firstHypothesis secondHypothesis =>
      obtain ⟨middle, near, far⟩ := List.mem_flatMap.1 (mem_of_mem_distinct member)
      exact (secondHypothesis far).trans (firstHypothesis near)
  | alt first second firstHypothesis secondHypothesis =>
      rcases List.mem_append.1 (mem_of_mem_distinct member) with left | right
      · exact firstHypothesis left
      · exact secondHypothesis right
  | group index body inductionHypothesis =>
      obtain ⟨inner, here, rfl⟩ := List.mem_map.1 member
      have behind : inner.Behind cursor := inductionHypothesis here
      exact behind
  | plus greedy body inductionHypothesis =>
      rw [ends, List.mem_reverse] at member
      exact Repetition.explore_behind (fun _ _ => inductionHypothesis) (by simp) List.suffix_rfl
        reached member

/-! ## Matches -/

theorem Cursor.textTo_append
    {cursor reached : Cursor}
    (behind : reached.Behind cursor) :
    cursor.textTo reached ++ reached.rest = cursor.rest := by
  obtain ⟨front, shape⟩ := behind
  rw [Cursor.textTo, Cursor.distance, Cursor.distance, ← shape, List.length_append,
    Nat.add_sub_cancel_right, List.take_left]

theorem Cursor.textTo_eq_take
    {cursor reached : Cursor}
    {length : Nat}
    (behind : reached.Behind cursor)
    (rest : reached.rest = cursor.rest.drop length) :
    cursor.textTo reached = cursor.rest.take length := by
  have split := Cursor.textTo_append behind
  rw [rest] at split
  exact List.append_cancel_right (split.trans (List.take_append_drop length cursor.rest).symm)

theorem behind_of_matchAt?
    {pattern : Pattern}
    {cursor reached : Cursor}
    (found : pattern.matchAt? cursor = some reached) :
    reached.Behind cursor := behind_of_mem_ends (List.mem_of_mem_head? found)

/-- The skipped text, the match and what follows it are the text. -/
theorem eq_append_of_findFrom?
    {pattern : Pattern}
    {previous : Option Char}
    {text : List Char}
    {found : Found}
    (finds : pattern.findFrom? previous text = some found) :
    text = found.skipped ++ (found.text ++ found.reached.rest) := by
  induction text generalizing previous found with
  | nil =>
      rw [findFrom?, Option.map_eq_some_iff] at finds
      obtain ⟨reached, matched, rfl⟩ := finds
      exact (List.suffix_nil.1 (behind_of_matchAt? matched)).symm
  | cons c text inductionHypothesis =>
      rw [findFrom?] at finds
      split at finds
      · rename_i reached matched
        cases finds
        exact (Cursor.textTo_append (behind_of_matchAt? matched)).symm
      · obtain ⟨later, behind, rfl⟩ := Option.map_eq_some_iff.1 finds
        exact congrArg (c :: ·) (inductionHypothesis behind)

/-! ## Stretches -/

/-- The text of a stretch. -/
def Part.text : Part → List Char
  | .plain text => text
  | .hit text _ => text

/-- One step over a text, whatever the text begins with. -/
theorem partsFrom_succ
    (pattern : Pattern)
    (fuel : Nat)
    (behindMatch : Bool)
    (previous : Option Char)
    (text : List Char) :
    pattern.partsFrom (fuel + 1) behindMatch previous text =
      match pattern.findFrom? previous text with
      | none => [.plain text]
      | some found =>
          if behindMatch && found.skipped.isEmpty && found.text.isEmpty then
            match text with
            | [] => []
            | c :: rest => .plain [c] :: pattern.partsFrom fuel false (some c) rest
          else
            .plain found.skipped :: .hit found.text found.reached.captures ::
              pattern.partsFrom fuel true found.reached.previous found.reached.rest := by
  cases text <;> rfl

theorem flatMap_text_partsFrom
    (pattern : Pattern)
    (fuel : Nat)
    (behindMatch : Bool)
    (previous : Option Char)
    (text : List Char) :
    (pattern.partsFrom fuel behindMatch previous text).flatMap Part.text = text := by
  induction fuel generalizing behindMatch previous text with
  | zero => simp [partsFrom, Part.text]
  | succ fuel inductionHypothesis =>
      rw [partsFrom_succ]
      split
      · simp [Part.text]
      · rename_i found finds
        split_ifs
        · cases text with
          | nil => rfl
          | cons c rest =>
              rw [List.flatMap_cons, inductionHypothesis, Part.text, List.singleton_append]
        · rw [List.flatMap_cons, List.flatMap_cons, inductionHypothesis, Part.text, Part.text]
          exact (eq_append_of_findFrom? finds).symm

/-- The stretches of a text, one behind the other, are the text. -/
theorem flatMap_text_parts
    (pattern : Pattern)
    (text : List Char) :
    (pattern.parts text).flatMap Part.text = text := flatMap_text_partsFrom _ _ _ _ _

/-- Every match in a text is what a replacement text puts in its place. -/
def Repeats (compiled : Compiled) (replacement text : List Char) : Prop :=
  ∀ part ∈ compiled.pattern.parts text,
    part.replaced compiled.names (Replacement.read replacement) = part.text

instance (compiled : Compiled) (replacement text : List Char) :
    Decidable (Repeats compiled replacement text) :=
  inferInstanceAs (Decidable (∀ part ∈ compiled.pattern.parts text,
    part.replaced compiled.names (Replacement.read replacement) = part.text))

theorem replaceAll_of_repeats
    {compiled : Compiled}
    {replacement text : List Char}
    (repeats : Repeats compiled replacement text) :
    compiled.pattern.replaceAll compiled.names replacement text = text := by
  calc compiled.pattern.replaceAll compiled.names replacement text
    _ = (compiled.pattern.parts text).flatMap Part.text := List.flatMap_congr repeats
    _ = text := flatMap_text_parts _ _

/-! ## Literals -/

/-- The first match of a pattern that goes over one word is the word. -/
theorem Spells.text_of_findFrom?
    {pattern : Pattern}
    {word text : List Char}
    (spells : Spells .sensitive pattern word)
    {previous : Option Char}
    {found : Found}
    (finds : pattern.findFrom? previous text = some found) :
    found.text = word := by
  have here : ∀ {cursor reached : Cursor}, pattern.matchAt? cursor = some reached →
      cursor.textTo reached = word := by
    intro cursor reached matched
    have rest := spells.rest_of_matchAt? cursor
    rw [matched, Option.map_some] at rest
    split_ifs at rest with standing
    rw [Cursor.textTo_eq_take (behind_of_matchAt? matched) (Option.some_inj.1 rest)]
    exact (List.prefix_iff_eq_take.1 (CaseMode.begins_sensitive_iff.1 standing)).symm
  induction text generalizing previous found with
  | nil =>
      rw [findFrom?, Option.map_eq_some_iff] at finds
      obtain ⟨reached, matched, rfl⟩ := finds
      rw [← here matched, Cursor.textTo, List.take_nil]
  | cons c text inductionHypothesis =>
      rw [findFrom?] at finds
      split at finds
      · rename_i reached matched
        cases finds
        exact here matched
      · obtain ⟨later, behind, rfl⟩ := Option.map_eq_some_iff.1 finds
        have same : later.text = word := inductionHypothesis behind
        exact same

/-- All matches of a pattern that goes over one word are the word. -/
theorem Spells.eq_of_mem_partsFrom
    {pattern : Pattern}
    {word text found : List Char}
    (spells : Spells .sensitive pattern word)
    {fuel : Nat}
    {behindMatch : Bool}
    {previous : Option Char}
    {captures : List (Nat × List Char)}
    (member : .hit found captures ∈ pattern.partsFrom fuel behindMatch previous text) :
    found = word := by
  induction fuel generalizing behindMatch previous text with
  | zero => simp [partsFrom] at member
  | succ fuel inductionHypothesis =>
      rw [partsFrom_succ] at member
      split at member
      · simp at member
      · rename_i first finds
        split_ifs at member
        · cases text with
          | nil => contradiction
          | cons c rest => exact inductionHypothesis (by simpa using member)
        · rw [List.mem_cons, List.mem_cons] at member
          rcases member with plain | hit | later
          · contradiction
          · cases hit
            exact spells.text_of_findFrom? finds
          · exact inductionHypothesis later

/-- A text of characters without a meaning is the pattern of itself. -/
theorem read?_of_plain
    {text : List Char}
    (plain : ∀ c ∈ text, c ∉ metaChars) :
    read? text = some ⟨literal text, []⟩ := by
  have same : escape text = text := by
    calc escape text
      _ = text.flatMap fun c => [c] :=
          List.flatMap_congr fun c member => if_neg (by simpa using plain c member)
      _ = text := List.flatMap_singleton' text
  rw [← read?_escape, same]

/-- A word is what it is replaced with when it takes the place of itself. -/
theorem repeats_literal
    {word : List Char}
    (plain : '$' ∉ word)
    (text : List Char) :
    Repeats ⟨literal word, []⟩ word text := by
  intro part member
  cases part with
  | plain text => rfl
  | hit found captures =>
      rw [(Spells.literal word).eq_of_mem_partsFrom member, Part.replaced,
        Replacement.read_of_not_mem plain, List.flatMap_singleton]
      rfl

end Pattern
end BlockSearch
