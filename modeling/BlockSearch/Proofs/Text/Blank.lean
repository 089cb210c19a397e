import BlockSearch.Text.Blank
import Mathlib.Data.List.TakeWhile

/-!
# Blanks around and between words

Trimming takes blanks from both ends of a text and nothing else, so blanks put around a text do
not change what trimming leaves of it. No word reaches over a blank.
-/

namespace BlockSearch
namespace Text

/-- Every character of a text is blank. -/
def AllBlank (text : List Char) : Prop := ∀ c ∈ text, isBlank c = true

variable {before behind text : List Char}

theorem trim_blank_append (blank : AllBlank before) : trim (before ++ text) = trim text := by
  rw [trim, trimStart, List.dropWhile_append_of_pos blank]
  rfl

theorem trim_append_blank (blank : AllBlank behind) : trim (text ++ behind) = trim text := by
  have reversed : ∀ c ∈ behind.reverse, isBlank c = true :=
    fun c member => blank c (List.mem_reverse.1 member)
  rw [trim, trim, trimStart, List.dropWhile_append]
  split
  · rename_i empty
    rw [trimStart, List.isEmpty_iff.1 empty, List.dropWhile_eq_nil_iff.2 blank]
  · rw [trimEnd, List.reverse_append, List.dropWhile_append_of_pos reversed]
    rfl

/-- A text is what trimming leaves of it, with blanks around. -/
theorem exists_eq_append_trim (text : List Char) :
    ∃ before behind, AllBlank before ∧ AllBlank behind ∧ text = before ++ (trim text ++ behind) := by
  refine ⟨text.takeWhile isBlank, ((trimStart text).reverse.takeWhile isBlank).reverse, ?_, ?_, ?_⟩
  · exact fun c member => List.mem_takeWhile_imp member
  · exact fun c member => List.mem_takeWhile_imp (List.mem_reverse.1 member)
  · rw [trim, trimEnd, ← List.reverse_append, List.takeWhile_append_dropWhile,
      List.reverse_reverse, trimStart, List.takeWhile_append_dropWhile]

theorem trim_infix (text : List Char) : trim text <:+: text := by
  obtain ⟨before, behind, _, _, split⟩ := exists_eq_append_trim text
  exact ⟨before, behind, by rw [List.append_assoc, ← split]⟩

/-- Trimming leaves a text that does not begin with a blank as it is at the front. -/
theorem trimStart_of_head (solid : ∀ c ∈ text.head?, isBlank c = false) : trimStart text = text := by
  cases text with
  | nil => rfl
  | cons c text =>
      rw [trimStart, List.dropWhile_cons_of_neg]
      simpa using solid c rfl

/-- Trimming leaves a text without blanks at its ends as it is. -/
theorem trim_of_ends
    (front : ∀ c ∈ text.head?, isBlank c = false)
    (back : ∀ c ∈ text.getLast?, isBlank c = false) :
    trim text = text := by
  rw [trim, trimStart_of_head front, trimEnd, ← trimStart, trimStart_of_head, List.reverse_reverse]
  rwa [List.head?_reverse]

theorem wordsFrom_append_blank_cons
    {c : Char}
    (blank : isBlank c = true)
    (run before behind : List Char) :
    wordsFrom run (before ++ c :: behind) = wordsFrom run before ++ words behind := by
  induction before generalizing run with
  | nil =>
      simp only [List.nil_append, wordsFrom, if_pos blank, words]
      split_ifs <;> rfl
  | cons d before inductionHypothesis =>
      rw [List.cons_append, wordsFrom, wordsFrom]
      split_ifs
      · exact inductionHypothesis []
      · rw [inductionHypothesis, List.cons_append]
      · exact inductionHypothesis (d :: run)

/-- The words on both sides of a blank are the words of a text. -/
theorem words_append_blank_cons
    {c : Char}
    (blank : isBlank c = true)
    (before behind : List Char) :
    words (before ++ c :: behind) = words before ++ words behind :=
  wordsFrom_append_blank_cons blank [] before behind

theorem infix_of_mem_wordsFrom
    {run word : List Char}
    (member : word ∈ wordsFrom run text) :
    word <:+: run.reverse ++ text := by
  induction text generalizing run with
  | nil =>
      rw [wordsFrom] at member
      split_ifs at member
      · contradiction
      · rw [List.mem_singleton.1 member]
        exact List.infix_append_left
  | cons c text inductionHypothesis =>
      have front : run.reverse <:+: run.reverse ++ c :: text := List.infix_append_left
      have back : text <:+: run.reverse ++ c :: text :=
        (List.suffix_cons c text).isInfix.trans List.infix_append_right
      rw [wordsFrom] at member
      split_ifs at member
      · exact (inductionHypothesis member).trans back
      · rcases List.mem_cons.1 member with rfl | later
        · exact front
        · exact (inductionHypothesis later).trans back
      · have inside := inductionHypothesis member
        rwa [List.reverse_cons, List.append_assoc, List.singleton_append] at inside

/-- Every word of a text lies in it. -/
theorem infix_of_mem_words
    {word : List Char}
    (member : word ∈ words text) :
    word <:+: text := infix_of_mem_wordsFrom member

end Text
end BlockSearch
