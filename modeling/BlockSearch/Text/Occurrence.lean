/-!
# Occurrences of a text in a text

Finding, splitting at and replacing the non-overlapping occurrences of a text, from
left to right. They are built from `stripStart?` and `cutAt?`. Texts are also cut at the last
occurrence of a character, and at the first null character.
-/

namespace BlockSearch
namespace Text

/-- What follows `start` in the text, when the text begins with it. -/
def stripStart? : (start text : List Char) → Option (List Char)
  | [], text => some text
  | _ :: _, [] => none
  | s :: start, c :: text => if s = c then stripStart? start text else none

/-- What follows a start is shorter by the length of the start. -/
theorem length_of_stripStart?
    {start text rest : List Char}
    (found : stripStart? start text = some rest) :
    text.length = start.length + rest.length := by
  induction start generalizing text with
  | nil =>
      simp only [stripStart?, Option.some.injEq] at found
      simp [found]
  | cons s start inductionHypothesis =>
      cases text with
      | nil => simp [stripStart?] at found
      | cons c text =>
          simp only [stripStart?] at found
          split at found
          · have := inductionHypothesis found
            simp only [List.length_cons]
            omega
          · exact absurd found (by simp)

/-- The text before and after the first occurrence of `part`. -/
def cutAt? (part : List Char) : List Char → Option (List Char × List Char)
  | [] => (stripStart? part []).map fun rest => ([], rest)
  | c :: text =>
      match stripStart? part (c :: text) with
      | some rest => some ([], rest)
      | none => (cutAt? part text).map fun cut => (c :: cut.1, cut.2)

/-- A cut loses the occurrence and nothing else. -/
theorem length_of_cutAt?
    {part text before rest : List Char}
    (found : cutAt? part text = some (before, rest)) :
    text.length = before.length + part.length + rest.length := by
  induction text generalizing before with
  | nil =>
      simp only [cutAt?, Option.map_eq_some_iff, Prod.mk.injEq] at found
      obtain ⟨tail, stripped, rfl, rfl⟩ := found
      have := length_of_stripStart? stripped
      simpa using this
  | cons c text inductionHypothesis =>
      simp only [cutAt?] at found
      split at found
      · rename_i tail stripped
        simp only [Option.some.injEq, Prod.mk.injEq] at found
        obtain ⟨rfl, rfl⟩ := found
        have := length_of_stripStart? stripped
        simpa using this
      · simp only [Option.map_eq_some_iff, Prod.mk.injEq] at found
        obtain ⟨⟨left, right⟩, cut, rfl, rfl⟩ := found
        have := inductionHypothesis cut
        simp only [List.length_cons] at this ⊢
        omega

/-- What follows an occurrence that is not empty is shorter than the text. -/
theorem length_lt_of_cutAt?
    {part text before rest : List Char}
    (nonempty : part ≠ [])
    (found : cutAt? part text = some (before, rest)) :
    rest.length < text.length := by
  have := length_of_cutAt? found
  have := List.length_pos_iff.2 nonempty
  omega

/-- Whether `part` occurs in the text. -/
def contains (part text : List Char) : Bool := (cutAt? part text).isSome

/-- The pieces of the text between the occurrences of a separator that is not empty. -/
def splitAt (separator text : List Char) (nonempty : separator ≠ []) : List (List Char) :=
  match found : cutAt? separator text with
  | none => [text]
  | some (before, rest) =>
      have : rest.length < text.length := length_lt_of_cutAt? nonempty found
      before :: splitAt separator rest nonempty
termination_by text.length

/--
The pieces of the text between the occurrences of a separator. The empty separator
occurs before every character and at the end.
-/
def splitOn (separator text : List Char) : List (List Char) :=
  if nonempty : separator ≠ [] then splitAt separator text nonempty
  else [] :: text.map (fun c => [c]) ++ [[]]

/-- The text with each occurrence of `part` replaced. -/
def replace (part replacement text : List Char) : List Char :=
  replacement.intercalate (splitOn part text)

/-- The number of occurrences of `part`. -/
def occurrences (part text : List Char) : Nat := (splitOn part text).length - 1

/-- The characters before the last occurrence of a character, and those after it. -/
def cutAtLast? (c : Char) (text : List Char) : Option (List Char × List Char) :=
  if text.contains c then
    some
      (((text.reverse.dropWhile (· != c)).drop 1).reverse,
        (text.reverse.takeWhile (· != c)).reverse)
  else none

/--
The text before its first null character. Full-text tokens, wildcard patterns and marked excerpts
see no more of a text.
-/
def beforeNull (text : List Char) : List Char := text.takeWhile (· != '\x00')

/--
The character that the same readers take a code point for: the last two code points of the first
plane are no characters and are read as the replacement character.
-/
def seen (c : Char) : Char := if c = '\ufffe' || c = '\uffff' then '\ufffd' else c

end Text
end BlockSearch
