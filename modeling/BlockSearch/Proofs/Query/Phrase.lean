import BlockSearch.Proofs.FullText.Phrases
import BlockSearch.Proofs.Text.Blank
import BlockSearch.Proofs.Text.Occurrence
import BlockSearch.Search.Found

/-!
# A text as phrases

A text that was typed becomes literals in quotes with a space between two of them, and these
literals are read back as the pieces of the text, whatever quotes and operators it holds. Whether
quotes are doubled before the text is cut and trimmed or afterwards makes no difference.
-/

namespace BlockSearch
namespace Query

variable {c : Char} {text rest : List Char} {items literals : List (List Char)}

/-! ## Pieces -/

theorem exists_pieces_eq_cons (text : List Char) :
    ∃ first others, pieces text = first :: others := by
  obtain ⟨first, others, split⟩ := Text.exists_cons_of_splitOn (List.cons_ne_nil ' ' []) text
  exact ⟨Text.trim first, others.map Text.trim, by rw [pieces, split, List.map_cons]⟩

/-- The pieces of a text hold no other characters than the text. -/
theorem not_mem_of_mem_pieces
    (absent : c ∉ text) :
    ∀ piece ∈ pieces text, c ∉ piece := by
  intro piece member inside
  obtain ⟨part, partMember, rfl⟩ := List.mem_map.1 member
  have parts := @Text.forall_mem_splitOn [' '] text (fun part => c ∉ part) (List.cons_ne_nil _ _)
    (fun before rest outside => by simp_all) absent
  exact parts part partMember ((Text.trim_infix part).subset inside)

/-- The pieces of a text hold all its characters that are not blank. -/
theorem exists_mem_pieces
    (solid : Text.isBlank c = false)
    (member : c ∈ text) :
    ∃ piece ∈ pieces text, c ∈ piece := by
  rw [← Text.intercalate_splitOn [' '] text] at member
  rcases Lists.mem_of_mem_intercalate member with between | ⟨part, partMember, inside⟩
  · rw [List.mem_singleton.1 between] at solid
    exact absurd solid (by decide)
  · refine ⟨Text.trim part, List.mem_map_of_mem partMember, ?_⟩
    obtain ⟨before, behind, blankBefore, blankBehind, split⟩ := Text.exists_eq_append_trim part
    rw [split, List.mem_append, List.mem_append] at inside
    rcases inside with front | middle | back
    · exact absurd (blankBefore c front) (by simp [solid])
    · exact middle
    · exact absurd (blankBehind c back) (by simp [solid])

/-! ## Doubled quotes -/

theorem doubleQuotes_cons (c : Char) (text : List Char) :
    doubleQuotes (c :: text) = doubleQuotes [c] ++ doubleQuotes text := by
  simp [doubleQuotes]

theorem doubleQuotes_append (front back : List Char) :
    doubleQuotes (front ++ back) = doubleQuotes front ++ doubleQuotes back :=
  List.flatMap_append

theorem doubleQuotes_singleton (other : c ≠ '"') : doubleQuotes [c] = [c] := by
  simp [doubleQuotes, other]

theorem reverse_doubleQuotes (text : List Char) :
    (doubleQuotes text).reverse = doubleQuotes text.reverse := by
  rw [doubleQuotes, doubleQuotes, List.reverse_flatMap]
  refine congrArg (text.reverse.flatMap ·) (funext fun c => ?_)
  dsimp only [Function.comp_apply]
  split_ifs <;> rfl

/-- A space stands between the same pieces when the quotes in them are doubled. -/
theorem splitOn_doubleQuotes (text : List Char) :
    Text.splitOn [' '] (doubleQuotes text) = (Text.splitOn [' '] text).map doubleQuotes := by
  induction text with
  | nil =>
      have alone : Text.splitOn [' '] [] = [[]] :=
        Text.splitOn_of_cutAt?_eq_none (List.cons_ne_nil _ _) rfl
      have empty : doubleQuotes [] = [] := rfl
      rw [empty, alone, List.map_singleton, empty]
  | cons c text inductionHypothesis =>
      by_cases space : c = ' '
      · subst space
        have cut (text : List Char) :
            Text.splitOn [' '] (' ' :: text) = [] :: Text.splitOn [' '] text :=
          Text.splitOn_append_self (List.cons_ne_nil ' ' []) text
        rw [doubleQuotes_cons, doubleQuotes_singleton (by decide), List.singleton_append, cut, cut,
          inductionHypothesis]
        rfl
      · have inside : ' ' ∉ doubleQuotes [c] := by
          by_cases quote : c = '"'
          · rw [quote]
            decide
          · rw [doubleQuotes_singleton quote]
            simpa using Ne.symm space
        have other : ¬ [' '] <+: c :: text := fun begins =>
          space (List.cons_prefix_cons.1 begins).1.symm
        obtain ⟨first, others, split⟩ := Text.exists_cons_of_splitOn (List.cons_ne_nil ' ' []) text
        rw [doubleQuotes_cons, Text.splitOn_append_of_not_mem inside, inductionHypothesis,
          Text.splitOn_cons other, split, List.map_cons, List.modifyHead_cons, List.modifyHead_cons,
          List.map_cons, doubleQuotes_cons c first]

theorem trimStart_doubleQuotes (text : List Char) :
    Text.trimStart (doubleQuotes text) = doubleQuotes (Text.trimStart text) := by
  induction text with
  | nil => rfl
  | cons c text inductionHypothesis =>
      rw [Text.trimStart, Text.trimStart, doubleQuotes_cons]
      by_cases quote : c = '"'
      · subst quote
        rfl
      · rw [doubleQuotes_singleton quote, List.singleton_append, List.dropWhile_cons,
          List.dropWhile_cons]
        split_ifs
        · exact inductionHypothesis
        · rw [doubleQuotes_cons c text, doubleQuotes_singleton quote, List.singleton_append]

/-- No quote is blank, so trimming takes away the same blanks when quotes are doubled. -/
theorem trim_doubleQuotes (text : List Char) :
    Text.trim (doubleQuotes text) = doubleQuotes (Text.trim text) := by
  have backward (text : List Char) :
      Text.trimEnd (doubleQuotes text) = doubleQuotes (Text.trimEnd text) := by
    rw [Text.trimEnd, Text.trimEnd, ← Text.trimStart, ← Text.trimStart, reverse_doubleQuotes,
      trimStart_doubleQuotes, reverse_doubleQuotes]
  rw [Text.trim, Text.trim, trimStart_doubleQuotes, backward]

/-- The quotes of a text may be doubled before it is cut and trimmed. -/
theorem phraseQuery_eq (text : List Char) :
    phraseQuery text =
      [' '].intercalate ((Text.splitOn [' '] (doubleQuotes text)).map fun part =>
        '"' :: Text.trim part ++ ['"']) := by
  rw [phraseQuery, pieces, splitOn_doubleQuotes, List.map_map, List.map_map]
  refine congrArg _ (List.map_congr_left fun part _ => ?_)
  rw [Function.comp_apply, Function.comp_apply, trim_doubleQuotes, quote]

/-! ## Literals -/

/-- A text consists of literals in double quotes, with a single space between two of them. -/
inductive Literals : List Char → List (List Char) → Prop
  /-- The closing quote of a literal ends the text. -/
  | last {body literal : List Char} :
      FullText.Lexeme.quoted? body = some (literal, []) → Literals ('"' :: body) [literal]
  /-- Behind a literal and a space there are more literals. -/
  | more {body rest literal : List Char} {literals : List (List Char)} :
      FullText.Lexeme.quoted? body = some (literal, ' ' :: rest) → Literals rest literals →
        Literals ('"' :: body) (literal :: literals)

/-- A text can be read in one way only. -/
theorem Literals.unique
    {others : List (List Char)}
    (first : Literals text literals)
    (second : Literals text others) :
    literals = others := by
  induction first generalizing others with
  | last read =>
      cases second with
      | last again => simpa [read] using again
      | more again _ => simp [read] at again
  | more read _ inductionHypothesis =>
      cases second with
      | last again => simp [read] at again
      | more again later =>
          rw [read, Option.some.injEq, Prod.mk.injEq, List.cons.injEq] at again
          obtain ⟨rfl, -, rfl⟩ := again
          rw [inductionHypothesis later]

/-- Quoted texts side by side are the literals that are read. -/
theorem literals_intercalate
    (nonempty : items ≠ []) :
    Literals ([' '].intercalate (items.map quote)) items := by
  induction items with
  | nil => contradiction
  | cons item items inductionHypothesis =>
      cases items with
      | nil =>
          rw [List.map_singleton, List.intercalate_singleton]
          exact .last (FullText.Lexeme.quoted?_doubleQuotes item (by simp))
      | cons next items =>
          have written : [' '].intercalate ((item :: next :: items).map quote) =
              '"' :: (doubleQuotes item ++
                '"' :: ' ' :: [' '].intercalate ((next :: items).map quote)) := by
            simp [List.intercalate_cons_cons, quote]
          rw [written]
          refine .more (FullText.Lexeme.quoted?_doubleQuotes item ?_)
            (inductionHypothesis (List.cons_ne_nil next items))
          rintro c ⟨⟩
          decide

/-! ## Null characters -/

/-- Without a closing quote there is no literal, since quotes inside of it are doubled. -/
theorem quoted?_eq_none (piece : List Char) :
    FullText.Lexeme.quoted? (doubleQuotes piece) = none := by
  induction piece with
  | nil => rfl
  | cons c piece inductionHypothesis =>
      by_cases quote : c = '"'
      · subst quote
        change (FullText.Lexeme.quoted? (doubleQuotes piece)).map _ = none
        rw [inductionHypothesis, Option.map_none]
      · rw [doubleQuotes_cons, doubleQuotes_singleton quote, List.singleton_append,
          FullText.Lexeme.quoted?, if_neg quote, inductionHypothesis, Option.map_none]
        exact fun more same _ => quote same

theorem scans_unclosed
    {piece : List Char}
    (noNull : '\x00' ∉ piece) :
    FullText.Lexeme.Scans ('"' :: doubleQuotes piece) none := by
  refine ⟨fun fuel enough => ?_, ?_⟩
  · obtain ⟨fuel, rfl⟩ := Nat.exists_eq_add_one_of_ne_zero (Nat.ne_zero_of_lt enough)
    simp [FullText.Lexeme.scan?, FullText.Lexeme.isSpace, quoted?_eq_none]
  · intro inside
    have written : '\x00' ∈ quote piece := List.mem_append_left _ inside
    exact noNull (FullText.Lexeme.mem_of_mem_quote written (by decide))

/-- A null character in a quoted text cuts off its closing quote, and nothing is read. -/
theorem scans_beforeNull
    (null : ∃ item ∈ items, '\x00' ∈ item)
    (rest : List Char) :
    FullText.Lexeme.Scans
      (Text.beforeNull ([' '].intercalate (items.map quote) ++ rest)) none := by
  induction items with
  | nil => simp at null
  | cons item items inductionHypothesis =>
      by_cases here : '\x00' ∈ item
      · obtain ⟨before, behind, rfl, noNull⟩ := List.eq_append_cons_of_mem here
        have unclosed := scans_unclosed noNull
        have cut : doubleQuotes (before ++ '\x00' :: behind) =
            doubleQuotes before ++ '\x00' :: doubleQuotes behind := by
          rw [doubleQuotes_append, doubleQuotes_cons, doubleQuotes_singleton (by decide),
            List.singleton_append]
        obtain ⟨more, written⟩ : ∃ more,
            [' '].intercalate (((before ++ '\x00' :: behind) :: items).map quote) ++ rest =
              ('"' :: doubleQuotes before) ++ '\x00' :: more := by
          cases items <;> simp [List.intercalate_cons_cons, quote, cut]
        rw [written, Text.beforeNull_append_cons unclosed.noNull]
        exact unclosed
      · obtain ⟨other, otherMember, inside⟩ := null
        rw [List.mem_cons, or_iff_right (by rintro rfl; exact here inside)] at otherMember
        have later := inductionHypothesis ⟨other, otherMember, inside⟩
        obtain ⟨next, items, rfl⟩ := List.exists_cons_of_ne_nil (List.ne_nil_of_mem otherMember)
        have noNull : '\x00' ∉ quote item ++ [' '] := by
          rw [List.mem_append, not_or]
          exact ⟨fun member => here (FullText.Lexeme.mem_of_mem_quote member (by decide)), by simp⟩
        have separate : FullText.Lexeme.Apart (' ' ::
            Text.beforeNull ([' '].intercalate ((next :: items).map quote) ++ rest)) := by
          rintro c ⟨⟩
          decide
        have whole := FullText.Lexeme.spells_quote here _ _ separate later.blank
        rw [List.map_cons, List.map_cons, List.intercalate_cons_cons, ← List.map_cons,
          List.append_assoc, Text.beforeNull_append noNull, List.append_assoc]
        exact whole

/-! ## Expressions -/

/--
A text becomes literals that are read back as its pieces, to the end and in one way only; quotes may
be doubled before the text is cut and trimmed. In a match expression the pieces are texts between
the parentheses and nothing else is added to it, unless a null character ends the expression inside
of a literal; then it cannot be read.
-/
theorem phraseQuery_literals (text : List Char) :
    phraseQuery text =
        [' '].intercalate ((Text.splitOn [' '] (doubleQuotes text)).map fun part =>
          '"' :: Text.trim part ++ ['"']) ∧
      (∀ literals, Literals (phraseQuery text) literals ↔ literals = pieces text) ∧
        ∀ settings : SearchSettings,
          FullText.Lexeme.ofText? (settings.expression (phraseQuery text)) =
            if '\x00' ∈ text then none
            else
              some (FullText.Expression.phraseLexemes settings.searchedFields (pieces text)) := by
  refine ⟨phraseQuery_eq text, fun literals => ?_, fun settings => ?_⟩
  · obtain ⟨first, others, split⟩ := exists_pieces_eq_cons text
    have read : Literals (phraseQuery text) (pieces text) :=
      literals_intercalate (by rw [split]; exact List.cons_ne_nil first others)
    exact ⟨fun other => other.unique read, fun same => same ▸ read⟩
  · have whole : settings.expression (phraseQuery text) =
        ('{' :: [' '].intercalate (settings.searchedFields.map fun field =>
          field.columnName.toList) ++ ['}', ':', '(']) ++ (phraseQuery text ++ [')']) :=
      List.append_assoc _ _ _
    split_ifs with null
    · obtain ⟨piece, member, inside⟩ := exists_mem_pieces (by decide) null
      have front := FullText.Expression.scans_columns settings.searchedFields
        FullText.Lexeme.Scans.nil
      have scans := FullText.Expression.scans_columns settings.searchedFields
        (scans_beforeNull ⟨piece, member, inside⟩ [')'])
      rw [List.append_nil] at front
      rw [whole, FullText.Lexeme.ofText?, Text.beforeNull_append front.noNull]
      exact scans.scan _ le_rfl
    · have close := FullText.Lexeme.Scans.nil.punctuation (c := ')') rfl rfl
      have texts := FullText.Lexeme.scans_blanks (fun piece member =>
        FullText.Lexeme.spells_quote (not_mem_of_mem_pieces null piece member))
          (by rintro c ⟨⟩; decide) close
      have scans := FullText.Expression.scans_columns settings.searchedFields texts
      rw [whole]
      exact scans.ofText?

end Query
end BlockSearch
