import BlockSearch.FullText.Match
import BlockSearch.FullText.Reader
import BlockSearch.Proofs.Lists
import BlockSearch.Proofs.Text.Occurrence
import BlockSearch.Query.Phrase
import Mathlib.Data.List.Infix
import Mathlib.Tactic.Tauto

/-!
# Phrases side by side

Phrases in parentheses behind the names of some fields stand for an expression that holds of a
record when each of them, as far as it has tokens, stands in one of these fields, and at least one
of them has tokens. A phrase stands in a field exactly when the index finds the text of the phrase in
the text of the field, as it compares letters; texts of less than three characters have no tokens.

A phrase in quotes is read back as it is, whatever it holds: quotes in it are written twice, and
nothing else has a meaning between quotes.
-/

namespace BlockSearch

theorem Field.mem_all (field : Field) : field ∈ Field.all := by
  cases field <;> decide

namespace FullText

namespace Lexeme

/-! ## Scanning -/

/-- Scanning a text with enough fuel gives some tokens, or none; the text does not end early. -/
structure Scans (text : List Char) (result : Option (List Lexeme)) : Prop where
  /-- This is what is found. -/
  scan : ∀ fuel, text.length ≤ fuel → scan? fuel text = result
  /-- There is no null character. -/
  noNull : '\x00' ∉ text

variable {rest : List Char} {result : Option (List Lexeme)}

theorem Scans.nil : Scans [] (some []) where
  scan fuel _ := by cases fuel <;> rfl
  noNull := List.not_mem_nil

/-- A blank in front of a text is passed over. -/
theorem Scans.blank (scans : Scans rest result) : Scans (' ' :: rest) result := by
  refine ⟨fun fuel enough => ?_, by simpa using scans.noNull⟩
  obtain ⟨fuel, rfl⟩ := Nat.exists_eq_add_one_of_ne_zero (Nat.ne_zero_of_lt enough)
  have skipped : (' ' :: rest).dropWhile isSpace = rest.dropWhile isSpace := rfl
  have scanned := scans.scan (fuel + 1) (Nat.le_of_succ_le enough)
  rw [scan?] at scanned ⊢
  rwa [skipped]

/-- A punctuation mark in front of a text is found first. -/
theorem Scans.punctuation
    {c : Char}
    {lexeme : Lexeme}
    (scans : Scans rest result)
    (mark : ofPunctuation? c = some lexeme)
    (solid : isSpace c = false) :
    Scans (c :: rest) (result.map (lexeme :: ·)) := by
  have other {d : Char} (unmarked : ofPunctuation? d = none) : c ≠ d := by
    rintro rfl
    rw [unmarked] at mark
    contradiction
  refine ⟨fun fuel enough => ?_, by simp [(@other '\x00' rfl).symm, scans.noNull]⟩
  obtain ⟨fuel, rfl⟩ := Nat.exists_eq_add_one_of_ne_zero (Nat.ne_zero_of_lt enough)
  have scanned := scans.scan fuel (Nat.le_of_succ_le_succ enough)
  simp [scan?, solid, @other '"' rfl, mark, scanned]

/-- The tokens of a text. -/
theorem Scans.ofText? (scans : Scans rest result) : ofText? rest = result := by
  rw [Lexeme.ofText?, Text.beforeNull_eq_self scans.noNull]
  exact scans.scan _ le_rfl

/-- A text does not begin with a character that belongs to a word or a quoted text in front of it. -/
def Apart (rest : List Char) : Prop := ∀ c ∈ rest.head?, isWordChar c = false ∧ c ≠ '"'

/-- A text is found as one token in front of everything that does not run into it. -/
def Spells (text : List Char) (lexeme : Lexeme) : Prop :=
  ∀ rest result, Apart rest → Scans rest result → Scans (text ++ rest) (result.map (lexeme :: ·))

/-- A word is one token. -/
theorem spells_word
    {word : List Char}
    (nonempty : word ≠ [])
    (inside : word.all (fun c => isWordChar c && (ofPunctuation? c).isNone && !isSpace c) = true) :
    Spells word (ofWord word) := by
  intro rest result apart scans
  rw [List.all_eq_true] at inside
  have noNull : '\x00' ∉ word := fun member => absurd (inside _ member) (by decide)
  refine ⟨fun fuel enough => ?_, List.not_mem_append noNull scans.noNull⟩
  obtain ⟨c, more, rfl⟩ := List.exists_cons_of_ne_nil nonempty
  rw [List.length_append, List.length_cons] at enough
  obtain ⟨fuel, rfl⟩ : ∃ spare, fuel = spare + 1 := ⟨fuel - 1, by omega⟩
  simp only [Bool.and_eq_true, Bool.not_eq_true', Option.isNone_iff_eq_none]
    at inside
  obtain ⟨⟨first, plain⟩, solid⟩ := inside c List.mem_cons_self
  have other : c ≠ '"' := by
    rintro rfl
    exact absurd first (by decide)
  have front : ∀ d ∈ more, isWordChar d = true := fun d member =>
    (inside d (List.mem_cons_of_mem _ member)).1.1
  have stop : ∀ d ∈ rest.head?, isWordChar d = false := fun d member => (apart d member).1
  have scanned := scans.scan fuel (by omega)
  simp [scan?, solid, other, plain, first, Lists.takeWhile_append_of_head front stop,
    Lists.dropWhile_append_of_head front stop, scanned]

/-! ## Quotes -/

/-- Doubled quotes are read back as single ones. -/
theorem quoted?_doubleQuotes
    (piece : List Char)
    (ends : ∀ c ∈ rest.head?, c ≠ '"') :
    quoted? (Query.doubleQuotes piece ++ '"' :: rest) = some (piece, rest) := by
  induction piece with
  | nil =>
      cases rest with
      | nil => rfl
      | cons c rest =>
          have other : c ≠ '"' := ends c rfl
          rw [Query.doubleQuotes, List.flatMap_nil, List.nil_append, quoted?]
          · simp
          · simpa using other
  | cons c piece inductionHypothesis =>
      by_cases quote : c = '"'
      · rw [quote]
        change (quoted? (Query.doubleQuotes piece ++ '"' :: rest)).map
          (fun part => ('"' :: part.1, part.2)) = _
        rw [inductionHypothesis]
        rfl
      · have written : Query.doubleQuotes (c :: piece) = c :: Query.doubleQuotes piece := by
          simp [Query.doubleQuotes, quote]
        rw [written, List.cons_append, quoted?, if_neg quote, inductionHypothesis]
        · rfl
        · exact fun more same _ => quote same

theorem mem_of_mem_quote
    {c : Char}
    {piece : List Char}
    (member : c ∈ Query.quote piece)
    (other : c ≠ '"') :
    c ∈ piece := by
  simp only [Query.quote, Query.doubleQuotes, List.cons_append, List.mem_cons, List.mem_append,
    List.mem_flatMap, List.not_mem_nil, or_false, other, false_or] at member
  obtain ⟨d, inside, here⟩ := member
  split_ifs at here with quote
  · simp [other] at here
  · rwa [List.mem_singleton.1 here]

/-- A quoted text is one token. -/
theorem spells_quote
    {piece : List Char}
    (noNull : '\x00' ∉ piece) :
    Spells (Query.quote piece) (.text true piece) := by
  intro rest result apart scans
  refine ⟨fun fuel enough => ?_,
    List.not_mem_append (fun member => noNull (mem_of_mem_quote member (by decide))) scans.noNull⟩
  rw [List.length_append, Query.quote, List.length_append, List.length_cons] at enough
  obtain ⟨fuel, rfl⟩ : ∃ spare, fuel = spare + 1 := ⟨fuel - 1, by omega⟩
  have read := quoted?_doubleQuotes piece fun c member => (apart c member).2
  have scanned := scans.scan fuel (by omega)
  simp [Query.quote, scan?, isSpace, read, scanned]

/-- Tokens with blanks between them. -/
theorem scans_blanks
    {α : Type}
    {text : α → List Char}
    {lexeme : α → Lexeme}
    {items : List α}
    (each : ∀ item ∈ items, Spells (text item) (lexeme item))
    (apart : Apart rest)
    (scans : Scans rest result) :
    Scans ([' '].intercalate (items.map text) ++ rest) (result.map (items.map lexeme ++ ·)) := by
  induction items with
  | nil => simpa using scans
  | cons item items inductionHypothesis =>
      have first := each item List.mem_cons_self
      have others := inductionHypothesis fun one member => each one (List.mem_cons_of_mem _ member)
      cases items with
      | nil => simpa using first rest result apart scans
      | cons other items =>
          have separate : Apart (' ' :: ([' '].intercalate ((other :: items).map text) ++ rest)) := by
            rintro c ⟨⟩
            decide
          have whole := first _ _ separate others.blank
          rw [Option.map_map] at whole
          simpa [List.intercalate_cons_cons, Function.comp_def] using whole

end Lexeme

/-! ## Windows -/

/-- Texts of fewer than three characters have no windows. -/
theorem windows_eq_nil_iff {text : List Char} : windows text = [] ↔ text.length < 3 := by
  match text with
  | [] | [_] | [_, _] => simp [windows]
  | _ :: _ :: _ :: _ => simp [windows]

theorem windows_cons
    (a b c : Char)
    (rest : List Char) :
    windows (a :: b :: c :: rest) = (a, b, c) :: windows (b :: c :: rest) := rfl

theorem windows_prefix_iff
    {a b c : Char}
    {rest text : List Char} :
    windows (a :: b :: c :: rest) <+: windows text ↔ a :: b :: c :: rest <+: text := by
  induction rest generalizing a b c text with
  | nil =>
      match text with
      | [] | [_] | [_, _] => simp [windows, List.cons_prefix_cons]
      | x :: y :: z :: more => simp [windows, List.cons_prefix_cons]
  | cons d rest inductionHypothesis =>
      match text with
      | [] | [_] | [_, _] => simp [windows, List.cons_prefix_cons]
      | x :: y :: z :: more =>
          have later := @inductionHypothesis b c d (y :: z :: more)
          rw [windows_cons a, windows_cons x, List.cons_prefix_cons, later]
          simp only [List.cons_prefix_cons, Prod.mk.injEq]
          tauto

/-- The windows of a text stand in those of another exactly when the text stands in the other. -/
theorem windows_infix_iff
    {part text : List Char}
    (long : 3 ≤ part.length) :
    windows part <:+: windows text ↔ part <:+: text := by
  match part, long with
  | a :: b :: c :: rest, _ =>
      induction text with
      | nil => simp [windows]
      | cons x text inductionHypothesis =>
          match text with
          | [] | [_] => simp [windows, List.infix_cons_iff, List.cons_prefix_cons]
          | y :: z :: more =>
              rw [List.infix_cons_iff, ← windows_prefix_iff, windows_cons x, List.infix_cons_iff]
              exact or_congr_right inductionHypothesis

/-! ## Places -/

/-- A phrase has a place exactly when its tokens follow one another somewhere. -/
theorem offsetsFrom_ne_nil_iff
    {phrase found : List Trigram}
    (nonempty : phrase ≠ [])
    {offset : Nat} :
    offsetsFrom phrase offset found ≠ [] ↔ phrase <:+: found := by
  induction found generalizing offset with
  | nil => simp [offsetsFrom, nonempty]
  | cons token found inductionHypothesis =>
      rw [offsetsFrom, List.infix_cons_iff, ← List.isPrefixOf_iff_prefix,
        ← @inductionHypothesis (offset + 1)]
      split_ifs with here <;> simp [here]

/-! ## Texts -/

/-- Whether a text contains a piece; where case does not matter, up to the folding of the index. -/
def Contains : (mode : CaseMode) → (piece text : List Char) → Prop
  | .sensitive, piece, text => piece <:+: text
  | .insensitive, piece, text => piece.map fold <:+: text.map fold

instance : (mode : CaseMode) → (piece text : List Char) → Decidable (Contains mode piece text)
  | .sensitive, piece, text => inferInstanceAs (Decidable (piece <:+: text))
  | .insensitive, piece, text => inferInstanceAs (Decidable (piece.map fold <:+: text.map fold))

/--
Whether the index finds a piece in a text. The index sees a text up to its first null character, and
it takes some code points for another character.
-/
def Holds (mode : CaseMode) (piece text : List Char) : Prop :=
  piece.map (key mode) <:+: (Text.beforeNull text).map (key mode)

instance (mode : CaseMode) (piece text : List Char) : Decidable (Holds mode piece text) := by
  unfold Holds
  infer_instance

section

variable {mode : CaseMode} {piece text : List Char}

/-- Whether the index sees a character as it is. -/
def isPlain (c : Char) : Bool := c != '\x00' && Text.seen c == c

/-- Where all characters are seen as they are, the index finds a piece in the texts that contain it. -/
theorem holds_iff_contains
    (piecePlain : ∀ c ∈ piece, isPlain c)
    (textPlain : ∀ c ∈ text, isPlain c) :
    Holds mode piece text ↔ Contains mode piece text := by
  have noNull : '\x00' ∉ text := fun member => absurd (textPlain _ member) (by decide)
  have shown {c : Char} (plain : isPlain c) : Text.seen c = c :=
    eq_of_beq (Bool.and_eq_true_iff.1 plain).2
  have keys (function : Char → Char) {list : List Char} (plain : ∀ c ∈ list, isPlain c) :
      list.map (fun c => function (Text.seen c)) = list.map function :=
    List.map_congr_left fun c member => congrArg function (shown (plain c member))
  rw [Holds, Text.beforeNull_eq_self noNull]
  cases mode with
  | sensitive =>
      have pieces := keys id piecePlain
      have texts := keys id textPlain
      rw [List.map_id] at pieces texts
      exact iff_of_eq (congrArg₂ _ pieces texts)
  | insensitive => exact iff_of_eq (congrArg₂ _ (keys fold piecePlain) (keys fold textPlain))

/-- A piece has tokens exactly when it has three characters. -/
theorem tokens_ne_nil_iff (noNull : '\x00' ∉ piece) : tokens mode piece ≠ [] ↔ 3 ≤ piece.length := by
  rw [tokens, Text.beforeNull_eq_self noNull, ne_eq, windows_eq_nil_iff, List.length_map, not_lt]

/-- The tokens of a piece follow one another in a text that holds the piece. -/
theorem tokens_infix_iff
    (noNull : '\x00' ∉ piece)
    (long : 3 ≤ piece.length) :
    tokens mode piece <:+: tokens mode text ↔ Holds mode piece text := by
  rw [tokens, tokens, Text.beforeNull_eq_self noNull,
    windows_infix_iff (by rwa [List.length_map]), Holds]

end

namespace Expression

/-! ## Reading -/

/-- A quoted text as an expression. -/
def ofText (mode : CaseMode) (text : List Char) : Expression := ofTokens (tokens mode text) false

/-- Quoted texts side by side. -/
def ofTexts (mode : CaseMode) (first : List Char) (others : List (List Char)) : Expression :=
  others.foldl (fun left text => beside left (ofText mode text)) (ofText mode first)

variable {mode : CaseMode} {rest : List Lexeme}

/-- What follows texts in parentheses is another text or the closing parenthesis. -/
theorem exists_texts_closeParen
    (texts : List (List Char))
    (rest : List Lexeme) :
    ∃ lexeme more, texts.map (Lexeme.text true) ++ .closeParen :: rest = lexeme :: more ∧
      (lexeme = .closeParen ∨ ∃ text, lexeme = .text true text) := by
  cases texts with
  | nil => exact ⟨_, _, rfl, .inl rfl⟩
  | cons text texts => exact ⟨_, _, rfl, .inr ⟨text, rfl⟩⟩

/-- A text in front of others is a phrase without columns. -/
theorem filtered?_text
    (text : List Char)
    (texts : List (List Char)) :
    beginsColumns (.text true text :: (texts.map (Lexeme.text true) ++ .closeParen :: rest)) = false ∧
      near? mode (.text true text :: (texts.map (Lexeme.text true) ++ .closeParen :: rest)) =
        some (ofText mode text, texts.map (Lexeme.text true) ++ .closeParen :: rest) := by
  obtain ⟨lexeme, more, split, kind⟩ := exists_texts_closeParen texts rest
  rw [split]
  rcases kind with rfl | ⟨other, rfl⟩ <;> exact ⟨rfl, rfl⟩

/-- Texts side by side are read up to the closing parenthesis. -/
theorem run?_texts
    (texts : List (List Char))
    (left : Expression)
    {fuel : Nat}
    (enough : texts.length < fuel) :
    run? mode fuel left (texts.map (Lexeme.text true) ++ .closeParen :: rest) =
      some (texts.foldl (fun left text => beside left (ofText mode text)) left,
        .closeParen :: rest) := by
  induction texts generalizing left fuel with
  | nil =>
      obtain ⟨fuel, rfl⟩ := Nat.exists_eq_add_one_of_ne_zero (Nat.ne_zero_of_lt enough)
      rfl
  | cons text texts inductionHypothesis =>
      obtain ⟨fuel, rfl⟩ := Nat.exists_eq_add_one_of_ne_zero (Nat.ne_zero_of_lt enough)
      obtain ⟨plain, near⟩ := @filtered?_text mode rest text texts
      have later := @inductionHypothesis (beside left (ofText mode text)) fuel
        (Nat.lt_of_succ_lt_succ enough)
      have begins : beginsPhrase
          (.text true text :: (texts.map (Lexeme.text true) ++ .closeParen :: rest)) = true := rfl
      rw [List.map_cons, List.cons_append, run?, begins, if_pos rfl, filtered?, plain,
        if_neg Bool.false_ne_true, near]
      exact later

/-- Texts in parentheses stand for all of them. -/
theorem parenthesized?_texts
    (first : List Char)
    (others : List (List Char))
    (fuel : Nat) :
    parenthesized? mode (fuel + 6) ((first :: others).map (Lexeme.text true) ++ .closeParen :: rest) =
      some (ofTexts mode first others, rest) := by
  obtain ⟨plain, near⟩ := @filtered?_text mode rest first others
  have enough : others.length < (others.map (Lexeme.text true) ++ .closeParen :: rest).length + 1 := by
    rw [List.length_append, List.length_map]
    omega
  have run := @run?_texts mode rest others (ofText mode first) _ enough
  have operand : operand? mode (fuel + 2)
      ((first :: others).map (Lexeme.text true) ++ .closeParen :: rest) =
        some (ofTexts mode first others, .closeParen :: rest) := by
    rw [List.map_cons, List.cons_append, operand?]
    · rw [plain, if_neg Bool.false_ne_true, near]
      exact run
    · intro more same
      cases same
  have difference : difference? mode (fuel + 3)
      ((first :: others).map (Lexeme.text true) ++ .closeParen :: rest) =
        some (ofTexts mode first others, .closeParen :: rest) := by
    rw [difference?, operand]
    rfl
  have conjunction : conjunction? mode (fuel + 4)
      ((first :: others).map (Lexeme.text true) ++ .closeParen :: rest) =
        some (ofTexts mode first others, .closeParen :: rest) := by
    rw [conjunction?, difference]
    rfl
  have disjunction : disjunction? mode (fuel + 5)
      ((first :: others).map (Lexeme.text true) ++ .closeParen :: rest) =
        some (ofTexts mode first others, .closeParen :: rest) := by
    rw [disjunction?, conjunction]
    rfl
  rw [parenthesized?, disjunction]
  rfl

theorem fieldsNamed?_columnName (field : Field) :
    fieldsNamed? field.columnName.toList = some [field] := by
  cases field <;> decide

/-- The names of fields in braces are read as the fields. -/
theorem columns?_fields
    (field : Field)
    (fields : List Field) :
    columns? (.openBrace :: ((field :: fields).map (fun field =>
        Lexeme.text false field.columnName.toList) ++ .closeBrace :: .colon :: rest)) =
      some (Field.all.filter (field :: fields).contains, rest) := by
  generalize written : (field :: fields).map (fun field => Lexeme.text false field.columnName.toList) =
    names
  have inside : ∀ lexeme ∈ names, (lexeme != .closeBrace) = true := by
    intro lexeme member
    rw [← written] at member
    obtain ⟨one, -, rfl⟩ := List.mem_map.1 member
    rfl
  have stop : ∀ lexeme ∈ (Lexeme.closeBrace :: .colon :: rest).head?,
      (lexeme != .closeBrace) = false := by
    rintro lexeme ⟨⟩
    rfl
  have some : names.isEmpty = false := by
    rw [← written]
    rfl
  have read (step : Lexeme → Option (List Field))
      (reads : ∀ name, step (.text false name) = fieldsNamed? name) :
      names.mapM step = Option.some ((field :: fields).map fun field => [field]) := by
    rw [← written, Lists.mapM_eq_some_iff, List.forall₂_map_left_iff, List.forall₂_map_right_iff,
      List.forall₂_same]
    exact fun one _ => (reads _).trans (fieldsNamed?_columnName one)
  have flat : ((field :: fields).map fun field => [field]).flatten = field :: fields := by
    rw [← List.flatMap_def, List.flatMap_singleton']
  rw [columns?, columns?.braces?, Lists.takeWhile_append_of_head inside stop,
    Lists.dropWhile_append_of_head inside stop]
  simp only [some, Bool.false_eq_true, if_false, Option.bind_eq_bind]
  rw [read _ fun _ => rfl, Option.bind_some, flat]
  simp only [Bool.bne_false]

/-- The tokens of texts in parentheses behind the names of fields. -/
def phraseLexemes (fields : List Field) (texts : List (List Char)) : List Lexeme :=
  .openBrace :: (fields.map (fun field => Lexeme.text false field.columnName.toList) ++
    .closeBrace :: .colon :: .openParen :: (texts.map (Lexeme.text true) ++ [.closeParen]))

theorem ofLexemes?_phraseLexemes
    (field : Field)
    (fields : List Field)
    (first : List Char)
    (others : List (List Char)) :
    ofLexemes? mode (phraseLexemes (field :: fields) (first :: others)) =
      some ((ofTexts mode first others).restrict (Field.all.filter (field :: fields).contains)) := by
  obtain ⟨fuel, enough⟩ : ∃ spare,
      6 * (phraseLexemes (field :: fields) (first :: others)).length + 6 = spare + 16 := by
    refine ⟨6 * (phraseLexemes (field :: fields) (first :: others)).length + 6 - 16, ?_⟩
    simp only [phraseLexemes, List.length_cons, List.length_append, List.length_map]
    omega
  have columns := @columns?_fields (.openParen :: ((first :: others).map (Lexeme.text true) ++
    [.closeParen])) field fields
  have operand : operand? mode (fuel + 13) (phraseLexemes (field :: fields) (first :: others)) =
      some ((ofTexts mode first others).restrict (Field.all.filter (field :: fields).contains),
        []) := by
    rw [phraseLexemes, operand?]
    · have begins : beginsColumns (.openBrace :: ((field :: fields).map (fun field =>
          Lexeme.text false field.columnName.toList) ++ .closeBrace :: .colon :: .openParen ::
            ((first :: others).map (Lexeme.text true) ++ [.closeParen]))) = true := rfl
      rw [begins, if_pos rfl, columns, Option.bind_eq_bind, Option.bind_some]
      simp only [parenthesized?_texts first others (fuel + 6)]
      rfl
    · intro more same
      cases same
  have disjunction : disjunction? mode (fuel + 16)
      (phraseLexemes (field :: fields) (first :: others)) =
        some ((ofTexts mode first others).restrict (Field.all.filter (field :: fields).contains),
          []) := by
    rw [disjunction?, conjunction?, difference?, operand]
    rfl
  rw [ofLexemes?, enough, disjunction]

theorem spells_columnName (field : Field) :
    Lexeme.Spells field.columnName.toList (.text false field.columnName.toList) := by
  have word : Lexeme.ofWord field.columnName.toList = .text false field.columnName.toList := by
    cases field <;> decide
  rw [← word]
  apply Lexeme.spells_word <;> cases field <;> decide

/-- The names of fields in braces and a parenthesis are scanned in front of what stands in it. -/
theorem scans_columns
    (fields : List Field)
    {inside : List Char}
    {result : Option (List Lexeme)}
    (scans : Lexeme.Scans inside result) :
    Lexeme.Scans ('{' :: [' '].intercalate (fields.map fun field => field.columnName.toList) ++
        ['}', ':', '('] ++ inside)
      (result.map fun lexemes => .openBrace ::
        (fields.map (fun field => Lexeme.text false field.columnName.toList) ++
          .closeBrace :: .colon :: .openParen :: lexemes)) := by
  have behind := ((scans.punctuation (c := '(') rfl rfl).punctuation (c := ':') rfl
    rfl).punctuation (c := '}') rfl rfl
  have columns : ∀ one ∈ fields,
      Lexeme.Spells one.columnName.toList (.text false one.columnName.toList) :=
    fun one _ => spells_columnName one
  have names := Lexeme.scans_blanks columns (by rintro c ⟨⟩; decide) behind
  have whole := names.punctuation (c := '{') rfl rfl
  simp only [Option.map_map] at whole
  simpa [Function.comp_def] using whole

/-- Quoted texts in parentheses behind the names of fields are read, whatever they hold. -/
theorem read?_phrases
    (field : Field)
    (fields : List Field)
    {first : List Char}
    {others : List (List Char)}
    (noNull : ∀ text ∈ first :: others, '\x00' ∉ text) :
    read? mode ('{' :: [' '].intercalate ((field :: fields).map fun field =>
        field.columnName.toList) ++ ['}', ':', '('] ++
          [' '].intercalate ((first :: others).map Query.quote) ++ [')']) =
      some ((ofTexts mode first others).restrict (Field.all.filter (field :: fields).contains)) := by
  have close := Lexeme.Scans.nil.punctuation (c := ')') rfl rfl
  have texts := Lexeme.scans_blanks (fun text member => Lexeme.spells_quote (noNull text member))
    (by rintro c ⟨⟩; decide) close
  have scanned := (scans_columns (field :: fields) texts).ofText?
  rw [← List.append_assoc] at scanned
  rw [read?, scanned, ← ofLexemes?_phraseLexemes]
  rfl

/-! ## Meaning -/

/--
An expression asks for texts: it never matches if none of them has tokens, and otherwise it holds
of a record when each one with tokens stands in a field.
-/
structure Asks (mode : CaseMode) (expression : Expression) (texts : List (List Char)) : Prop where
  /-- It never matches exactly when no text has tokens. -/
  never : expression = .never ↔ ∀ text ∈ texts, tokens mode text = []
  /-- Restricted to some fields it holds when every text with tokens stands in one of them. -/
  holds : ∀ fields document, (expression.restrict fields).holds document = true ↔
    (∃ text ∈ texts, tokens mode text ≠ []) ∧
      ∀ text ∈ texts, tokens mode text ≠ [] →
        ∃ field ∈ fields, tokens mode text <:+: document field

theorem asks_ofText (text : List Char) : Asks mode (ofText mode text) [text] := by
  by_cases empty : tokens mode text = []
  · have never : ofText mode text = .never := by
      rw [ofText, ofTokens, empty]
      rfl
    rw [never]
    exact ⟨by simp [empty], fun fields document => by simp [restrict, holds, empty]⟩
  · have phrase : ofText mode text = .phrase ⟨tokens mode text, false, Field.all⟩ := by
      rw [ofText, ofTokens, if_neg (by simpa using empty)]
    rw [phrase]
    refine ⟨by simp [empty], fun fields document => ?_⟩
    simp [restrict, holds, Phrase.occurs, Phrase.offsets, empty, Field.mem_all,
      offsetsFrom_ne_nil_iff]

/-- An expression that matches something asks for a text with tokens. -/
theorem Asks.exists_of_ne_never
    {expression : Expression}
    {texts : List (List Char)}
    (asks : Asks mode expression texts)
    (other : expression ≠ .never) :
    ∃ text ∈ texts, tokens mode text ≠ [] := by
  by_contra none
  push Not at none
  exact other (asks.never.2 none)

/-- Only texts with tokens are asked for. -/
theorem Asks.congr
    {expression : Expression}
    {texts others : List (List Char)}
    (asks : Asks mode expression texts)
    (same : ∀ text, tokens mode text ≠ [] → (text ∈ texts ↔ text ∈ others)) :
    Asks mode expression others where
  never := by
    rw [asks.never]
    constructor
    · intro empty text member
      by_contra some
      exact some (empty text ((same text some).2 member))
    · intro empty text member
      by_contra some
      exact some (empty text ((same text some).1 member))
  holds fields document := by
    rw [asks.holds]
    refine and_congr (exists_congr fun text => and_congr_left (same text)) ?_
    refine forall_congr' fun text => ⟨fun held member some => ?_, fun held member some => ?_⟩
    · exact held ((same text some).2 member) some
    · exact held ((same text some).1 member) some

theorem Asks.beside
    {left right : Expression}
    {texts others : List (List Char)}
    (asksLeft : Asks mode left texts)
    (asksRight : Asks mode right others) :
    Asks mode (beside left right) (texts ++ others) := by
  rw [Expression.beside]
  split_ifs with rightNever leftNever
  · refine asksLeft.congr fun text some => ?_
    have missing : text ∉ others := fun member => some (asksRight.never.1 rightNever text member)
    rw [List.mem_append, or_iff_left missing]
  · refine asksRight.congr fun text some => ?_
    have missing : text ∉ texts := fun member => some (asksLeft.never.1 leftNever text member)
    rw [List.mem_append, or_iff_right missing]
  · have someLeft := asksLeft.exists_of_ne_never leftNever
    have someRight := asksRight.exists_of_ne_never rightNever
    refine ⟨?_, fun fields document => ?_⟩
    · rw [List.forall_mem_append, ← asksLeft.never, ← asksRight.never]
      simp [leftNever]
    · rw [restrict, Expression.holds, Bool.and_eq_true, asksLeft.holds, asksRight.holds]
      simp only [List.mem_append, or_and_right, exists_or, or_imp, forall_and, someLeft, someRight,
        true_and, true_or]

theorem asks_ofTexts
    (first : List Char)
    (others : List (List Char)) :
    Asks mode (ofTexts mode first others) (first :: others) := by
  have more (texts : List (List Char)) (left : Expression) (asks : Asks mode left texts) :
      Asks mode (others.foldl (fun left text => beside left (ofText mode text)) left)
        (texts ++ others) := by
    induction others generalizing texts left with
    | nil => rwa [List.append_nil]
    | cons text others inductionHypothesis =>
        have later := inductionHypothesis _ _ (asks.beside (asks_ofText text))
        rwa [List.append_assoc] at later
  exact more [first] _ (asks_ofText first)

/--
Texts side by side hold of a record when each one with three characters is held by a field, and
there is such a text.
-/
theorem holds_ofTexts_iff
    {first : List Char}
    {others : List (List Char)}
    (noNull : ∀ text ∈ first :: others, '\x00' ∉ text)
    (fields : List Field)
    (record : Record) :
    ((ofTexts mode first others).restrict fields).holds (.ofRecord mode record) = true ↔
      (∃ text ∈ first :: others, 3 ≤ text.length) ∧
        ∀ text ∈ first :: others, 3 ≤ text.length →
          ∃ field ∈ fields, Holds mode text (record.text field).toList := by
  rw [(asks_ofTexts first others).holds]
  refine and_congr ?_ ?_
  · exact exists_congr fun text => and_congr_right fun member =>
      tokens_ne_nil_iff (noNull text member)
  · refine forall₂_congr fun text member => ?_
    rw [tokens_ne_nil_iff (noNull text member)]
    refine forall_congr' fun long => exists_congr fun field => and_congr_right fun _ => ?_
    exact tokens_infix_iff (noNull text member) long

end Expression
end FullText
end BlockSearch
