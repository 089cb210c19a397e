import BlockSearch.Proofs.Lists
import BlockSearch.Toml.Printer
import BlockSearch.Toml.Reader

/-!
# Reading written texts and keys

A text is read back from between its quotes, whatever characters it holds and whichever quotes
were chosen for it, and so is a key.
-/

namespace BlockSearch
namespace Toml
namespace Quoted

/-! ## Characters -/

/-- A digit that is written for a value below sixteen is read as that value. -/
theorem hexValue?_upperHexDigit
    {n : Nat}
    (small : n < 16) :
    Text.hexValue? (Text.upperHexDigit n) = some n := by
  revert n
  decide

/-- A character that is neither a control character nor the end of a line may stand in a text. -/
theorem isPlain_of_not_isControl
    {c : Char}
    (noControl : isControl c = false)
    (noLineEnd : c ≠ '\n') :
    isPlain c = true := by
  by_cases tab : c = '\t'
  · simp [isPlain, tab]
  · have outside : 32 ≤ c.toNat ∧ c.toNat ≠ 127 := by
      simpa [isControl, tab, noLineEnd] using noControl
    simp [isPlain, outside]

/-- What is written for a character begins with neither a quote nor the end of a line. -/
theorem exists_escapeChar_eq_cons (c : Char) :
    ∃ first others, escapeChar c = first :: others ∧
      first ≠ '"' ∧ first ≠ '\n' ∧ first ≠ '\r' := by
  unfold escapeChar
  split_ifs with quote backslash backspace tab lineFeed formFeed carriageReturn control
  all_goals first
    | exact ⟨'\\', _, rfl, by decide⟩
    | exact ⟨c, [], rfl, quote, lineFeed, carriageReturn⟩

/-- A reader that takes every escape of a character for that character. -/
structure Unescapes (read : Place → List Char → Option (List Char × List Char)) : Prop where
  /-- A letter behind a backslash may name a character. -/
  named {c d : Char} (known : named? c = some d) (rest : List Char) :
    read .char ('\\' :: c :: rest) = push d (read .char rest)
  /-- A letter behind a backslash may announce four digits. -/
  announced (rest : List Char) : read .char ('\\' :: 'u' :: rest) = read (.digits 4 0) rest
  /-- A digit counts when others follow it. -/
  digit {c : Char} {n : Nat} (known : Text.hexValue? c = some n) (missing value : Nat)
    (rest : List Char) :
    read (.digits (missing + 2) value) (c :: rest) =
      read (.digits (missing + 1) (value * 16 + n)) rest
  /-- The last digit completes the character. -/
  last {c d : Char} {n value : Nat} (known : Text.hexValue? c = some n)
    (scalar : Text.scalar? (value * 16 + n) = some d) (rest : List Char) :
    read (.digits 1 value) (c :: rest) = push d (read .char rest)
  /-- Other characters stand for themselves. -/
  plain {c : Char} (allowed : isPlain c = true) (noQuote : c ≠ '"') (noBackslash : c ≠ '\\')
    (rest : List Char) :
    read .char (c :: rest) = push c (read .char rest)

section

variable {read : Place → List Char → Option (List Char × List Char)}

/-- A character is read back from its four digits. -/
theorem Unescapes.code
    (unescapes : Unescapes read)
    {c : Char}
    (small : c.toNat < 256)
    (rest : List Char) :
    read .char ('\\' :: 'u' :: '0' :: '0' :: Text.upperHexDigit (c.toNat / 16) ::
      Text.upperHexDigit (c.toNat % 16) :: rest) = push c (read .char rest) := by
  have high := hexValue?_upperHexDigit (show c.toNat / 16 < 16 by omega)
  have low := hexValue?_upperHexDigit (show c.toNat % 16 < 16 by omega)
  have zero : Text.hexValue? '0' = some 0 := by decide
  have value : (((0 * 16 + 0) * 16 + 0) * 16 + c.toNat / 16) * 16 + c.toNat % 16 = c.toNat := by
    omega
  have scalar : Text.scalar?
      ((((0 * 16 + 0) * 16 + 0) * 16 + c.toNat / 16) * 16 + c.toNat % 16) = some c := by
    rw [value, Text.scalar?, if_pos (.inl (by omega)), Char.ofNat_toNat]
  rw [unescapes.announced, unescapes.digit zero 2, unescapes.digit zero 1,
    unescapes.digit high 0, unescapes.last low scalar]

/-- A written character is read back. -/
theorem Unescapes.escapeChar
    (unescapes : Unescapes read)
    (c : Char)
    (rest : List Char) :
    read .char (escapeChar c ++ rest) = push c (read .char rest) := by
  unfold Toml.escapeChar
  split_ifs with quote backslash backspace tab lineFeed formFeed carriageReturn control
  · subst quote
    exact unescapes.named rfl rest
  · subst backslash
    exact unescapes.named rfl rest
  · subst backspace
    exact unescapes.named rfl rest
  · subst tab
    exact unescapes.named rfl rest
  · subst lineFeed
    exact unescapes.named rfl rest
  · subst formFeed
    exact unescapes.named rfl rest
  · subst carriageReturn
    exact unescapes.named rfl rest
  · refine unescapes.code ?_ rest
    simp only [Bool.or_eq_true, decide_eq_true_eq, beq_iff_eq] at control
    omega
  · refine unescapes.plain ?_ quote backslash rest
    have outside : 32 ≤ c.toNat ∧ c.toNat ≠ 127 := by simpa using control
    simp [isPlain, outside]

end

/-! ## Texts on one line -/

theorem unescapes_basic? : Unescapes basic? where
  named {c d} known rest := by
    change basic? .escape (c :: rest) = _
    rw [basic?, known]
  announced _ := rfl
  digit known missing value rest := by
    rw [basic?, known]
    exact if_neg (by omega)
  last known scalar rest := by
    rw [basic?, known]
    simp only [if_true, scalar]
  plain allowed noQuote noBackslash rest := by simp [basic?, allowed]

/-- A written text is read up to its closing quote. -/
theorem basic?_flatMap_escapeChar (text rest : List Char) :
    basic? .char (text.flatMap escapeChar ++ '"' :: rest) = some (text, rest) := by
  induction text with
  | nil => rfl
  | cons c text inductionHypothesis =>
      rw [List.flatMap_cons, List.append_assoc, unescapes_basic?.escapeChar, inductionHypothesis]
      rfl

/-- A text without single quotes is read up to the single quote that closes it. -/
theorem literal?_append
    {text : List Char}
    (plain : ∀ c ∈ text, isPlain c = true)
    (absent : '\'' ∉ text)
    (rest : List Char) :
    literal? (text ++ '\'' :: rest) = some (text, rest) := by
  induction text with
  | nil => rfl
  | cons c text inductionHypothesis =>
      obtain ⟨first, others⟩ := List.forall_mem_cons.1 plain
      rw [List.mem_cons, not_or] at absent
      have notQuote : c ≠ '\'' := Ne.symm absent.1
      simp [literal?, first, inductionHypothesis others absent.2, push]

/-! ## Texts on several lines -/

/-- A reader of texts that three quotes close, where up to two in front of these count. -/
structure ClosedByThree
    (quote : Char)
    (read : List Char → Option (List Char × List Char)) : Prop where
  /-- A quote that two others do not follow belongs to the text. -/
  inner {rest : List Char} (noClose : ∀ tail, rest ≠ quote :: quote :: tail) :
    read (quote :: rest) = push quote (read rest)
  /-- The last three quotes close the text. -/
  close {quotes : Nat} (few : quotes ≤ 2) {rest : List Char}
    (apart : ∀ tail, rest ≠ quote :: tail) :
    read (List.replicate quotes quote ++ quote :: quote :: quote :: rest) =
      some (List.replicate quotes quote, rest)

/-- Up to two quotes that no third one follows belong to the text. -/
theorem ClosedByThree.quotes
    {quote : Char}
    {read : List Char → Option (List Char × List Char)}
    (closed : ClosedByThree quote read)
    {quotes : Nat}
    (few : quotes ≤ 2)
    {c : Char}
    (other : c ≠ quote)
    (rest : List Char) :
    read (List.replicate quotes quote ++ c :: rest) =
      (read (c :: rest)).map fun part => (List.replicate quotes quote ++ part.1, part.2) := by
  have one : read (quote :: c :: rest) = push quote (read (c :: rest)) :=
    closed.inner (by rintro tail ⟨⟩; exact other rfl)
  obtain rfl | rfl | rfl : quotes = 0 ∨ quotes = 1 ∨ quotes = 2 := by omega
  · simp
  · exact one
  · have two : read (quote :: quote :: c :: rest) = push quote (read (quote :: c :: rest)) :=
      closed.inner (by rintro tail ⟨⟩; exact other rfl)
    change read (quote :: quote :: c :: rest) = _
    rw [two, one, push, push, Option.map_map]
    rfl

theorem ne_carriageReturn
    {c : Char}
    (allowed : c = '\n' ∨ isPlain c = true) :
    c ≠ '\r' := by
  rintro rfl
  revert allowed
  decide

/-- A character that is no backslash belongs to the text, unless it begins the closing quotes. -/
theorem longBasic?_char
    {c : Char}
    (allowed : c = '\n' ∨ isPlain c = true)
    (noBackslash : c ≠ '\\')
    {rest : List Char}
    (noClose : c = '"' → ∀ tail, rest ≠ '"' :: '"' :: tail) :
    longBasic? .char (c :: rest) = push c (longBasic? .char rest) := by
  have noReturn := ne_carriageReturn allowed
  rw [longBasic?, if_pos (by simpa using allowed)]
  all_goals grind

theorem unescapes_longBasic? : Unescapes longBasic? where
  named {c d} known rest := by
    unfold named? at known
    split at known <;> cases known <;> rfl
  announced _ := rfl
  digit known missing value rest := by
    rw [longBasic?, known]
    exact if_neg (by omega)
  last known scalar rest := by
    rw [longBasic?, known]
    simp only [if_true, scalar]
  plain allowed noQuote noBackslash rest :=
    longBasic?_char (.inr allowed) noBackslash fun same => absurd same noQuote

theorem closedByThree_longBasic? : ClosedByThree '"' (longBasic? .char) where
  inner noClose := longBasic?_char (.inr rfl) (by decide) fun _ => noClose
  close {quotes} few rest apart := by
    obtain rfl | rfl | rfl : quotes = 0 ∨ quotes = 1 ∨ quotes = 2 := by omega
    · change longBasic? .char ('"' :: '"' :: '"' :: rest) = _
      rw [longBasic?]
      all_goals grind
    · change longBasic? .char ('"' :: '"' :: '"' :: '"' :: rest) = _
      rw [longBasic?]
      all_goals grind
    · rfl

/--
A written text is read up to its closing quotes. The quotes in front of it are those of the text
that were written last; a third one among them has an escape.
-/
theorem longBasic?_escapeLong
    {rest : List Char}
    (apart : ∀ tail, rest ≠ '"' :: tail)
    (text : List Char)
    {quotes : Nat}
    (few : quotes ≤ 2) :
    longBasic? .char
        (List.replicate quotes '"' ++ (escapeLong quotes text ++ '"' :: '"' :: '"' :: rest)) =
      some (List.replicate quotes '"' ++ text, rest) := by
  have closed := closedByThree_longBasic?
  induction text generalizing quotes with
  | nil => rw [escapeLong, List.nil_append, closed.close few apart, List.append_nil]
  | cons c text inductionHypothesis =>
      have others := inductionHypothesis (show 0 ≤ 2 by omega)
      rw [List.replicate_zero, List.nil_append, List.nil_append] at others
      rw [escapeLong]
      split_ifs with quote third lineFeed
      · subst quote third
        rw [List.cons_append, closed.quotes few (by decide), List.cons_append,
          unescapes_longBasic?.named rfl, others]
        rfl
      · subst quote
        have next := inductionHypothesis (show quotes + 1 ≤ 2 by omega)
        simpa [List.replicate_succ'] using next
      · subst lineFeed
        rw [List.cons_append, closed.quotes few (by decide),
          longBasic?_char (.inl rfl) (by decide) (by rintro ⟨⟩), others]
        rfl
      · obtain ⟨first, more, written, noQuote, -, -⟩ := exists_escapeChar_eq_cons c
        rw [List.append_assoc, written, List.cons_append, closed.quotes few noQuote,
          ← List.cons_append, ← written, unescapes_longBasic?.escapeChar, others]
        rfl

/-- A character belongs to the text, unless it begins the closing quotes. -/
theorem longLiteral?_char
    {c : Char}
    (allowed : c = '\n' ∨ isPlain c = true)
    {rest : List Char}
    (noClose : c = '\'' → ∀ tail, rest ≠ '\'' :: '\'' :: tail) :
    longLiteral? (c :: rest) = push c (longLiteral? rest) := by
  have noReturn := ne_carriageReturn allowed
  rw [longLiteral?, if_pos (by simpa using allowed)]
  all_goals grind

theorem closedByThree_longLiteral? : ClosedByThree '\'' longLiteral? where
  inner noClose := longLiteral?_char (.inr rfl) fun _ => noClose
  close {quotes} few rest apart := by
    obtain rfl | rfl | rfl : quotes = 0 ∨ quotes = 1 ∨ quotes = 2 := by omega
    · change longLiteral? ('\'' :: '\'' :: '\'' :: rest) = _
      rw [longLiteral?]
      all_goals grind
    · change longLiteral? ('\'' :: '\'' :: '\'' :: '\'' :: rest) = _
      rw [longLiteral?]
      all_goals grind
    · rfl

/-- A text without three single quotes in a row is read up to the three that close it. -/
theorem longLiteral?_append
    {rest : List Char}
    (apart : ∀ tail, rest ≠ '\'' :: tail)
    {text : List Char}
    (allowed : ∀ c ∈ text, c = '\n' ∨ isPlain c = true)
    {quotes : Nat}
    (few : longestRunFrom '\'' quotes text ≤ 2) :
    longLiteral? (List.replicate quotes '\'' ++ (text ++ '\'' :: '\'' :: '\'' :: rest)) =
      some (List.replicate quotes '\'' ++ text, rest) := by
  have closed := closedByThree_longLiteral?
  induction text generalizing quotes with
  | nil =>
      rw [longestRunFrom] at few
      rw [List.nil_append, closed.close few apart, List.append_nil]
  | cons c text inductionHypothesis =>
      obtain ⟨first, others⟩ := List.forall_mem_cons.1 allowed
      rw [longestRunFrom] at few
      split_ifs at few with quote
      · subst quote
        have next := inductionHypothesis others few
        simpa [List.replicate_succ'] using next
      · have next := inductionHypothesis others (show longestRunFrom '\'' 0 text ≤ 2 by omega)
        rw [List.replicate_zero, List.nil_append, List.nil_append] at next
        rw [List.cons_append, closed.quotes (by omega) quote,
          longLiteral?_char first fun same => absurd same quote, next]
        rfl

/-! ## Texts between any quotes -/

/-- What follows a text between quotes: it does not begin with a quote. -/
def Apart (rest : List Char) : Prop := ∀ c ∈ rest.head?, c ≠ '"' ∧ c ≠ '\''

theorem Apart.double
    {rest : List Char}
    (apart : Apart rest) :
    ∀ tail, rest ≠ '"' :: tail := by
  rintro tail rfl
  exact (apart '"' rfl).1 rfl

theorem Apart.single
    {rest : List Char}
    (apart : Apart rest) :
    ∀ tail, rest ≠ '\'' :: tail := by
  rintro tail rfl
  exact (apart '\'' rfl).2 rfl

/-- A text that has no stretch of a character does not hold it. -/
theorem not_mem_of_longestRunFrom_eq_zero
    {c : Char}
    {run : Nat}
    {text : List Char}
    (none : longestRunFrom c run text = 0) :
    run = 0 ∧ c ∉ text := by
  induction text generalizing run with
  | nil => exact ⟨none, List.not_mem_nil⟩
  | cons d text inductionHypothesis =>
      rw [longestRunFrom] at none
      split_ifs at none with same
      · exact absurd (inductionHypothesis none).1 (Nat.succ_ne_zero run)
      · obtain ⟨noRun, noneLater⟩ := Nat.max_eq_zero_iff.1 none
        exact ⟨noRun, by simp [Ne.symm same, inductionHypothesis noneLater]⟩

theorem inQuotes_basic_append (text rest : List Char) :
    inQuotes .basic text ++ rest = '"' :: (text.flatMap escapeChar ++ '"' :: rest) := by
  simp [inQuotes]

theorem inQuotes_literal_append (text rest : List Char) :
    inQuotes .literal text ++ rest = '\'' :: (text ++ '\'' :: rest) := by
  simp [inQuotes]

theorem inQuotes_longBasic_append (text rest : List Char) :
    inQuotes .longBasic text ++ rest =
      '"' :: '"' :: '"' :: (opening text ++ (escapeLong 0 text ++ '"' :: '"' :: '"' :: rest)) := by
  simp [inQuotes]

theorem inQuotes_longLiteral_append (text rest : List Char) :
    inQuotes .longLiteral text ++ rest =
      '\'' :: '\'' :: '\'' :: (opening text ++ (text ++ '\'' :: '\'' :: '\'' :: rest)) := by
  simp [inQuotes]

theorem short?_basic (text rest : List Char) :
    short? (inQuotes .basic text ++ rest) = some (text, rest) := by
  rw [inQuotes_basic_append]
  exact basic?_flatMap_escapeChar text rest

theorem short?_literal
    {text : List Char}
    (plain : ∀ c ∈ text, isPlain c = true)
    (absent : '\'' ∉ text)
    (rest : List Char) :
    short? (inQuotes .literal text ++ rest) = some (text, rest) := by
  rw [inQuotes_literal_append]
  exact literal?_append plain absent rest

/-- What stands between double quotes on one line is no text over several lines. -/
theorem read?_basic
    {rest : List Char}
    (apart : Apart rest)
    (text : List Char) :
    read? (inQuotes .basic text ++ rest) = some (text, rest) := by
  have one : ∀ tail, text.flatMap escapeChar ++ '"' :: rest ≠ '"' :: '"' :: tail := by
    intro tail same
    cases text with
    | nil => exact apart.double tail (List.cons.inj same).2
    | cons c text =>
        obtain ⟨first, others, written, noQuote, -⟩ := exists_escapeChar_eq_cons c
        rw [List.flatMap_cons, written] at same
        exact noQuote (List.cons.inj same).1
  rw [← short?_basic text rest, inQuotes_basic_append, read?]
  all_goals grind

theorem read?_literal
    {rest : List Char}
    (apart : Apart rest)
    {text : List Char}
    (plain : ∀ c ∈ text, isPlain c = true)
    (absent : '\'' ∉ text) :
    read? (inQuotes .literal text ++ rest) = some (text, rest) := by
  have one : ∀ tail, text ++ '\'' :: rest ≠ '\'' :: '\'' :: tail := by
    intro tail same
    cases text with
    | nil => exact apart.single tail (List.cons.inj same).2
    | cons c text =>
        obtain rfl : c = '\'' := (List.cons.inj same).1
        exact absent List.mem_cons_self
  rw [← short?_literal plain absent rest, inQuotes_literal_append, read?]
  all_goals grind

/-- The line end that is written in front of a text with lines is dropped, and no other one. -/
theorem dropLineEnd_opening
    {text written : List Char}
    (begins : ∀ c ∈ written.head?, c = '\n' ∨ c = '\r' → '\n' ∈ text) :
    dropLineEnd (opening text ++ written) = written := by
  unfold opening
  split_ifs with lines
  · rfl
  · rw [List.contains_iff_mem] at lines
    rw [List.nil_append, dropLineEnd]
    all_goals
      rintro rest rfl
      exact lines (begins _ rfl (by decide))

theorem read?_longBasic
    {rest : List Char}
    (apart : Apart rest)
    (text : List Char) :
    read? (inQuotes .longBasic text ++ rest) = some (text, rest) := by
  have begins : ∀ c ∈ (escapeLong 0 text ++ '"' :: '"' :: '"' :: rest).head?,
      c = '\n' ∨ c = '\r' → '\n' ∈ text := by
    intro c first lineEnd
    cases text with
    | nil =>
        obtain rfl : '"' = c := Option.some.inj first
        exact absurd lineEnd (by decide)
    | cons d text =>
        rw [escapeLong] at first
        split_ifs at first with quote third lineFeed
        · exact absurd third (by decide)
        · obtain rfl : '"' = c := Option.some.inj first
          exact absurd lineEnd (by decide)
        · exact lineFeed ▸ List.mem_cons_self
        · obtain ⟨other, more, written, -, noLineFeed, noReturn⟩ := exists_escapeChar_eq_cons d
          rw [written] at first
          obtain rfl : other = c := Option.some.inj first
          exact absurd lineEnd (not_or.2 ⟨noLineFeed, noReturn⟩)
  have read := longBasic?_escapeLong apart.double text (show 0 ≤ 2 by omega)
  rw [List.replicate_zero, List.nil_append, List.nil_append] at read
  rw [inQuotes_longBasic_append, read?, dropLineEnd_opening begins, read]

theorem read?_longLiteral
    {rest : List Char}
    (apart : Apart rest)
    {text : List Char}
    (allowed : ∀ c ∈ text, c = '\n' ∨ isPlain c = true)
    (few : longestRun '\'' text ≤ 2) :
    read? (inQuotes .longLiteral text ++ rest) = some (text, rest) := by
  have begins : ∀ c ∈ (text ++ '\'' :: '\'' :: '\'' :: rest).head?,
      c = '\n' ∨ c = '\r' → '\n' ∈ text := by
    intro c first lineEnd
    cases text with
    | nil =>
        obtain rfl : '\'' = c := Option.some.inj first
        exact absurd lineEnd (by decide)
    | cons d text =>
        obtain rfl : d = c := Option.some.inj first
        have noReturn := ne_carriageReturn (allowed d List.mem_cons_self)
        exact lineEnd.resolve_right noReturn ▸ List.mem_cons_self
  have read := longLiteral?_append apart.single allowed few
  rw [List.replicate_zero, List.nil_append, List.nil_append] at read
  rw [inQuotes_longLiteral_append, read?, dropLineEnd_opening begins, read]

/-- A text is read back from between its quotes, whatever characters it holds. -/
theorem read?_quoted
    {rest : List Char}
    (apart : Apart rest)
    (text : List Char) :
    read? (quoted text ++ rest) = some (text, rest) := by
  have allowed (noControl : ∀ c ∈ text, ¬isControl c = true) :
      ∀ c ∈ text, c = '\n' ∨ isPlain c = true := fun c member =>
    or_iff_not_imp_left.2 (isPlain_of_not_isControl (by simpa using noControl c member))
  unfold quoted quoteStyle
  simp only [Bool.and_eq_true, Bool.not_eq_true', List.any_eq_false, List.contains_eq_mem,
    decide_eq_false_iff_not, beq_iff_eq, decide_eq_true_eq]
  split_ifs with noEscapes noQuotes fewDoubles fewSingles lines
  · exact read?_basic apart text
  · obtain ⟨⟨noControl, oneLine⟩, none⟩ := noQuotes
    have plain : ∀ c ∈ text, isPlain c = true := fun c member =>
      (allowed noControl c member).resolve_left fun same => oneLine (same ▸ member)
    exact read?_literal apart plain (not_mem_of_longestRunFrom_eq_zero none).2
  · exact read?_longBasic apart text
  · exact read?_longLiteral apart (allowed fewSingles.1) fewSingles.2
  · exact read?_longBasic apart text
  · exact read?_basic apart text

/-- A text begins with a quote. -/
theorem exists_quoted_eq_cons (text : List Char) :
    ∃ first others, quoted text = first :: others ∧ (first = '"' ∨ first = '\'') := by
  unfold quoted
  cases quoteStyle text with
  | basic => exact ⟨'"', _, rfl, .inl rfl⟩
  | literal => exact ⟨'\'', _, rfl, .inr rfl⟩
  | longBasic => exact ⟨'"', _, rfl, .inl rfl⟩
  | longLiteral => exact ⟨'\'', _, rfl, .inr rfl⟩

/-- What does not begin with a quote is no text between quotes. -/
theorem read?_eq_none
    {c : Char}
    (noDouble : c ≠ '"')
    (noSingle : c ≠ '\'')
    (rest : List Char) :
    read? (c :: rest) = none := by
  rw [read?, short?]
  all_goals grind

end Quoted

/-! ## Keys -/

/-- A key that needs no quotes. -/
def IsBareKey (word : List Char) : Prop := (!word.isEmpty && word.all isBare) = true

theorem IsBareKey.isBare
    {word : List Char}
    (key : IsBareKey word) :
    ∀ c ∈ word, Toml.isBare c = true :=
  List.all_eq_true.1 (Bool.and_eq_true_iff.1 key).2

theorem IsBareKey.exists_eq_cons
    {word : List Char}
    (key : IsBareKey word) :
    ∃ first others, word = first :: others ∧ Toml.isBare first = true := by
  cases word with
  | nil => contradiction
  | cons first others => exact ⟨first, others, rfl, key.isBare first List.mem_cons_self⟩

/-- A key without quotes is read up to a character that it could not hold. -/
theorem key?_bare
    {word rest : List Char}
    (key : IsBareKey word)
    (apart : ∀ c ∈ rest.head?, isBare c = false) :
    key? (word ++ rest) = some (String.ofList word, rest) := by
  have anyChar : word ≠ [] := by
    obtain ⟨first, others, rfl, -⟩ := key.exists_eq_cons
    exact List.cons_ne_nil first others
  simp [key?, Lists.takeWhile_append_of_head key.isBare apart,
    Lists.dropWhile_append_of_head key.isBare apart, anyChar]

/-- A key between quotes is what is read from between them. -/
theorem key?_quoted
    {first : Char}
    (quote : isBare first = false)
    {others text rest : List Char}
    (read : Quoted.short? (first :: others) = some (text, rest)) :
    key? (first :: others) = some (String.ofList text, rest) := by
  simp [key?, quote, read]

/-- A key is read back, whatever characters it holds. -/
theorem key?_writeKey
    {rest : List Char}
    (apart : ∀ c ∈ rest.head?, isBare c = false)
    (key : List Char) :
    key? (writeKey key ++ rest) = some (String.ofList key, rest) := by
  have basic : key? (inQuotes .basic key ++ rest) = some (String.ofList key, rest) := by
    have read := Quoted.short?_basic key rest
    rw [Quoted.inQuotes_basic_append] at read ⊢
    exact key?_quoted rfl read
  unfold writeKey
  dsimp only
  split_ifs with bare noEscapes literal
  · exact key?_bare bare apart
  · exact basic
  · simp only [Bool.and_eq_true, Bool.not_eq_true', List.any_eq_false, Bool.or_eq_true,
      List.contains_eq_mem, decide_eq_false_iff_not, beq_iff_eq, not_or] at literal
    obtain ⟨noControl, absent⟩ := literal
    have plain : ∀ c ∈ key, Quoted.isPlain c = true := fun c member =>
      Quoted.isPlain_of_not_isControl (by simpa using (noControl c member).1) (noControl c member).2
    have read := Quoted.short?_literal plain absent rest
    rw [Quoted.inQuotes_literal_append] at read ⊢
    exact key?_quoted rfl read
  · exact basic

end Toml
end BlockSearch
