import BlockSearch.Proofs.Decimal.Digits
import BlockSearch.Proofs.Lists
import BlockSearch.Proofs.Text.Occurrence
import BlockSearch.Sql.Token
import Mathlib.Data.List.TakeWhile

/-!
# Reading written statements

A statement is put together from its end: a token in front of a text is found first, whatever
tokens the text has. Words and numbers must not run into what follows.
-/

namespace BlockSearch
namespace Sql
namespace Token

/-! ## Blanks -/

theorem length_behindBlock_le (text : List Char) : (behindBlock text).length ≤ text.length := by
  fun_induction behindBlock text with
  | case1 rest => simp only [List.length_cons]; omega
  | case2 c rest _ inductionHypothesis => simp only [List.length_cons]; omega
  | case3 => exact le_rfl

/-- Fuel for every character is enough to pass over blanks and comments. -/
theorem skipBlanks_of_length_le
    {fuel : Nat}
    {text : List Char}
    (enough : text.length ≤ fuel) :
    skipBlanks fuel text = skipBlanks text.length text := by
  induction fuel using Nat.strongRecOn generalizing text with
  | ind fuel inductionHypothesis =>
      rcases Nat.eq_or_lt_of_le enough with same | more
      · rw [same]
      obtain ⟨fuel, rfl⟩ := Nat.exists_eq_add_one_of_ne_zero (Nat.ne_zero_of_lt more)
      cases text with
      | nil => rfl
      | cons c text =>
          have front := List.length_dropWhile_le isBlank (c :: text)
          rw [List.length_cons] at more front
          rw [List.length_cons, skipBlanks, skipBlanks]
          split
          · rename_i rest same
            have shorter : (behindLine rest).length ≤ rest.length :=
              List.length_dropWhile_le _ rest
            rw [same, List.length_cons, List.length_cons] at front
            rw [inductionHypothesis fuel (by omega) (by omega),
              inductionHypothesis text.length (by omega) (by omega)]
          · rename_i d rest same
            have shorter := length_behindBlock_le (d :: rest)
            rw [same, List.length_cons, List.length_cons] at front
            rw [inductionHypothesis fuel (by omega) (by omega),
              inductionHypothesis text.length (by omega) (by omega)]
          · rfl

/-! ## Scanning -/

/-- Scanning a text with enough fuel finds tokens; the text does not end early. -/
structure Scans (text : List Char) (tokens : List Token) : Prop where
  /-- The tokens are found. -/
  scan : ∀ fuel, text.length ≤ fuel → scan? fuel true text = some tokens
  /-- There is no null character. -/
  noNull : '\x00' ∉ text

theorem Scans.nil : Scans [] [] where
  scan fuel _ := by cases fuel <;> rfl
  noNull := List.not_mem_nil

/-- A blank is passed over. -/
theorem scan?_blank
    (fuel : Nat)
    (started : Bool)
    (rest : List Char) :
    scan? (fuel + 1) started (' ' :: rest) = scan? (fuel + 1) started rest := by
  have skipped : skipBlanks (rest.length + 1) (' ' :: rest) = skipBlanks rest.length rest := by
    rw [← skipBlanks_of_length_le (Nat.le_succ _)]
    rfl
  rw [scan?, scan?, List.length_cons, skipped]

/-- A blank in front of a text is passed over. -/
theorem Scans.blank
    {rest : List Char}
    {tokens : List Token}
    (scans : Scans rest tokens) :
    Scans (' ' :: rest) tokens := by
  refine ⟨fun fuel enough => ?_, by simpa using scans.noNull⟩
  obtain ⟨fuel, rfl⟩ := Nat.exists_eq_add_one_of_ne_zero (Nat.ne_zero_of_lt enough)
  rw [scan?_blank]
  exact scans.scan (fuel + 1) (Nat.le_of_succ_le enough)

/-- A character at which neither a blank nor a comment begins, and at which no statement ends. -/
def IsFront (c : Char) : Prop := isBlank c = false ∧ c ≠ '-' ∧ c ≠ '/' ∧ c ≠ ';'

theorem skipBlanks_of_isFront
    {c : Char}
    (front : IsFront c)
    (fuel : Nat)
    (rest : List Char) :
    skipBlanks fuel (c :: rest) = c :: rest := by
  obtain ⟨solid, noLine, noBlock, -⟩ := front
  cases fuel with
  | zero => rfl
  | succ fuel => simp [skipBlanks, solid, noLine, noBlock]

/-- The token at the front of a text comes before the others. -/
theorem scan?_token
    {c : Char}
    {text rest : List Char}
    {token : Token}
    (front : IsFront c)
    (first : next? (c :: text) = some (token, rest))
    (fuel : Nat)
    (started : Bool) :
    scan? (fuel + 1) started (c :: text) = (scan? fuel true rest).map (token :: ·) := by
  simp [scan?, skipBlanks_of_isFront front, front.2.2.2, first]

/-- A token in front of a text is found first. -/
theorem Scans.token
    {c : Char}
    {text rest : List Char}
    {token : Token}
    {tokens : List Token}
    (scans : Scans rest tokens)
    (front : IsFront c)
    (noNull : '\x00' ∉ c :: text)
    (first : next? (c :: text ++ rest) = some (token, rest)) :
    Scans (c :: text ++ rest) (token :: tokens) := by
  refine ⟨fun fuel enough => ?_, List.not_mem_append noNull scans.noNull⟩
  obtain ⟨fuel, rfl⟩ := Nat.exists_eq_add_one_of_ne_zero (Nat.ne_zero_of_lt enough)
  have shorter : rest.length ≤ fuel := by
    rw [List.length_append, List.length_cons] at enough
    omega
  rw [List.cons_append] at first ⊢
  rw [scan?_token front first, scans.scan fuel shorter, Option.map_some]

/-- The tokens of a text that begins with one of them. -/
theorem Scans.ofText?
    {c : Char}
    {rest : List Char}
    {tokens : List Token}
    (scans : Scans (c :: rest) tokens)
    (front : IsFront c) :
    ofText? (c :: rest) = some tokens := by
  have scanned := scans.scan ((c :: rest).length + 1) (Nat.le_succ _)
  rw [Token.ofText?, Text.beforeNull_eq_self scans.noNull, ← scanned]
  simp [scan?, skipBlanks_of_isFront front, front.2.2.2]

/-! ## Tokens in front of a text -/

/-- A text does not begin with a character that belongs to a word or a quoted text in front of it. -/
def Apart (rest : List Char) : Prop := ∀ c ∈ rest.head?, isNameChar c = false ∧ c ≠ '\'' ∧ c ≠ '='

theorem blob?_eq_none
    {c : Char}
    {rest : List Char}
    (unquoted : ∀ d ∈ rest.head?, d ≠ '\'') :
    blob? (c :: rest) = none := by
  cases rest with
  | nil => rfl
  | cons d rest =>
      have other : d ≠ '\'' := unquoted d rfl
      simp [blob?, other]

theorem blob?_eq_none_of_ne
    {c : Char}
    (small : c ≠ 'x')
    (capital : c ≠ 'X')
    (rest : List Char) :
    blob? (c :: rest) = none := by
  rcases rest with _ | ⟨d, rest⟩
  · rfl
  · unfold blob?
    split <;> simp_all

/-- Whether a text is a word that begins with a letter. -/
def isWord : List Char → Bool
  | [] => false
  | c :: text => c.isAlpha && text.all isNameChar

theorem ne_of_isAlpha
    {c d : Char}
    (letter : c.isAlpha = true)
    (other : d.isAlpha = false) :
    c ≠ d := by
  rintro rfl
  rw [letter] at other
  contradiction

theorem isDigit_of_isAlpha
    {c : Char}
    (letter : c.isAlpha = true) :
    c.isDigit = false := by
  rw [Bool.eq_false_iff]
  intro digit
  have letters : (decide (65 ≤ c.val ∧ c.val ≤ 90) || 97 ≤ c.val && c.val ≤ 122) = true := letter
  have digits : (48 ≤ c.val && c.val ≤ 57) = true := digit
  simp only [Bool.or_eq_true, Bool.and_eq_true, decide_eq_true_eq, UInt32.le_iff_toNat_le,
    UInt32.reduceToNat] at letters digits
  omega

/-- Nothing but a word begins with a letter. -/
theorem isFront_of_isAlpha
    {c : Char}
    (letter : c.isAlpha = true) :
    IsFront c := by
  have other {d : Char} (plain : d.isAlpha = false) : c ≠ d := ne_of_isAlpha letter plain
  refine ⟨?_, other rfl, other rfl, other rfl⟩
  simp [isBlank, @other ' ' rfl, @other '\t' rfl, @other '\n' rfl, @other '\x0c' rfl,
    @other '\r' rfl, @other '\ufeff' rfl]

/-- A word in front of a text that does not go on with it is a token. -/
theorem next?_word
    {c : Char}
    {more rest : List Char}
    (letter : c.isAlpha = true)
    (inside : ∀ d ∈ more, isNameChar d = true)
    (apart : Apart rest) :
    next? (c :: more ++ rest) = some (.word (String.ofList (c :: more)), rest) := by
  have other {d : Char} (plain : d.isAlpha = false) : c ≠ d := ne_of_isAlpha letter plain
  have start : isNameStart c = true := by simp [isNameStart, letter]
  have stop : ∀ d ∈ rest.head?, isNameChar d = false := fun d member => (apart d member).1
  have unquoted : ∀ d ∈ (more ++ rest).head?, d ≠ '\'' := by
    intro d member
    cases more with
    | nil => exact (apart d member).2.1
    | cons e more =>
        cases member
        rintro rfl
        exact absurd (inside _ List.mem_cons_self) (by decide)
  rw [List.cons_append]
  simp [next?, blob?_eq_none unquoted, @other '\'' rfl, @other '"' rfl, @other '[' rfl,
    @other '?' rfl, @other '.' rfl, other (d := Char.ofNat 96) rfl, isDigit_of_isAlpha letter, start,
    Lists.takeWhile_append_of_head inside stop, Lists.dropWhile_append_of_head inside stop]

/-- A word in front of a text that does not go on with it is found first. -/
theorem Scans.word
    {rest : List Char}
    {tokens : List Token}
    (scans : Scans rest tokens)
    (text : String)
    (word : isWord text.toList = true)
    (apart : Apart rest) :
    Scans (text.toList ++ rest) (.word text :: tokens) := by
  obtain ⟨c, more, same⟩ : ∃ c more, text.toList = c :: more :=
    List.exists_cons_of_ne_nil fun empty => by simp [empty, isWord] at word
  rw [same, isWord, Bool.and_eq_true, List.all_eq_true] at word
  obtain ⟨letter, inside⟩ := word
  have first := next?_word letter inside apart
  rw [← same, String.ofList_toList, same] at first
  rw [same]
  refine scans.token (isFront_of_isAlpha letter) ?_ first
  rw [List.mem_cons, not_or]
  exact ⟨(ne_of_isAlpha letter rfl).symm, fun member => absurd (inside _ member) (by decide)⟩

/-- A sign that is no part of a longer one. -/
def isSign (c : Char) : Bool := "(),*".toList.contains c

theorem mem_of_isSign
    {c : Char}
    (sign : isSign c = true) :
    c = '(' ∨ c = ')' ∨ c = ',' ∨ c = '*' := by
  simpa [isSign] using sign

theorem isFront_of_isSign
    {c : Char}
    (sign : isSign c = true) :
    IsFront c := by
  rcases mem_of_isSign sign with rfl | rfl | rfl | rfl <;> simp [IsFront, isBlank]

/-- A sign is a token. -/
theorem next?_sign
    {c : Char}
    (sign : isSign c = true)
    (rest : List Char) :
    next? (c :: rest) = some (.sign (String.singleton c), rest) := by
  rcases mem_of_isSign sign with rfl | rfl | rfl | rfl <;>
    simp [next?, blob?_eq_none_of_ne, isNameStart, sign?]

/-- A sign in front of a text is found first. -/
theorem Scans.sign
    {c : Char}
    {rest : List Char}
    {tokens : List Token}
    (scans : Scans rest tokens)
    (sign : isSign c = true) :
    Scans (c :: rest) (.sign (String.singleton c) :: tokens) := by
  have first : next? (c :: [] ++ rest) = some (.sign (String.singleton c), rest) :=
    next?_sign sign rest
  refine scans.token (isFront_of_isSign sign) ?_ first
  rcases mem_of_isSign sign with rfl | rfl | rfl | rfl <;> simp

/-- An equals sign in front of a text that does not go on with another is found first. -/
theorem Scans.equals
    {rest : List Char}
    {tokens : List Token}
    (scans : Scans rest tokens)
    (apart : Apart rest) :
    Scans ('=' :: rest) (.sign "=" :: tokens) := by
  have first : next? ('=' :: [] ++ rest) = some (.sign "=", rest) := by
    cases rest with
    | nil => rfl
    | cons c rest =>
        obtain ⟨-, -, different⟩ := apart c rfl
        simp [next?, blob?_eq_none_of_ne, isNameStart, sign?, different]
  exact scans.token (by simp [IsFront, isBlank]) (by simp) first

/-- An unequal sign in front of a text is found first. -/
theorem Scans.differs
    {rest : List Char}
    {tokens : List Token}
    (scans : Scans rest tokens) :
    Scans ('!' :: '=' :: rest) (.sign "<>" :: tokens) := by
  have first : next? ('!' :: ['='] ++ rest) = some (.sign "<>", rest) := by
    simp [next?, blob?_eq_none_of_ne, isNameStart, sign?]
  exact scans.token (by simp [IsFront, isBlank]) (by simp) first

/-- Bars in front of a text are found first. -/
theorem Scans.bars
    {rest : List Char}
    {tokens : List Token}
    (scans : Scans rest tokens) :
    Scans ('|' :: '|' :: rest) (.sign "||" :: tokens) := by
  have first : next? ('|' :: ['|'] ++ rest) = some (.sign "||", rest) := by
    simp [next?, blob?_eq_none_of_ne, isNameStart, sign?]
  exact scans.token (by simp [IsFront, isBlank]) (by simp) first

/-- A point in front of a text that does not begin with a digit is found first. -/
theorem Scans.point
    {rest : List Char}
    {tokens : List Token}
    (scans : Scans rest tokens)
    (undigit : ∀ c ∈ rest.head?, c.isDigit = false) :
    Scans ('.' :: rest) (.sign "." :: tokens) := by
  have plain : (rest.head?.map Char.isDigit).getD false = false := by
    cases rest with
    | nil => rfl
    | cons c rest => exact undigit c rfl
  have first : next? ('.' :: [] ++ rest) = some (.sign ".", rest) := by
    simp [next?, blob?_eq_none_of_ne, plain]
  exact scans.token (by simp [IsFront, isBlank]) (by simp) first

/-! ## Numbers -/

theorem null_not_mem_toString (n : Nat) : '\x00' ∉ (toString n).toList := fun member =>
  NumberLiteral.ne_of_isDigit (NumberLiteral.isDigit_of_mem_toString member) rfl rfl

/-- A parameter in front of a text that does not go on with it is found first. -/
theorem Scans.parameter
    {rest : List Char}
    {tokens : List Token}
    (scans : Scans rest tokens)
    (number : Nat)
    (apart : Apart rest) :
    Scans ('?' :: (toString number).toList ++ rest) (.parameter (some number) :: tokens) := by
  have digit : ∀ c ∈ (toString number).toList, c.isDigit = true :=
    fun c => NumberLiteral.isDigit_of_mem_toString
  have stop : ∀ c ∈ rest.head?, c.isDigit = false := by
    intro c member
    have plain := (apart c member).1
    simp only [isNameChar, Bool.or_eq_false_iff] at plain
    exact plain.1.2
  have value := NumberLiteral.ofDigits_toString number
  have anyDigit := NumberLiteral.toString_ne_nil number
  have noNull := null_not_mem_toString number
  generalize (toString number).toList = digits at *
  have first : next? ('?' :: digits ++ rest) = some (.parameter (some number), rest) := by
    simp [next?, blob?_eq_none_of_ne, Lists.takeWhile_append_of_head digit stop,
      Lists.dropWhile_append_of_head digit stop, anyDigit, value]
  exact scans.token (by simp [IsFront, isBlank]) (by simp [noNull]) first

/-- What stands behind a number does not go on with it. -/
def Ends (rest : List Char) : Prop := ∀ c ∈ rest.head?, isNameChar c = false ∧ c ≠ '.'

theorem read?_append
    {digits rest : List Char}
    (digit : ∀ c ∈ digits, c.isDigit = true)
    (anyDigit : digits ≠ [])
    (ends : Ends rest) :
    NumberLiteral.read? (digits ++ rest) =
      some (⟨false, NumberLiteral.ofDigits digits, 0, true⟩, rest) := by
  have stop : ∀ c ∈ rest.head?, c.isDigit = false := by
    intro c member
    have plain := (ends c member).1
    simp only [isNameChar, Bool.or_eq_false_iff] at plain
    exact plain.1.2
  have unsigned : NumberLiteral.sign (digits ++ rest) = (false, digits ++ rest) := by
    cases digits with
    | nil => exact absurd rfl anyDigit
    | cons c more =>
        have first := digit c List.mem_cons_self
        exact NumberLiteral.sign_of_isDigit first _
  have unscaled : NumberLiteral.exponent? rest = none := by
    cases rest with
    | nil => rfl
    | cons c rest =>
        have plain := (ends c rfl).1
        have small : c ≠ 'e' := by rintro rfl; exact absurd plain (by decide)
        have capital : c ≠ 'E' := by rintro rfl; exact absurd plain (by decide)
        simp [NumberLiteral.exponent?, small, capital]
  have unpointed : ∀ more, rest ≠ '.' :: more := by
    rintro more rfl
    exact (ends '.' rfl).2 rfl
  simp [NumberLiteral.read?, unsigned, Lists.takeWhile_append_of_head digit stop,
    Lists.dropWhile_append_of_head digit stop, anyDigit, unscaled]

/-- A whole number in front of a text that does not go on with it is found first. -/
theorem Scans.number
    {rest : List Char}
    {tokens : List Token}
    (scans : Scans rest tokens)
    (n : Nat)
    (ends : Ends rest) :
    Scans ((toString n).toList ++ rest) (.number ⟨false, n, 0, true⟩ :: tokens) := by
  have digit : ∀ c ∈ (toString n).toList, c.isDigit = true :=
    fun c => NumberLiteral.isDigit_of_mem_toString
  have read := read?_append digit (NumberLiteral.toString_ne_nil n) ends
  rw [NumberLiteral.ofDigits_toString] at read
  have noNull := null_not_mem_toString n
  cases digits : (toString n).toList with
  | nil => exact absurd digits (NumberLiteral.toString_ne_nil n)
  | cons c more =>
      rw [digits] at digit read noNull
      have first := digit c List.mem_cons_self
      have other {d : Char} (plain : d.isDigit = false) : c ≠ d :=
        NumberLiteral.ne_of_isDigit first plain
      have alone : (rest.head?.map isNameChar).getD false = false := by
        cases rest with
        | nil => rfl
        | cons d rest => exact (ends d rfl).1
      have found : next? (c :: more ++ rest) = some (.number ⟨false, n, 0, true⟩, rest) := by
        rw [List.cons_append] at read ⊢
        simp [next?, blob?_eq_none_of_ne (@other 'x' rfl) (@other 'X' rfl), @other '\'' rfl,
          @other '"' rfl, @other '[' rfl, @other '?' rfl, @other '.' rfl,
          other (d := Char.ofNat 96) rfl, first, number?, read, alone]
      have solid : isBlank c = false := by
        simp [isBlank, @other ' ' rfl, @other '\t' rfl, @other '\n' rfl, @other '\x0c' rfl,
          @other '\r' rfl, @other '\ufeff' rfl]
      exact scans.token ⟨solid, other rfl, other rfl, other rfl⟩ noNull found

/-- A whole number at the end of a text is its last token. -/
theorem scans_number (n : Nat) : Scans (toString n).toList [.number ⟨false, n, 0, true⟩] := by
  have scans := Scans.nil.number n fun c member => nomatch member
  rwa [List.append_nil] at scans

/-! ## Texts -/

/-- A text without quotes is read up to its closing quote. -/
theorem quoted?_append
    {text rest : List Char}
    (plain : '\'' ∉ text)
    (ends : ∀ c ∈ rest.head?, c ≠ '\'') :
    quoted? '\'' (text ++ '\'' :: rest) = some (text, rest) := by
  induction text with
  | nil =>
      cases rest with
      | nil => rfl
      | cons c rest => simp [quoted?, ends c rfl]
  | cons c text inductionHypothesis =>
      rw [List.mem_cons, not_or] at plain
      have read := inductionHypothesis plain.2
      cases same : text ++ '\'' :: rest with
      | nil => simp at same
      | cons d more =>
          rw [same] at read
          simp [same, quoted?, Ne.symm plain.1, read]

/-- A quoted text in front of a text that does not begin with a quote is found first. -/
theorem Scans.quoted
    {rest : List Char}
    {tokens : List Token}
    (scans : Scans rest tokens)
    (text : String)
    (plain : '\'' ∉ text.toList)
    (noNull : '\x00' ∉ text.toList)
    (apart : Apart rest) :
    Scans ('\'' :: text.toList ++ '\'' :: rest) (.value (.text text) :: tokens) := by
  have read := quoted?_append plain fun c member => (apart c member).2.1
  have first : next? ('\'' :: (text.toList ++ ['\'']) ++ rest) =
      some (.value (.text text), rest) := by
    simp [next?, blob?_eq_none_of_ne, read]
  have whole := scans.token (by simp [IsFront, isBlank]) (by simp [noNull]) first
  simpa using whole

/-! ## Words one after the other -/

/-- Words with blanks behind them, in front of a text. -/
theorem Scans.words
    {rest : List Char}
    {tokens : List Token}
    (scans : Scans rest tokens)
    (words : List String)
    (each : words.all (fun word => isWord word.toList) = true) :
    Scans (words.flatMap (fun word => word.toList ++ [' ']) ++ rest)
      (words.map Token.word ++ tokens) := by
  induction words with
  | nil => exact scans
  | cons word words inductionHypothesis =>
      rw [List.all_cons, Bool.and_eq_true] at each
      have later := (inductionHypothesis each.2).blank
      have apart : Apart (' ' :: (words.flatMap (fun word => word.toList ++ [' ']) ++ rest)) := by
        rintro c ⟨⟩
        decide
      simpa using later.word word each.1 apart

end Token
end Sql
end BlockSearch
