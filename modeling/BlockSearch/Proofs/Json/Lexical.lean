import BlockSearch.Json.Printer
import BlockSearch.Json.Token
import BlockSearch.Proofs.Decimal.Digits
import BlockSearch.Proofs.Lists
import Mathlib.Data.List.Basic
import Mathlib.Tactic.SplitIfs

/-!
# Reading written tokens

A quoted text and a natural number are each read back as one token, whatever follows a text
and whatever may follow a number.
-/

namespace BlockSearch
namespace Json
namespace Token

/-! ## Texts -/

/-- A digit that is written for a value below sixteen is read as that value. -/
theorem hexValue?_lowerHexDigit
    {n : Nat}
    (small : n < 16) :
    Text.hexValue? (Text.lowerHexDigit n) = some n := by
  revert n
  decide

/-- A control character is read back from its four digits. -/
theorem unicodeEscape?_control
    {c : Char}
    (control : c.toNat < 32)
    (rest : List Char) :
    unicodeEscape? ('0' :: '0' :: Text.lowerHexDigit (c.toNat / 16) ::
      Text.lowerHexDigit (c.toNat % 16) :: rest) = some (c, rest) := by
  have high := hexValue?_lowerHexDigit (show c.toNat / 16 < 16 by omega)
  have low := hexValue?_lowerHexDigit (show c.toNat % 16 < 16 by omega)
  have zero : Text.hexValue? '0' = some 0 := by decide
  have value : 0 * 4096 + 0 * 256 + c.toNat / 16 * 16 + c.toNat % 16 = c.toNat := by omega
  have below : c.toNat < 0xD800 := by omega
  simp only [unicodeEscape?, hex4?, zero, high, low, Option.bind_eq_bind, Option.bind_some, value,
    below, true_or, if_true, Char.ofNat_toNat]

/-- A written character is read back, and takes one step. -/
theorem stringBody?_escapeChar
    (fuel : Nat)
    (read : List Char)
    (c : Char)
    (rest : List Char) :
    stringBody? (fuel + 1) read (escapeChar c ++ rest) = stringBody? fuel (c :: read) rest := by
  unfold escapeChar
  split_ifs with quote backslash backspace formFeed lineFeed carriageReturn tab control
  · subst quote
    rfl
  · subst backslash
    rfl
  · subst backspace
    rfl
  · subst formFeed
    rfl
  · subst lineFeed
    rfl
  · subst carriageReturn
    rfl
  · subst tab
    rfl
  · have escape := unicodeEscape?_control control rest
    simp [stringBody?, escape]
  · simp [stringBody?, quote, backslash, control]

/-- A written text is read up to its closing quote. -/
theorem stringBody?_flatMap_escapeChar
    (text : List Char)
    {fuel : Nat}
    (enough : text.length < fuel)
    (read : List Char)
    (rest : List Char) :
    stringBody? fuel read (text.flatMap escapeChar ++ '"' :: rest) =
      some (String.ofList (read.reverse ++ text), rest) := by
  induction text generalizing fuel read with
  | nil =>
      obtain ⟨fuel, rfl⟩ := Nat.exists_eq_add_one_of_ne_zero (Nat.ne_zero_of_lt enough)
      simp [stringBody?]
  | cons c text inductionHypothesis =>
      obtain ⟨fuel, rfl⟩ := Nat.exists_eq_add_one_of_ne_zero (Nat.ne_zero_of_lt enough)
      rw [List.flatMap_cons, List.append_assoc, stringBody?_escapeChar,
        inductionHypothesis (by simpa using enough)]
      simp

theorem escapeChar_ne_nil (c : Char) : escapeChar c ≠ [] := by
  unfold escapeChar
  split_ifs <;> simp

theorem length_le_length_flatMap_escapeChar (text : List Char) :
    text.length ≤ (text.flatMap escapeChar).length := by
  induction text with
  | nil => simp
  | cons c text inductionHypothesis =>
      have positive := List.length_pos_iff.2 (escapeChar_ne_nil c)
      rw [List.flatMap_cons, List.length_append, List.length_cons]
      omega

/-- A quoted text is one token. -/
theorem next?_quoted
    (text : String)
    (rest : List Char) :
    next? (quoted text ++ rest) = some (.string text, rest) := by
  have long := length_le_length_flatMap_escapeChar text.toList
  have enough :
      text.toList.length < (text.toList.flatMap escapeChar ++ '"' :: rest).length + 1 := by
    rw [List.length_append]
    omega
  have body := stringBody?_flatMap_escapeChar text.toList enough [] rest
  simp only [quoted, List.cons_append, List.append_assoc, List.nil_append, next?, body,
    Option.map_some, List.reverse_nil, String.ofList_toList]

/-! ## Numbers -/

/-- What stands behind a written value: nothing, a new line or a comma. -/
def Ends (rest : List Char) : Prop := ∀ c ∈ rest.head?, c = '\n' ∨ c = ','

theorem digits?_append
    {digits rest : List Char}
    (digit : ∀ c ∈ digits, c.isDigit = true)
    (anyDigit : digits ≠ [])
    (ends : ∀ c ∈ rest.head?, c.isDigit = false) :
    digits? (digits ++ rest) = some (digits, rest) := by
  simp [digits?, Lists.takeWhile_append_of_head digit ends, Lists.dropWhile_append_of_head digit ends,
    anyDigit]

theorem Ends.not_digit
    {rest : List Char}
    (ends : Ends rest) :
    ∀ c ∈ rest.head?, c.isDigit = false := by
  intro c first
  rcases ends c first with rfl | rfl <;> rfl

theorem integer?_toDigits
    (n : Nat)
    {rest : List Char}
    (ends : Ends rest) :
    integer? (Nat.toDigits 10 n ++ rest) = some (Nat.toDigits 10 n, rest) := by
  rcases Nat.eq_zero_or_pos n with rfl | positive
  · rfl
  · have digit : ∀ c ∈ Nat.toDigits 10 n, c.isDigit = true := fun c member =>
      Nat.isDigit_of_mem_toDigits (by omega) (by omega) member
    have read := digits?_append digit Nat.toDigits_ne_nil ends.not_digit
    have first := NumberLiteral.head?_toDigits_ne_zero positive
    cases digits : Nat.toDigits 10 n with
    | nil => exact absurd digits Nat.toDigits_ne_nil
    | cons c cs =>
        rw [digits] at read first
        have notZero : c ≠ '0' := by simpa using first
        simpa [integer?, notZero] using read

theorem fraction?_of_ends
    {rest : List Char}
    (ends : Ends rest) :
    fraction? rest = some ([], rest) := by
  cases rest with
  | nil => rfl
  | cons c rest => rcases ends c rfl with rfl | rfl <;> rfl

theorem exponent?_of_ends
    {rest : List Char}
    (ends : Ends rest) :
    exponent? rest = some ([], rest) := by
  cases rest with
  | nil => rfl
  | cons c rest => rcases ends c rfl with rfl | rfl <;> rfl

theorem magnitude?_toDigits
    (n : Nat)
    {rest : List Char}
    (ends : Ends rest) :
    magnitude? (Nat.toDigits 10 n ++ rest) = some (Nat.toDigits 10 n, rest) := by
  simp [magnitude?, integer?_toDigits n ends, fraction?_of_ends ends, exponent?_of_ends ends]

/-- A text that begins with a digit begins with a number. -/
theorem next?_digit
    {c : Char}
    (digit : c.isDigit = true)
    (rest : List Char) :
    next? (c :: rest) =
      (magnitude? (c :: rest)).map fun part => (.number (String.ofList part.1), part.2) := by
  have other {d : Char} (plain : d.isDigit = false) : c ≠ d :=
    NumberLiteral.ne_of_isDigit digit plain
  simp [next?, number?, @other '[' rfl, @other ']' rfl, @other '{' rfl, @other '}' rfl,
    @other ',' rfl, @other ':' rfl, @other '"' rfl, @other 'n' rfl, @other 't' rfl, @other 'f' rfl,
    @other '-' rfl]

theorem isSpace_of_isDigit
    {c : Char}
    (digit : c.isDigit = true) :
    isSpace c = false := by
  have other {d : Char} (plain : d.isDigit = false) : c ≠ d :=
    NumberLiteral.ne_of_isDigit digit plain
  simp [isSpace, @other ' ' rfl, @other '\n' rfl, @other '\t' rfl, @other '\r' rfl]

/-- A natural number is one token. -/
theorem next?_toDigits
    (n : Nat)
    {rest : List Char}
    (ends : Ends rest) :
    next? ((toString n).toList ++ rest) = some (.number (toString n), rest) := by
  have text : (toString n).toList = Nat.toDigits 10 n := Nat.toList_repr
  have number : String.ofList (Nat.toDigits 10 n) = toString n := Nat.repr_eq_ofList_toDigits.symm
  have read := magnitude?_toDigits n ends
  have digit : ∀ c ∈ Nat.toDigits 10 n, c.isDigit = true := fun c member =>
    Nat.isDigit_of_mem_toDigits (by omega) (by omega) member
  rw [text, ← number]
  cases digits : Nat.toDigits 10 n with
  | nil => exact absurd digits Nat.toDigits_ne_nil
  | cons c cs =>
      rw [digits] at read digit
      rw [List.cons_append, next?_digit (digit c List.mem_cons_self), ← List.cons_append, read]
      rfl

/-! ## Scanning -/

/-- Scanning a text with enough fuel finds tokens. -/
def Scans (text : List Char) (tokens : List Token) : Prop :=
  ∀ fuel, text.length ≤ fuel → scan? fuel text = some tokens

theorem Scans.nil : Scans [] [] := by
  intro fuel enough
  cases fuel <;> rfl

/-- Space in front of a text is passed over. -/
theorem Scans.space
    {rest : List Char}
    {tokens : List Token}
    (scans : Scans rest tokens)
    (c : Char)
    (space : isSpace c = true) :
    Scans (c :: rest) tokens := by
  intro fuel enough
  cases fuel with
  | zero => simp at enough
  | succ fuel =>
      have scanned := scans (fuel + 1) (by rw [List.length_cons] at enough; omega)
      rw [scan?] at scanned ⊢
      rwa [List.dropWhile_cons_of_pos space]

/-- Space in front of a text is passed over. -/
theorem Scans.spaces
    {rest : List Char}
    {tokens : List Token}
    (scans : Scans rest tokens)
    {spaces : List Char}
    (space : ∀ c ∈ spaces, isSpace c = true) :
    Scans (spaces ++ rest) tokens := by
  induction spaces with
  | nil => exact scans
  | cons c spaces inductionHypothesis =>
      refine Scans.space ?_ c (space c List.mem_cons_self)
      exact inductionHypothesis fun c member => space c (List.mem_cons_of_mem _ member)

/-- A token in front of a text is found first. -/
theorem Scans.token
    {rest : List Char}
    {tokens : List Token}
    (scans : Scans rest tokens)
    (c : Char)
    (text : List Char)
    (token : Token)
    (first : next? (c :: text ++ rest) = some (token, rest))
    (solid : isSpace c = false) :
    Scans (c :: text ++ rest) (token :: tokens) := by
  intro fuel enough
  cases fuel with
  | zero => simp at enough
  | succ fuel =>
      have shorter : rest.length ≤ fuel := by
        rw [List.length_append, List.length_cons] at enough
        omega
      have drop : (c :: text ++ rest).dropWhile isSpace = c :: text ++ rest := by
        simp [solid]
      rw [scan?, drop, first]
      simp [scans fuel shorter]

end Token
end Json
end BlockSearch
