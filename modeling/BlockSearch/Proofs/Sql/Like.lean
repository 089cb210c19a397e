import BlockSearch.Proofs.Text.Folding
import BlockSearch.Proofs.Text.Occurrence
import BlockSearch.Sql.Like

/-!
# Patterns for beginnings and parts

A pattern that is an escaped text and a percent sign asks whether a text begins with another
one, up to ASCII case. All that is special in a pattern is taken literally behind the escape
character. A null character is not: it ends the pattern before the percent sign, and what is
left asks for the whole text before the null character.

A pattern that is a text between percent signs, without an escape character, asks whether a text
holds another one only if nothing in the other one is special.
-/

namespace BlockSearch
namespace Sql
namespace Like

open Text (seen)

/-- What two characters are compared by: the character that is seen, in lower case. -/
def key (c : Char) : Char := (seen c).toLower

/--
A text begins as a pattern for beginnings asks for. A beginning with a null character is cut
there, and all that is read of the text must be what is left of it.
-/
def Begins (beginning text : List Char) : Prop :=
  if '\x00' ∈ beginning then
    (read text).map Char.toLower = (read beginning).map Char.toLower
  else beginning.map key <+: text.map key

instance (beginning text : List Char) : Decidable (Begins beginning text) := by
  unfold Begins
  infer_instance

/-! ## Texts that stand for themselves -/

theorem escaped_cons (c : Char) (text : List Char) :
    escaped (c :: text) =
      (if c = '%' || c = '_' || c = '\\' then ['\\', c] else [c]) ++ escaped text := by
  rw [escaped, List.flatMap_cons]
  rfl

theorem escaped_append (front back : List Char) :
    escaped (front ++ back) = escaped front ++ escaped back := by
  rw [escaped, List.flatMap_append]
  rfl

/-- A special character is seen as it is, and no other character is seen as one. -/
theorem seen_eq_iff
    {c special : Char}
    (plain : special ≠ '\ufffd' ∧ special ≠ '\ufffe' ∧ special ≠ '\uffff') :
    seen c = special ↔ c = special := by
  rw [seen]
  split_ifs with replaced
  · rw [Bool.or_eq_true, decide_eq_true_iff, decide_eq_true_iff] at replaced
    constructor
    · exact fun same => absurd same.symm plain.1
    · rintro rfl
      exact (replaced.elim plain.2.1 plain.2.2).elim
  · rfl

/-- What is seen of an escaped text is the escaped text of what is seen. -/
theorem map_seen_escaped (text : List Char) :
    (escaped text).map seen = escaped (text.map seen) := by
  induction text with
  | nil => rfl
  | cons c text inductionHypothesis =>
      have percent := @seen_eq_iff c '%' (by decide)
      have underscore := @seen_eq_iff c '_' (by decide)
      have backslash := @seen_eq_iff c '\\' (by decide)
      have itself : seen '\\' = '\\' := by decide
      rw [List.map_cons, escaped_cons, escaped_cons, List.map_append, inductionHypothesis]
      simp only [percent, underscore, backslash]
      split_ifs
      · rw [List.map_cons, List.map_singleton, itself]
      · rw [List.map_singleton]

theorem parts?_nil (escape : Option Char) : parts? escape [] = some [] := rfl

theorem parts?_of_ne
    {escape : Option Char}
    {c : Char}
    (plain : escape ≠ some c)
    (rest : List Char) :
    parts? escape (c :: rest) = (parts? escape rest).map (Part.ofChar c :: ·) := by
  cases rest <;> exact if_neg plain

theorem parts?_escape
    (escape next : Char)
    (rest : List Char) :
    parts? (some escape) (escape :: next :: rest) =
      (parts? (some escape) rest).map (Part.char next :: ·) := if_pos rfl

/-- The characters of an escaped text stand for themselves in front of any pattern. -/
theorem parts?_escaped_append (text rest : List Char) :
    parts? (some '\\') (escaped text ++ rest) =
      (parts? (some '\\') rest).map (text.map Part.char ++ ·) := by
  induction text with
  | nil => simp [escaped]
  | cons c text inductionHypothesis =>
      rw [escaped_cons, List.append_assoc]
      by_cases special : (c = '%' || c = '_' || c = '\\') = true
      · rw [if_pos special, List.cons_append, List.singleton_append, parts?_escape,
          inductionHypothesis, Option.map_map]
        rfl
      · rw [if_neg special, List.singleton_append]
        simp only [Bool.or_eq_true, decide_eq_true_iff, not_or] at special
        have part : Part.ofChar c = .char c := by
          rw [Part.ofChar, if_neg special.1.1, if_neg special.1.2]
        have plain : some '\\' ≠ some c := fun same => special.2 (Option.some.inj same).symm
        rw [parts?_of_ne plain, part, inductionHypothesis, Option.map_map]
        rfl

/-! ## Forms -/

/-- A text fits characters and what follows when it begins with them, up to case. -/
theorem fits_map_char_append
    {text other : List Char}
    {parts : List Part} :
    fits (text.map Part.char ++ parts) other = true ↔
      ∃ front back, other = front ++ back ∧
        front.map Char.toLower = text.map Char.toLower ∧ fits parts back = true := by
  induction text generalizing other with
  | nil => simp
  | cons c text inductionHypothesis =>
      cases other with
      | nil =>
          rw [List.map_cons, List.cons_append]
          constructor
          · exact nofun
          · rintro ⟨front, back, nothing, same, _⟩
            obtain ⟨rfl, -⟩ := List.append_eq_nil_iff.1 nothing.symm
            exact absurd same (by simp)
      | cons d other =>
          rw [List.map_cons, List.cons_append, fits, Bool.and_eq_true, beq_iff_eq,
            inductionHypothesis]
          constructor
          · rintro ⟨first, front, back, rfl, same, rest⟩
            exact ⟨d :: front, back, rfl, by rw [List.map_cons, List.map_cons, first, same], rest⟩
          · rintro ⟨front, back, split, same, rest⟩
            cases front with
            | nil => exact absurd same (by simp)
            | cons first front =>
                obtain ⟨rfl, rfl⟩ := List.cons.inj split
                obtain ⟨head, tail⟩ := List.cons.inj same
                exact ⟨head.symm, front, back, rfl, tail, rest⟩

theorem fits_anyText (text : List Char) : fits [.anyText] text = true := by
  rw [fits]
  induction text with
  | nil => rfl
  | cons c text inductionHypothesis => rw [someEnd, inductionHypothesis, Bool.or_true]

/-- Characters and any text behind them are fitted by what begins with the characters. -/
theorem fits_beginning
    {text other : List Char} :
    fits (text.map Part.char ++ [.anyText]) other = true ↔
      text.map Char.toLower <+: other.map Char.toLower := by
  rw [fits_map_char_append]
  constructor
  · rintro ⟨front, back, rfl, same, -⟩
    rw [List.map_append, same]
    exact List.prefix_append _ _
  · intro begins
    obtain ⟨back, split⟩ := begins
    obtain ⟨front, rest, rfl, same, -⟩ := List.map_eq_append_iff.1 split.symm
    exact ⟨front, rest, rfl, same, fits_anyText rest⟩

/-- Characters alone are fitted by what is the same, up to case. -/
theorem fits_map_char
    {text other : List Char} :
    fits (text.map Part.char) other = true ↔
      other.map Char.toLower = text.map Char.toLower := by
  rw [← List.append_nil (text.map Part.char), fits_map_char_append]
  constructor
  · rintro ⟨front, back, rfl, same, nothing⟩
    rw [fits, List.isEmpty_iff] at nothing
    rw [nothing, List.append_nil, same]
  · exact fun same => ⟨other, [], (List.append_nil other).symm, same, rfl⟩

/-! ## Beginnings -/

/-- No other character has the key of the null character. -/
theorem key_eq_null_iff
    {c : Char} :
    key c = '\x00' ↔ c = '\x00' := by
  constructor
  · intro same
    exact (seen_eq_iff (by decide)).1 (Text.eq_of_toLower_eq same (by decide))
  · rintro rfl
    decide

/-- A text that begins as a text without null characters does has none there, either. -/
theorem prefix_map_key_beforeNull
    {beginning text : List Char}
    (noNull : '\x00' ∉ beginning) :
    beginning.map key <+: (Text.beforeNull text).map key ↔ beginning.map key <+: text.map key := by
  constructor
  · intro begins
    exact begins.trans ((List.takeWhile_prefix _).map key)
  · rintro ⟨behind, split⟩
    obtain ⟨front, back, rfl, same, -⟩ := List.map_eq_append_iff.1 split.symm
    have frontNoNull : '\x00' ∉ front := by
      intro member
      have found : key '\x00' ∈ beginning.map key := same ▸ List.mem_map_of_mem member
      obtain ⟨c, inside, sameKey⟩ := List.mem_map.1 found
      rw [key_eq_null_iff.2 rfl, key_eq_null_iff] at sameKey
      exact noNull (sameKey ▸ inside)
    rw [Text.beforeNull_append frontNoNull, List.map_append, same]
    exact List.prefix_append _ _

/-- An escaped text has a null character where the text has one. -/
theorem null_mem_escaped
    {text : List Char} :
    '\x00' ∈ escaped text ↔ '\x00' ∈ text := by
  induction text with
  | nil => rfl
  | cons c text inductionHypothesis =>
      rw [escaped_cons, List.mem_append, List.mem_cons, inductionHypothesis]
      split_ifs <;> simp

/-- A pattern for beginnings holds of the texts that begin as it asks for. -/
theorem holds_beginning
    {beginning text : List Char} :
    holds (some '\\') (escaped beginning ++ ['%']) text = true ↔ Begins beginning text := by
  have escape : (some '\\').map seen = some '\\' := rfl
  have keys (list : List Char) : (list.map seen).map Char.toLower = list.map key :=
    List.map_map
  rw [holds, escape, Begins]
  by_cases null : '\x00' ∈ beginning
  · -- The pattern ends before its percent sign, at the first null character.
    obtain ⟨front, back, rfl, noNull⟩ := List.eq_append_cons_of_mem null
    have plain : '\x00' ∉ escaped front := fun member => noNull (null_mem_escaped.1 member)
    have split : escaped (front ++ '\x00' :: back) ++ ['%'] =
        escaped front ++ '\x00' :: (escaped back ++ ['%']) := by
      rw [escaped_append, escaped_cons, List.append_assoc]
      rfl
    have all : parts? (some '\\') (escaped (front.map seen)) =
        some ((front.map seen).map Part.char) := by
      have whole := parts?_escaped_append (front.map seen) []
      rwa [List.append_nil, parts?_nil, Option.map_some, List.append_nil] at whole
    rw [if_pos null, split, read, Text.beforeNull_append_cons plain, map_seen_escaped, all, read,
      read, Text.beforeNull_append_cons noNull]
    exact fits_map_char
  · have whole : '\x00' ∉ escaped beginning ++ ['%'] := by
      simp [null_mem_escaped, null]
    have percent : parts? (some '\\') (['%'].map seen) = some [.anyText] := rfl
    rw [if_neg null, read, Text.beforeNull_eq_self whole, List.map_append, map_seen_escaped,
      parts?_escaped_append, percent, Option.map_some, ← prefix_map_key_beforeNull null]
    rw [← keys, ← keys]
    exact fits_beginning

/-! ## Parts of texts -/

theorem someEnd_iff
    {ends : List Char → Bool}
    {text : List Char} :
    someEnd ends text = true ↔ ∃ back, back <:+ text ∧ ends back = true := by
  induction text with
  | nil => simp [someEnd]
  | cons c text inductionHypothesis =>
      rw [someEnd, Bool.or_eq_true, inductionHypothesis]
      simp only [List.suffix_cons_iff, or_and_right, exists_or, exists_eq_left]

/-- A text fits characters between any texts when it holds them, up to case. -/
theorem fits_holding
    {text other : List Char} :
    fits (.anyText :: (text.map Part.char ++ [.anyText])) other = true ↔
      text.map Char.toLower <:+: other.map Char.toLower := by
  rw [fits, someEnd_iff]
  simp only [fits_beginning]
  rw [List.infix_iff_prefix_suffix]
  constructor
  · rintro ⟨back, behind, begins⟩
    exact ⟨_, begins, behind.map Char.toLower⟩
  · rintro ⟨lower, begins, behind⟩
    obtain ⟨back, split, rfl⟩ := List.suffix_map_iff.1 behind
    exact ⟨back, split, begins⟩

/-- A character that a pattern takes literally, and that is seen for no other. -/
def IsLiteral (c : Char) : Prop :=
  c ≠ '%' ∧ c ≠ '_' ∧ c ≠ '\x00' ∧ c ≠ '\ufffd' ∧ c ≠ '\ufffe' ∧ c ≠ '\uffff'

/-- Characters that are taken literally are the parts of themselves. -/
theorem parts?_literal_append
    {text : List Char}
    (literal : ∀ c ∈ text, IsLiteral c)
    (rest : List Char) :
    parts? none (text ++ rest) = (parts? none rest).map (text.map Part.char ++ ·) := by
  induction text with
  | nil => simp
  | cons c text inductionHypothesis =>
      obtain ⟨noPercent, noUnderscore, -⟩ := literal c List.mem_cons_self
      have part : Part.ofChar c = .char c := by
        rw [Part.ofChar, if_neg noPercent, if_neg noUnderscore]
      have later := inductionHypothesis fun d member => literal d (List.mem_cons_of_mem c member)
      rw [List.cons_append, parts?_of_ne (by simp), part, later, Option.map_map]
      rfl

/-- How a character is seen does not make it the same as one that is taken literally. -/
theorem toLower_seen_eq_iff
    {c d : Char}
    (literal : IsLiteral d) :
    (seen c).toLower = d.toLower ↔ c.toLower = d.toLower := by
  obtain ⟨-, -, -, noReplacement, noFirst, noSecond⟩ := literal
  by_cases replaced : c = '\ufffe' ∨ c = '\uffff'
  · have shown : (seen c).toLower = '\ufffd' ∧ (c.toLower = '\ufffe' ∨ c.toLower = '\uffff') := by
      rcases replaced with rfl | rfl <;> decide
    rw [shown.1]
    constructor
    · exact fun same => absurd (Text.eq_of_toLower_eq same.symm (by decide)) noReplacement
    · intro same
      rcases shown.2 with first | second
      · exact absurd (Text.eq_of_toLower_eq (same.symm.trans first) (by decide)) noFirst
      · exact absurd (Text.eq_of_toLower_eq (same.symm.trans second) (by decide)) noSecond
  · rw [seen, if_neg (by simpa using replaced)]

theorem map_toLower_seen_eq_iff
    {text other : List Char}
    (literal : ∀ c ∈ text, IsLiteral c) :
    (other.map seen).map Char.toLower = text.map Char.toLower ↔
      other.map Char.toLower = text.map Char.toLower := by
  induction text generalizing other with
  | nil => simp
  | cons c text inductionHypothesis =>
      cases other with
      | nil => simp
      | cons d other =>
          have later := @inductionHypothesis other fun e member =>
            literal e (List.mem_cons_of_mem c member)
          simp only [List.map_cons, List.cons.injEq, later,
            toLower_seen_eq_iff (literal c List.mem_cons_self)]

/-- A text of characters that are taken literally, between any texts, is held by the texts in which
it stands up to ASCII case, as far as they are read. -/
theorem holds_holding
    {keyword text : List Char}
    (literal : ∀ c ∈ keyword, IsLiteral c) :
    holds none ('%' :: keyword ++ ['%']) text = true ↔
      keyword.map Char.toLower <:+: (Text.beforeNull text).map Char.toLower := by
  have whole : '\x00' ∉ '%' :: keyword ++ ['%'] := by
    simpa using fun member => (literal _ member).2.2.1 rfl
  have itself : ('%' :: keyword ++ ['%']).map seen = '%' :: keyword ++ ['%'] := by
    have same : keyword.map seen = keyword := by
      refine (List.map_congr_left fun c member => ?_).trans keyword.map_id
      obtain ⟨-, -, -, -, noFirst, noSecond⟩ := literal c member
      rw [seen, if_neg (by simp [noFirst, noSecond]), id]
    simp [same, show seen '%' = '%' by decide]
  have parts : parts? none ('%' :: keyword ++ ['%']) =
      some (.anyText :: (keyword.map Part.char ++ [.anyText])) := by
    have last : parts? none ['%'] = some [.anyText] := rfl
    rw [List.cons_append, parts?_of_ne (by simp), parts?_literal_append literal, last]
    rfl
  rw [holds, read, Text.beforeNull_eq_self whole, itself, Option.map_none, parts]
  dsimp only
  rw [fits_holding, read]
  simp only [List.infix_map_iff]
  constructor
  · rintro ⟨shown, ⟨other, inside, rfl⟩, same⟩
    exact ⟨other, inside, ((map_toLower_seen_eq_iff literal).1 same.symm).symm⟩
  · rintro ⟨other, inside, same⟩
    exact ⟨_, ⟨other, inside, rfl⟩, ((map_toLower_seen_eq_iff literal).2 same.symm).symm⟩

end Like
end Sql
end BlockSearch
