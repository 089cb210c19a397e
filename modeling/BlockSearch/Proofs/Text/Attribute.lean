import BlockSearch.Proofs.Text.Blank
import BlockSearch.Proofs.Text.Occurrence
import BlockSearch.Text.Attribute

/-!
# Attribute lists read back

The references in a written value are undone for one character after the other. The ampersand is
the last of them, so nothing that was undone before is taken for a reference. A list of pairs is
read back as it is exactly when each name can be told from what stands around it.
-/

namespace BlockSearch
namespace Attribute

variable {c d : Char} {kept : List Char}

/-! ## Values -/

/-- The characters that are written as references. -/
def IsSpecial (c : Char) : Prop := c = '&' ∨ c = '<' ∨ c = '>' ∨ c = '"'

theorem escapeChar_of_not_isSpecial (plain : ¬ IsSpecial c) : escapeChar c = [c] := by
  simp only [IsSpecial, not_or] at plain
  simp [escapeChar, plain]

/-- A reference begins with an ampersand, and another one does not follow in it. -/
theorem IsSpecial.exists_body
    (special : IsSpecial c) :
    ∃ body, escapeChar c = '&' :: body ∧ '&' ∉ body := by
  rcases special with rfl | rfl | rfl | rfl
  · exact ⟨"amp;".toList, rfl, by decide⟩
  · exact ⟨"lt;".toList, rfl, by decide⟩
  · exact ⟨"gt;".toList, rfl, by decide⟩
  · exact ⟨"quot;".toList, rfl, by decide⟩

/-- A text that begins with one reference does not begin with another one. -/
theorem IsSpecial.not_prefix
    (special : IsSpecial d)
    (other : c ≠ d)
    (text : List Char) :
    ¬ escapeChar d <+: escapeChar c ++ text := by
  by_cases written : IsSpecial c
  · rcases special with rfl | rfl | rfl | rfl <;> rcases written with rfl | rfl | rfl | rfl <;>
      simp_all [escapeChar]
  · obtain ⟨body, reference, -⟩ := special.exists_body
    rw [escapeChar_of_not_isSpecial written, reference, List.singleton_append,
      List.cons_prefix_cons]
    rintro ⟨rfl, -⟩
    exact written (.inl rfl)

/-- The way a character is written while some special characters stand as they are. -/
def escapeBut (kept : List Char) (c : Char) : List Char := if c ∈ kept then [c] else escapeChar c

/-- Undoing the references to one character leaves those to the other characters. -/
theorem replace_escapeChar
    (special : IsSpecial d)
    (fresh : d ∉ kept)
    (last : '&' ∉ kept)
    (value : List Char) :
    Text.replace (escapeChar d) [d] (value.flatMap (escapeBut kept)) =
      value.flatMap (escapeBut (d :: kept)) := by
  obtain ⟨body, reference, -⟩ := special.exists_body
  have nonempty : escapeChar d ≠ [] := by simp [reference]
  induction value with
  | nil => exact Text.replace_nil nonempty
  | cons c value inductionHypothesis =>
      rw [List.flatMap_cons, List.flatMap_cons, ← inductionHypothesis]
      by_cases same : c = d
      · subst same
        have before : escapeBut kept c = escapeChar c := if_neg fresh
        have behind : escapeBut (c :: kept) c = [c] := if_pos List.mem_cons_self
        rw [before, behind, Text.replace_append_self nonempty]
      · have unchanged : escapeBut (d :: kept) c = escapeBut kept c := by
          simp [escapeBut, same]
        rw [unchanged]
        by_cases written : IsSpecial c ∧ c ∉ kept
        · -- The reference to another character holds no second ampersand.
          obtain ⟨others, otherReference, single⟩ := written.1.exists_body
          have absent := special.not_prefix same (value.flatMap (escapeBut kept))
          have whole : escapeBut kept c = '&' :: others := by
            rw [escapeBut, if_neg written.2, otherReference]
          rw [otherReference, List.cons_append] at absent
          rw [whole, List.cons_append, Text.replace_cons absent, reference,
            Text.replace_append_of_not_mem single, List.cons_append]
        · have whole : escapeBut kept c = [c] := by
            rw [escapeBut]
            split_ifs with inside
            · rfl
            · exact escapeChar_of_not_isSpecial fun one => written ⟨one, inside⟩
          have notAmpersand : c ≠ '&' := by
            rintro rfl
            exact written ⟨.inl rfl, last⟩
          have absent : '&' ∉ [c] := by simpa using notAmpersand.symm
          rw [whole, reference, Text.replace_append_of_not_mem absent]

theorem unescape_escape (value : List Char) : unescape (escape value) = value := by
  have quote := @replace_escapeChar '"' [] (by simp [IsSpecial]) (by simp) (by simp) value
  have less := @replace_escapeChar '<' ['"'] (by simp [IsSpecial]) (by simp) (by simp) value
  have greater :=
    @replace_escapeChar '>' ['<', '"'] (by simp [IsSpecial]) (by simp) (by simp) value
  have ampersand :=
    @replace_escapeChar '&' ['>', '<', '"'] (by simp [IsSpecial]) (by simp) (by simp) value
  have all : ∀ c, escapeBut ['&', '>', '<', '"'] c = [c] := by
    intro c
    rw [escapeBut]
    split_ifs with inside
    · rfl
    · refine escapeChar_of_not_isSpecial fun special => inside ?_
      rcases special with rfl | rfl | rfl | rfl <;> decide
  calc
    unescape (escape value)
        = Text.replace (escapeChar '&') ['&'] (Text.replace (escapeChar '>') ['>']
            (Text.replace (escapeChar '<') ['<'] (Text.replace (escapeChar '"') ['"']
              (value.flatMap (escapeBut []))))) := rfl
    _ = value.flatMap (escapeBut ['&', '>', '<', '"']) := by rw [quote, less, greater, ampersand]
    _ = value := by rw [funext all, List.flatMap_singleton']

theorem quote_not_mem_escape (value : List Char) : '"' ∉ escape value := by
  intro inside
  obtain ⟨c, -, written⟩ := List.mem_flatMap.1 inside
  by_cases special : IsSpecial c
  · rcases special with rfl | rfl | rfl | rfl <;> exact absurd written (by decide)
  · rw [escapeChar_of_not_isSpecial special, List.mem_singleton] at written
    exact special (.inr (.inr (.inr written.symm)))

/-! ## Names -/

/-- A name that can stand in a list of pairs. -/
structure IsKey (name : String) : Prop where
  /-- It is not empty. -/
  nonempty : name.toList ≠ []
  /-- It has no blank in it. -/
  solid : ∀ c ∈ name.toList, Text.isBlank c = false
  /-- It does not hold the two characters between a name and its value. -/
  whole : ¬ ['=', '"'] <:+: name.toList

theorem isName_iff
    {name : List Char} :
    isName name = true ↔ name ≠ [] ∧ ∀ c ∈ name, Text.isBlank c = false := by
  simp [isName]

theorem isKey_iff
    {name : String} :
    IsKey name ↔
      isName name.toList = true ∧ ¬ Text.contains ['=', '"'] name.toList = true := by
  rw [isName_iff, Text.contains_iff]
  exact ⟨fun isKey => ⟨⟨isKey.nonempty, isKey.solid⟩, isKey.whole⟩,
    fun ⟨⟨nonempty, solid⟩, whole⟩ => ⟨nonempty, solid, whole⟩⟩

instance (name : String) : Decidable (IsKey name) := decidable_of_iff _ isKey_iff.symm

/-- Whatever a text holds, the names that are read from it can stand in a list. -/
theorem isKey_of_mem_readPairs
    {text : List Char}
    {pair : String × String}
    (member : pair ∈ readPairs text) :
    IsKey pair.1 := by
  fun_induction readPairs text with
  | case1 => contradiction
  | case2 => contradiction
  | case3 text before rest foundName value behind _ _ name pairs isName inductionHypothesis =>
      rcases List.mem_cons.1 member with rfl | later
      · obtain ⟨nonempty, solid⟩ := isName_iff.1 isName
        have first := ((Text.cutAt?_cons_eq_some_iff (by decide)).1 foundName).2
        refine ⟨by rwa [String.toList_ofList], by rwa [String.toList_ofList], ?_⟩
        rw [String.toList_ofList]
        exact fun inside => first (inside.trans (Text.trim_infix before))
      · exact inductionHypothesis later
  | case4 _ _ _ _ _ _ _ _ _ pairs _ inductionHypothesis => exact inductionHypothesis member

/-! ## Pairs -/

/-- A name in front of a value is read up to the place where the value begins. -/
theorem readPairs_printPair
    {pair : String × String}
    (isKey : IsKey pair.1)
    (behind : List Char) :
    readPairs (printPair pair ++ behind) = pair :: readPairs (Text.trimStart behind) := by
  have whole : printPair pair ++ behind =
      pair.1.toList ++ '=' :: (['"'] ++ (escape pair.2.toList ++ '"' :: ([] ++ behind))) := by
    simp [printPair]
  have foundName : Text.cutAt? ['=', '"'] (printPair pair ++ behind) =
      some (pair.1.toList, escape pair.2.toList ++ '"' :: ([] ++ behind)) :=
    (Text.cutAt?_cons_eq_some_iff (by decide)).2 ⟨whole, isKey.whole⟩
  have foundValue : Text.cutAt? ['"'] (escape pair.2.toList ++ '"' :: ([] ++ behind)) =
      some (escape pair.2.toList, behind) :=
    (Text.cutAt?_cons_eq_some_iff List.not_mem_nil).2
      ⟨rfl, fun inside => quote_not_mem_escape _ (inside.subset List.mem_cons_self)⟩
  have trimmed : Text.trim pair.1.toList = pair.1.toList :=
    Text.trim_of_ends (fun c first => isKey.solid c (List.mem_of_mem_head? first))
      fun c last => isKey.solid c (List.mem_of_mem_getLast? last)
  have named : isName pair.1.toList = true := isName_iff.2 ⟨isKey.nonempty, isKey.solid⟩
  rw [readPairs]
  split
  · simp_all
  · rename_i name rest found
    rw [foundName] at found
    cases found
    split
    · simp_all
    · rename_i value more foundMore
      rw [foundValue] at foundMore
      cases foundMore
      simp [trimmed, named, unescape_escape]

/-- Pairs side by side begin with a name, so no blank is lost in front of them. -/
theorem trimStart_printPairs
    {pairs : List (String × String)}
    (keys : ∀ pair ∈ pairs, IsKey pair.1) :
    Text.trimStart ([' '].intercalate (pairs.map printPair)) =
      [' '].intercalate (pairs.map printPair) := by
  apply Text.trimStart_of_head
  cases pairs with
  | nil => simp
  | cons pair pairs =>
      have isKey := keys pair List.mem_cons_self
      obtain ⟨c, more, name⟩ := List.exists_cons_of_ne_nil isKey.nonempty
      have first : ∃ behind, [' '].intercalate ((pair :: pairs).map printPair) = c :: behind := by
        cases pairs <;> simp [List.intercalate_cons_cons, printPair, name]
      obtain ⟨behind, written⟩ := first
      rw [written]
      rintro d ⟨⟩
      exact isKey.solid c (by simp [name])

/-- Pairs with a space between two of them are read one after the other. -/
theorem readPairs_printPairs
    {pairs : List (String × String)}
    (keys : ∀ pair ∈ pairs, IsKey pair.1) :
    readPairs ([' '].intercalate (pairs.map printPair)) = pairs := by
  have empty : readPairs [] = [] := by
    rw [readPairs]
    rfl
  induction pairs with
  | nil => exact empty
  | cons pair pairs inductionHypothesis =>
      rw [List.forall_mem_cons] at keys
      cases pairs with
      | nil =>
          have read := readPairs_printPair keys.1 []
          rw [List.append_nil, Text.trimStart, List.dropWhile_nil, empty] at read
          rw [List.map_singleton, List.intercalate_singleton, read]
      | cons next pairs =>
          have read := readPairs_printPair keys.1
            (' ' :: [' '].intercalate ((next :: pairs).map printPair))
          have spaced : Text.trimStart (' ' :: [' '].intercalate ((next :: pairs).map printPair)) =
              [' '].intercalate ((next :: pairs).map printPair) := trimStart_printPairs keys.2
          rw [spaced, inductionHypothesis keys.2] at read
          rw [List.map_cons, List.map_cons, List.intercalate_cons_cons, List.append_assoc,
            List.singleton_append, ← List.map_cons, read]

/-! ## Lists -/

/-- The braces around a list of pairs are taken away, and nothing else. -/
theorem body_print
    {pairs : List (String × String)}
    (keys : ∀ pair ∈ pairs, IsKey pair.1) :
    body (print pairs) = [' '].intercalate (pairs.map printPair) := by
  rw [print]
  split_ifs with empty
  · rw [List.isEmpty_iff.1 empty]
    rfl
  · generalize same : [' '].intercalate (pairs.map printPair) = inside
    have trimmed : Text.trim (['{', ':', ' '] ++ inside ++ ['}']) =
        ['{', ':', ' '] ++ inside ++ ['}'] := by
      apply Text.trim_of_ends
      · rintro c ⟨⟩
        decide
      · rw [List.getLast?_concat]
        rintro c ⟨⟩
        decide
    have stripped : Text.stripStart? ['{', ':'] (['{', ':', ' '] ++ inside ++ ['}']) =
        some (' ' :: inside ++ ['}']) := Text.stripStart?_eq_some_iff.2 rfl
    have spaced : Text.trimStart (' ' :: inside) = inside := by
      rw [← same]
      exact trimStart_printPairs keys
    rw [body, trimmed, stripped]
    simp only [Option.getD_some, List.getLast?_concat, if_true, List.dropLast_concat, spaced]

/--
The names that are read from a text are not empty and hold neither blanks nor what comes between a
name and its value, and these are exactly the names with which pairs are read back, whatever their
values are and however often a name is repeated. So what was read from a text is read back.
-/
theorem keys_read_and_read_print :
    (∀ text, ∀ pair ∈ read text, IsKey pair.1) ∧
      (∀ pairs, read (print pairs) = pairs ↔ ∀ pair ∈ pairs, IsKey pair.1) ∧
        ∀ text, read (print (read text)) = read text := by
  have keys : ∀ text, ∀ pair ∈ read text, IsKey pair.1 :=
    fun text pair member => isKey_of_mem_readPairs member
  have back : ∀ pairs, (∀ pair ∈ pairs, IsKey pair.1) → read (print pairs) = pairs := by
    intro pairs named
    rw [read, body_print named, readPairs_printPairs named]
  refine ⟨keys, fun pairs => ⟨fun same => ?_, back pairs⟩, fun text => back _ (keys text)⟩
  rw [← same]
  exact keys (print pairs)

/-- A name may hold signs that stand elsewhere in a list, and a value may hold anything. -/
example :
    read (print [("a=", "\"&quot;\x7d"), ("\x7b:", " = "), ("a=", "")]) =
      [("a=", "\"&quot;\x7d"), ("\x7b:", " = "), ("a=", "")] := by
  decide +kernel

end Attribute
end BlockSearch
