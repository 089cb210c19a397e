import BlockSearch.Proofs.Decimal.Digits
import BlockSearch.Proofs.Library.Path
import BlockSearch.Proofs.Toml.Quoted
import BlockSearch.Toml.Table
import Mathlib.Data.List.Nodup

/-!
# Reading written lines

A written document is put together from its end: a line in front of others is read first,
whatever lines follow it. Lines are those of keys with values, headers of tables, and empty ones.

The lines behind a header fill the table of that header and leave everything else as it is.
-/

namespace BlockSearch
namespace Toml

section

variable {members : Members} {key : String}

/-! ## Keys -/

theorem find?_eq_none_iff : find? members key = none ↔ ∀ named ∈ members, named.1 ≠ key := by
  simp [find?]

theorem find?_append_cons
    (absent : find? members key = none)
    (value : Toml)
    (back : Members) :
    find? (members ++ (key, value) :: back) key = some value := by
  rw [find?, Option.map_eq_none_iff] at absent
  simp [find?, List.find?_append, absent]

/-- The value of a key that stands last is replaced by another one. -/
theorem replaceValue_append_singleton
    (absent : find? members key = none)
    (old new : Toml) :
    replaceValue (members ++ [(key, old)]) key new = members ++ [(key, new)] := by
  have others : replaceValue members key new = members :=
    (List.map_congr_left fun named member =>
      if_neg (by simpa using find?_eq_none_iff.1 absent named member)).trans (List.map_id' members)
  rw [replaceValue, List.map_append, ← replaceValue, others]
  simp

/-! ## Places -/

/-- A change at the end of a path is one in the table that the front of the path leads to. -/
theorem inside?_append
    (dotted : Bool)
    (change : TableForm → Members → Option Members)
    (outer inner : List String)
    (form : TableForm)
    (members : Members) :
    inside? dotted change (outer ++ inner) form members =
      inside? dotted (inside? dotted change inner) outer form members := by
  induction outer generalizing form members with
  | nil => rfl
  | cons key outer inductionHypothesis =>
      rw [List.cons_append, inside?, inside?]
      simp only [inductionHypothesis]

/--
A document built around a table with a header, and the path to that table: what is changed at the
end of the path is changed in the table.
-/
def Focus (build : Members → Members) (place : List String) : Prop :=
  ∀ change members,
    inside? false change place .header (build members) = (change .header members).map build

theorem Focus.document : Focus id [] := by
  intro change members
  rw [inside?, id, Option.map_id]
  rfl

variable {build : Members → Members} {place : List String}

/-- A table that stands last in another one can be changed. -/
theorem Focus.table
    (focus : Focus build place)
    (absent : find? members key = none) :
    Focus (fun inner => build (members ++ [(key, .table .header inner)])) (place ++ [key]) := by
  intro change inner
  rw [inside?_append, focus, inside?, find?_append_cons absent]
  change Option.map build (Option.map _ (inside? false change [] .header inner)) = _
  simp only [inside?, replaceValue_append_singleton absent, Option.map_map, Function.comp_def]

/-- A header adds an empty table. -/
theorem Focus.add?_header
    (focus : Focus build place)
    (absent : find? members key = none)
    (before : List String) :
    Draft.add? ⟨build members, before⟩ (.header place key) =
      some ⟨build (members ++ [(key, .table .header [])]), place ++ [key]⟩ := by
  simp [Draft.add?, addTable?, focus _ members, absent, insertNew?]

/-- A key with its value is added to the table. -/
theorem Focus.add?_assignment
    (focus : Focus build place)
    (absent : find? members key = none)
    (value : Toml) :
    Draft.add? ⟨build members, place⟩ (.assignment [] key value) =
      some ⟨build (members ++ [(key, value)]), place⟩ := by
  have added : assign? [] key value .header members = some (members ++ [(key, value)]) := by
    simp [assign?, inside?, insertNew?, absent]
  simp [Draft.add?, focus _ members, added]

/-- The line of a key and its value. -/
def Line.ofNamed (named : String × Toml) : Line := .assignment [] named.1 named.2

/-- Different keys with their values are added to the table in their order. -/
theorem Focus.foldlM_assignments
    (focus : Focus build place)
    {entries : Members}
    (different : ((members ++ entries).map Prod.fst).Nodup) :
    (entries.map Line.ofNamed).foldlM Draft.add? ⟨build members, place⟩ =
      some ⟨build (members ++ entries), place⟩ := by
  induction entries generalizing members with
  | nil => simp
  | cons named entries inductionHypothesis =>
      have absent : find? members named.1 = none := by
        rw [List.map_append, List.nodup_append] at different
        exact find?_eq_none_iff.2 fun other member =>
          different.2.2 _ (List.mem_map_of_mem member) _ List.mem_cons_self
      rw [List.append_cons] at different
      rw [List.map_cons, List.foldlM_cons, Line.ofNamed, focus.add?_assignment absent]
      exact (inductionHypothesis different).trans (by rw [← List.append_cons])

/-- A header and the keys behind it add a table with these keys. -/
theorem Focus.foldlM_table
    (focus : Focus build place)
    (absent : find? members key = none)
    {entries : Members}
    (different : (entries.map Prod.fst).Nodup)
    (before : List String)
    (lines : List Line) :
    (.header place key :: (entries.map Line.ofNamed ++ lines)).foldlM Draft.add?
        ⟨build members, before⟩ =
      lines.foldlM Draft.add?
        ⟨build (members ++ [(key, .table .header entries)]), place ++ [key]⟩ := by
  have filled := @Focus.foldlM_assignments [] _ _ (focus.table absent) entries different
  rw [List.foldlM_cons, focus.add?_header absent before, Option.bind_eq_bind, Option.bind_some,
    List.foldlM_append, filled]
  rfl

end

/-! ## Values -/

/-- What is written for a value, up to the end of its line. -/
structure Spells (text : List Char) (value : Toml) : Prop where
  /-- It does not begin with a blank. -/
  solid : ∀ c ∈ text.head?, Quoted.isBlank c = false
  /-- It is read back. -/
  read : ∀ rest, value? depthLimit (text ++ '\n' :: rest) = some (value, '\n' :: rest)

/-- A value that begins with neither kind of bracket is neither list nor table. -/
theorem value?_eq_plain?
    {c : Char}
    (noList : c ≠ '[')
    (noTable : c ≠ '{')
    (depth : Nat)
    (rest : List Char) :
    value? depth (c :: rest) = plain? (c :: rest) := by
  rw [value?]
  all_goals grind

theorem spells_quoted (text : String) : Spells (quoted text.toList) (.string text) := by
  obtain ⟨first, others, written, quote⟩ := Quoted.exists_quoted_eq_cons text.toList
  have solid : Quoted.isBlank first = false ∧ first ≠ '[' ∧ first ≠ '{' := by
    rcases quote with rfl | rfl <;> decide
  constructor
  · rw [written]
    rintro c ⟨⟩
    exact solid.1
  · intro rest
    have apart : Quoted.Apart ('\n' :: rest) := by
      rintro c ⟨⟩
      decide
    have read := Quoted.read?_quoted apart text.toList
    rw [written] at read ⊢
    rw [List.cons_append, value?_eq_plain? solid.2.1 solid.2.2, ← List.cons_append, plain?, read]
    simp

theorem isBlank_of_isWordChar
    {c : Char}
    (char : isWordChar c = true) :
    Quoted.isBlank c = false := by
  have noSpace : c ≠ ' ' := by rintro rfl; contradiction
  have noTab : c ≠ '\t' := by rintro rfl; contradiction
  simp [Quoted.isBlank, noSpace, noTab]

theorem isBlank_of_isBare
    {c : Char}
    (bare : isBare c = true) :
    Quoted.isBlank c = false :=
  isBlank_of_isWordChar (by simp [isWordChar, bare])

/-- A word is no text between quotes, and ends at the end of the line. -/
theorem plain?_word
    {word : List Char}
    {value : Toml}
    (chars : ∀ c ∈ word, isWordChar c = true)
    (read : word? word = some value)
    (rest : List Char) :
    plain? (word ++ '\n' :: rest) = some (value, '\n' :: rest) := by
  have apart : ∀ c ∈ ('\n' :: rest).head?, isWordChar c = false := by
    rintro c ⟨⟩
    rfl
  have cut : cutWord (word ++ '\n' :: rest) = (word, '\n' :: rest) := by
    rw [cutWord, Lists.takeWhile_append_of_head chars apart,
      Lists.dropWhile_append_of_head chars apart]
    rfl
  have noQuotes : Quoted.read? (word ++ '\n' :: rest) = none := by
    cases word with
    | nil => exact Quoted.read?_eq_none (by decide) (by decide) rest
    | cons c word =>
        have first := chars c List.mem_cons_self
        exact Quoted.read?_eq_none (by rintro rfl; contradiction) (by rintro rfl; contradiction) _
  rw [plain?, noQuotes, cut]
  simp [read]

/-- A word that is read as a value spells it. -/
theorem spells_word
    {word : List Char}
    {value : Toml}
    (chars : ∀ c ∈ word, isWordChar c = true)
    (read : word? word = some value) :
    Spells word value := by
  have solid : ∀ c ∈ word.head?, Quoted.isBlank c = false := by
    intro c first
    exact isBlank_of_isWordChar (chars c (List.mem_of_head? first))
  refine ⟨solid, fun rest => ?_⟩
  rw [← plain?_word chars read rest]
  cases word with
  | nil => exact value?_eq_plain? (by decide) (by decide) depthLimit rest
  | cons c word =>
      have first := chars c List.mem_cons_self
      exact value?_eq_plain? (by rintro rfl; contradiction) (by rintro rfl; contradiction) _ _

theorem spells_flag (value : Bool) :
    Spells (if value then "true".toList else "false".toList) (.boolean value) := by
  cases value with
  | false =>
      have chars : "false".toList.all isWordChar = true := rfl
      exact spells_word (List.all_eq_true.1 chars) rfl
  | true =>
      have chars : "true".toList.all isWordChar = true := rfl
      exact spells_word (List.all_eq_true.1 chars) rfl

/-- The digits of a number are read as that number. -/
theorem integer?_toString (n : Nat) :
    Number.integer? (toString n).toList = some (n : Int) := by
  have digit : ∀ c ∈ (toString n).toList, c.isDigit = true :=
    fun c => NumberLiteral.isDigit_of_mem_toString
  have oneGroup : '_' ∉ (toString n).toList := fun member => by
    have underscore := digit '_' member
    contradiction
  have groups : Number.digits? Char.isDigit (toString n).toList = some (toString n).toList := by
    rw [Number.digits?, Text.splitOn_of_not_mem oneGroup, if_pos]
    · simp
    · rw [List.all_cons, List.all_nil, Bool.and_true, Bool.and_eq_true, Bool.not_eq_true',
        List.isEmpty_eq_false_iff, List.all_eq_true]
      exact ⟨NumberLiteral.toString_ne_nil n, digit⟩
  have decimal : Number.decimal? (toString n).toList = some (toString n).toList := by
    rw [Number.decimal?, groups]
    split
    · next digits => exact absurd rfl (NumberLiteral.first_ne_zero (Option.some.inj digits))
    · rfl
  have value := NumberLiteral.ofDigits_toString n
  cases digits : (toString n).toList with
  | nil => exact absurd digits (NumberLiteral.toString_ne_nil n)
  | cons c more =>
      rw [digits] at decimal digit value
      obtain ⟨first, others⟩ := List.forall_mem_cons.1 digit
      have noMark : ∀ d rest, d.isDigit = false → more ≠ d :: rest := by
        rintro d rest letter rfl
        exact NumberLiteral.ne_of_isDigit (others d List.mem_cons_self) letter rfl
      rw [Number.integer?]
      · simp [Number.sign, NumberLiteral.sign_of_isDigit first, decimal, value]
      · exact fun rest same => noMark 'x' rest rfl (List.cons.inj same).2
      · exact fun rest same => noMark 'o' rest rfl (List.cons.inj same).2
      · exact fun rest same => noMark 'b' rest rfl (List.cons.inj same).2

/-- Documents may hold every natural number that settings may be. -/
theorem inRange_natural
    {n : Nat}
    (small : n < UInt64.size) :
    Number.inRange n = true := by
  have bound : n < 18446744073709551616 := small
  rw [Number.inRange, Bool.and_eq_true, decide_eq_true_eq, decide_eq_true_eq]
  omega

theorem read?_toString
    {n : Nat}
    (small : n < UInt64.size) :
    Number.read? (toString n).toList = some (.integer n) := by
  rw [Number.read?, integer?_toString]
  exact if_pos (inRange_natural small)

/-- A number below the bound of natural numbers in settings is read as that number. -/
theorem spells_natural
    {n : Nat}
    (small : n < UInt64.size) :
    Spells (toString n).toList (.integer n) := by
  have digit : ∀ c ∈ (toString n).toList, c.isDigit = true :=
    fun c => NumberLiteral.isDigit_of_mem_toString
  have noWord : ∀ word, (∃ c ∈ word, c.isDigit = false) → (toString n).toList ≠ word := by
    rintro word ⟨c, member, letter⟩ same
    rw [same] at digit
    exact NumberLiteral.ne_of_isDigit (digit c member) letter rfl
  refine spells_word (fun c member => ?_) ?_
  · have alphanumeric : c.isAlphanum = true := by
      rw [Char.isAlphanum, digit c member, Bool.or_true]
    simp [isWordChar, isBare, alphanumeric]
  · rw [word?, if_neg (noWord _ ⟨'t', by decide, rfl⟩), if_neg (noWord _ ⟨'f', by decide, rfl⟩),
      read?_toString small]

/-! ## Lines -/

/-- A key in front of anything but a dot has no path of its own. -/
theorem path?_last
    {text rest more : List Char}
    {key : String}
    {c : Char}
    (read : key? text = some (key, rest))
    (behind : dropBlanks rest = c :: more)
    (noDot : c ≠ '.')
    (fuel : Nat) :
    path? (fuel + 1) text = some (([], key), c :: more) := by
  rw [path?, read]
  simp only [behind]
  split
  · next same => exact absurd (List.cons.inj same).1 noDot
  · rfl

/-- A key in front of a dot leads to the key behind it. -/
theorem path?_dot
    {text rest more after : List Char}
    {key last : String}
    {path : List String}
    {fuel : Nat}
    (read : key? text = some (key, rest))
    (behind : dropBlanks rest = '.' :: more)
    (next : path? fuel (dropBlanks more) = some ((path, last), after)) :
    path? (fuel + 1) text = some ((key :: path, last), after) := by
  rw [path?, read]
  simp only [behind, next]
  rfl

/-- A key is written with a first character that begins neither a header nor a comment. -/
theorem exists_writeKey_eq_cons (key : List Char) :
    ∃ first others, writeKey key = first :: others ∧
      (isBare first = true ∨ first = '"' ∨ first = '\'') := by
  unfold writeKey
  dsimp only
  split_ifs with bare noEscapes literal
  · obtain ⟨first, others, same, bareFirst⟩ := IsBareKey.exists_eq_cons bare
    exact ⟨first, others, same, .inl bareFirst⟩
  · exact ⟨'"', _, rfl, .inr (.inl rfl)⟩
  · exact ⟨'\'', _, rfl, .inr (.inr rfl)⟩
  · exact ⟨'"', _, rfl, .inr (.inl rfl)⟩

theorem dropBlanks_of_head
    {text : List Char}
    (solid : ∀ c ∈ text.head?, Quoted.isBlank c = false) :
    dropBlanks text = text := by
  cases text with
  | nil => rfl
  | cons c text => exact List.dropWhile_cons_of_neg (by simp [solid c rfl])

/-- The line of a key and a value is read back. -/
theorem line?_writePair
    {text : List Char}
    {value : Toml}
    (spells : Spells text value)
    (key rest : List Char) :
    line? (writePair key text ++ rest) =
      some (.assignment [] (String.ofList key) value, '\n' :: rest) := by
  have written : writePair key text ++ rest =
      writeKey key ++ ' ' :: '=' :: ' ' :: (text ++ '\n' :: rest) := by
    simp [writePair]
  have solid : ∀ c ∈ (text ++ '\n' :: rest).head?, Quoted.isBlank c = false := by
    cases text with
    | nil => rintro c ⟨⟩; rfl
    | cons first others => exact spells.solid
  have read := @key?_writeKey (' ' :: '=' :: ' ' :: (text ++ '\n' :: rest))
    (by rintro c ⟨⟩; rfl) key
  have value : value? depthLimit (dropBlanks (' ' :: (text ++ '\n' :: rest))) =
      some (value, '\n' :: rest) := by
    rw [← spells.read rest]
    exact congrArg (value? depthLimit) (dropBlanks_of_head solid)
  obtain ⟨first, others, begins, kind⟩ := exists_writeKey_eq_cons key
  have noBracket : first ≠ '[' := by
    rintro rfl
    revert kind
    decide
  rw [written]
  rw [begins, List.cons_append] at read ⊢
  rw [line?, pair?, path?_last read rfl (by decide)]
  · simp only [value]
    rfl
  all_goals grind

/-- A word without quotes is a key in front of a dot or of the bracket that closes a header. -/
theorem key?_word
    {word : List Char}
    (key : IsBareKey word)
    {c : Char}
    (close : isBare c = false)
    (rest : List Char) :
    key? (word ++ c :: rest) = some (String.ofList word, c :: rest) :=
  key?_bare key (by rintro d ⟨⟩; exact close)

/-- A header between brackets begins with a key. -/
theorem line?_bracket
    {word : List Char}
    (key : IsBareKey word)
    (rest : List Char) :
    line? ('[' :: (word ++ rest)) = header? (word ++ rest) := by
  obtain ⟨first, others, rfl, bare⟩ := key.exists_eq_cons
  have noBracket : first ≠ '[' := by rintro rfl; contradiction
  rw [List.cons_append, line?]
  grind

theorem dropBlanks_word
    {word : List Char}
    (key : IsBareKey word)
    (rest : List Char) :
    dropBlanks (word ++ rest) = word ++ rest := by
  obtain ⟨first, others, rfl, bare⟩ := key.exists_eq_cons
  refine dropBlanks_of_head ?_
  rintro c ⟨⟩
  exact isBlank_of_isBare bare

/-- The header of a table is read back. -/
theorem line?_header
    {word : List Char}
    (key : IsBareKey word)
    (rest : List Char) :
    line? ('[' :: (word ++ ']' :: rest)) = some (.header [] (String.ofList word), rest) := by
  have read := key?_word key (show isBare ']' = false by rfl) rest
  rw [line?_bracket key, header?, dropBlanks_word key, path?_last read rfl (by decide)]
  rfl

/-- The header of a table in another one is read back. -/
theorem line?_header_dot
    {outer word : List Char}
    (outerKey : IsBareKey outer)
    (key : IsBareKey word)
    (rest : List Char) :
    line? ('[' :: (outer ++ '.' :: (word ++ ']' :: rest))) =
      some (.header [String.ofList outer] (String.ofList word), rest) := by
  have read := key?_word outerKey (show isBare '.' = false by rfl) (word ++ ']' :: rest)
  have inner := key?_word key (show isBare ']' = false by rfl) rest
  obtain ⟨fuel, length⟩ : ∃ fuel, (outer ++ '.' :: (word ++ ']' :: rest)).length = fuel + 1 :=
    ⟨_, by rw [List.length_append, List.length_cons]; rfl⟩
  have next := path?_last inner rfl (by decide) fuel
  rw [← dropBlanks_word key] at next
  rw [line?_bracket outerKey, header?, dropBlanks_word outerKey, length, path?_dot read rfl next]
  rfl

/-! ## Documents -/

/-- A text is read as some lines, if their number is bounded by its length or more. -/
def Reads (text : List Char) (lines : List Line) : Prop :=
  ∀ fuel, text.length ≤ fuel → lines? fuel text = some lines

theorem Reads.nil : Reads [] [] := by
  intro fuel enough
  rw [lines?, skip?]

/-- An empty line counts for nothing. -/
theorem Reads.empty
    {rest : List Char}
    {lines : List Line}
    (reads : Reads rest lines) :
    Reads ('\n' :: rest) lines := by
  intro fuel enough
  have read := reads fuel (by rw [List.length_cons] at enough; omega)
  rw [lines?] at read ⊢
  rwa [skip?]

/-- A line in front of others is read first. -/
theorem Reads.line
    {rest : List Char}
    {lines : List Line}
    (reads : Reads rest lines)
    {first : Char}
    {others : List Char}
    {line : Line}
    (solid : first ≠ '\n' ∧ first ≠ '\r' ∧ first ≠ '#' ∧ Quoted.isBlank first = false)
    (read : line? (first :: others) = some (line, '\n' :: rest))
    (longer : rest.length ≤ others.length) :
    Reads (first :: others) (line :: lines) := by
  intro fuel enough
  obtain ⟨noLineEnd, noReturn, noComment, noBlank⟩ := solid
  have skipped : skip? false (first :: others) = some (first :: others) := by
    rw [skip?, if_neg (by simp [noBlank])]
    all_goals grind
  cases fuel with
  | zero => simp at enough
  | succ fuel =>
      have more := reads fuel (by rw [List.length_cons] at enough; omega)
      rw [lines?, skipped]
      simp [read, lineEnd?, more]

/-- Keys are written with first characters that begin lines. -/
theorem solid_of_key
    {first : Char}
    (kind : isBare first = true ∨ first = '"' ∨ first = '\'') :
    first ≠ '\n' ∧ first ≠ '\r' ∧ first ≠ '#' ∧ Quoted.isBlank first = false := by
  rcases kind with bare | rfl | rfl
  · refine ⟨?_, ?_, ?_, isBlank_of_isBare bare⟩
    all_goals
      rintro rfl
      contradiction
  · decide
  · decide

/-- The line of a key and a value in front of others is read first. -/
theorem Reads.pair
    {rest : List Char}
    {lines : List Line}
    (reads : Reads rest lines)
    {text : List Char}
    {value : Toml}
    (spells : Spells text value)
    (key : String) :
    Reads (writePair key.toList text ++ rest) (Line.ofNamed (key, value) :: lines) := by
  obtain ⟨first, others, begins, kind⟩ := exists_writeKey_eq_cons key.toList
  have read := line?_writePair spells key.toList rest
  have written : writePair key.toList text ++ rest =
      first :: (others ++ ' ' :: '=' :: ' ' :: (text ++ '\n' :: rest)) := by
    simp [writePair, begins]
  rw [String.ofList_toList] at read
  rw [written] at read ⊢
  refine reads.line (solid_of_key kind) read ?_
  simp only [List.length_append, List.length_cons]
  omega

/-- The lines of some keys with values in front of others are read first. -/
theorem Reads.pairs
    {α : Type}
    {key : α → String}
    {text : α → List Char}
    {value : α → Toml}
    {rest : List Char}
    {lines : List Line}
    (reads : Reads rest lines)
    (spells : ∀ entry, Spells (text entry) (value entry))
    (entries : List α) :
    Reads (entries.flatMap (fun entry => writePair (key entry).toList (text entry)) ++ rest)
      ((entries.map fun entry => (key entry, value entry)).map Line.ofNamed ++ lines) := by
  induction entries with
  | nil => exact reads
  | cons entry entries inductionHypothesis =>
      have read := inductionHypothesis.pair (spells entry) (key entry)
      rwa [← List.append_assoc] at read

/-- The header of a table in front of other lines is read first. -/
theorem Reads.header
    {rest : List Char}
    {lines : List Line}
    (reads : Reads rest lines)
    (word : String)
    (key : IsBareKey word.toList) :
    Reads (writeHeader word ++ rest) (.header [] word :: lines) := by
  have read := line?_header key ('\n' :: rest)
  have written : writeHeader word ++ rest = '[' :: (word.toList ++ ']' :: '\n' :: rest) := by
    simp [writeHeader]
  rw [String.ofList_toList] at read
  rw [written]
  refine reads.line (by decide) read ?_
  simp only [List.length_append, List.length_cons]
  omega

/-- The header of a table in another one in front of other lines is read first. -/
theorem Reads.headerDot
    {rest : List Char}
    {lines : List Line}
    (reads : Reads rest lines)
    (outer word : String)
    (outerKey : IsBareKey outer.toList)
    (key : IsBareKey word.toList) :
    Reads (writeHeader (outer ++ "." ++ word) ++ rest) (.header [outer] word :: lines) := by
  have read := line?_header_dot outerKey key ('\n' :: rest)
  have written : writeHeader (outer ++ "." ++ word) ++ rest =
      '[' :: (outer.toList ++ '.' :: (word.toList ++ ']' :: '\n' :: rest)) := by
    simp [writeHeader]
  rw [String.ofList_toList, String.ofList_toList] at read
  rw [written]
  refine reads.line (by decide) read ?_
  simp only [List.length_append, List.length_cons]
  omega

/-- A document that begins with a header is what its lines make. -/
theorem read?_of_reads
    {text : String}
    {lines : List Line}
    (reads : Reads text.toList lines)
    (begins : text.toList.head? = some '[') :
    read? text = ofLines? lines := by
  have noMark : dropMark text.toList = text.toList := by
    rw [dropMark]
    intro rest same
    rw [same, List.head?_cons] at begins
    exact absurd begins (by decide)
  have read := reads _ le_rfl
  rw [read?, noMark, read]
  rfl

end Toml
end BlockSearch
