import BlockSearch.Proofs.Sql.Grammar
import BlockSearch.Proofs.Sql.Meaning

/-!
# Conditions as text

A condition is written as text, which has tokens, which are read as an expression, which says
something of records. Conditions that are written one after the other between `OR` and `AND` say
that one of them holds, and that all of them do. A statement that is written with such a condition
is read as what it is written for, and it can be prepared unless the condition is too high.

A statement on the rows of a table lists its results, names the table, and puts a condition on the
rows. Behind the condition stands an order with a limit, or nothing.
-/

namespace BlockSearch
namespace Sql

namespace Reader

/-! ## Columns -/

/-- Some tokens are read as the results of a statement in front of its table. -/
structure Lists (tokens : List Token) (results : List Item) : Prop where
  /-- They are read. -/
  reads : ∀ fuel rest, 16 * tokens.length ≤ fuel →
    items fuel (tokens ++ .word "FROM" :: rest) = some (results, .word "FROM" :: rest)
  /-- They do not ask for distinct rows. -/
  plain : ∀ rest, keyword? "distinct" (tokens ++ rest) = none ∧
    keyword? "all" (tokens ++ rest) = none

theorem lists_all : Lists [.sign "*"] [.all] where
  reads fuel rest enough := by
    obtain ⟨fuel, rfl⟩ : ∃ spare, fuel = spare + 16 := Nat.exists_eq_add_of_le' enough
    rfl
  plain _ := ⟨rfl, rfl⟩

/-- The tokens for the number of records and the number of their documents. -/
def countTokens : List Token :=
  [.word "COUNT", .sign "(", .word "id", .sign ")", .sign ",", .word "COUNT", .sign "(",
    .word "DISTINCT", .word "root_id", .sign ")"]

/-- The number of records and the number of their documents. -/
def countItems : List Item :=
  [.expression (.count false (.column none "id" false)) none,
    .expression (.count true (.column none "root_id" false)) none]

theorem lists_countTokens : Lists countTokens countItems where
  reads fuel rest enough := by
    obtain ⟨fuel, rfl⟩ : ∃ spare, fuel = spare + 160 := Nat.exists_eq_add_of_le' enough
    rfl
  plain _ := ⟨rfl, rfl⟩

/-! ## Orders and limits -/

/-- An order: its text, its tokens behind `ORDER BY`, and the terms that it is read as. -/
structure Sorting where
  /-- The text. -/
  text : String
  /-- The tokens behind `ORDER BY`. -/
  tokens : List Token
  /-- The terms. -/
  terms : List (Expr × Bool)

/-- An order by one column, in a direction that need not be written. -/
structure Key where
  /-- The name of the column. -/
  name : String
  /-- Whether the greatest value comes first. -/
  direction : Option Bool

namespace Key

/-- The columns that records are ordered by; the rank is one of the index only. -/
def names : List String := ["created", "updated", "sort", "rank"]

/-- The text. -/
def text (key : Key) : String :=
  "ORDER BY " ++ key.name ++
    match key.direction with
    | none => ""
    | some descending => " " ++ if descending then "DESC" else "ASC"

/-- The words behind `ORDER BY`. -/
def words (key : Key) : List String :=
  key.name ::
    match key.direction with
    | none => []
    | some descending => [if descending then "DESC" else "ASC"]

/-- The terms of the order. -/
def terms (key : Key) : List (Expr × Bool) :=
  [(.column none key.name false, key.direction.getD false)]

/-- The order by the column. -/
def sorting (key : Key) : Sorting := ⟨key.text, key.words.map .word, key.terms⟩

end Key

/-- How the rows of a statement are put in order, and how many of them are taken. -/
structure Ending where
  /-- The order. -/
  sorting : Sorting
  /-- The limit. -/
  limit : Nat

/-- The tokens of a limit. -/
def limitTokens (limit : Nat) : List Token := [.word "LIMIT", .number ⟨false, limit, 0, true⟩]

/-- The tokens of an order are read as its terms, whatever limit follows. -/
def Sorting.Reads (sorting : Sorting) : Prop :=
  ∀ fuel limit, 16 * sorting.tokens.length + 16 ≤ fuel →
    orderTerms fuel (sorting.tokens ++ limitTokens limit) =
      some (sorting.terms, limitTokens limit)

theorem Key.reads_sorting
    {key : Key}
    (known : key.name ∈ names) :
    key.sorting.Reads := by
  intro fuel limit enough
  obtain ⟨name, direction⟩ := key
  have words : 1 ≤ (sorting ⟨name, direction⟩).tokens.length := by
    rw [sorting, List.length_map, Key.words, List.length_cons]
    omega
  obtain ⟨fuel, rfl⟩ : ∃ spare, fuel = spare + 31 := ⟨fuel - 31, by omega⟩
  simp only [names, List.mem_cons, List.not_mem_nil, or_false] at known
  rcases direction with _ | _ | _ <;> rcases known with rfl | rfl | rfl | rfl <;> rfl

namespace Ending

/-- The text of an ending, if there is one. -/
def text : Option Ending → String
  | none => ""
  | some ending => " " ++ ending.sorting.text ++ " LIMIT " ++ toString ending.limit

/-- The tokens of an ending, if there is one. -/
def tokens : Option Ending → List Token
  | none => []
  | some ending =>
      .word "ORDER" :: .word "BY" :: (ending.sorting.tokens ++ limitTokens ending.limit)

/-- The terms of the order of an ending, if there is one. -/
def terms : Option Ending → List (Expr × Bool)
  | none => []
  | some ending => ending.sorting.terms

/-- The limit of an ending, if there is one. -/
def count : Option Ending → Option Expr
  | none => none
  | some ending => some (.value (.ofLiteral ⟨false, ending.limit, 0, true⟩))

/-- An ending closes the condition in front of it. -/
theorem closes_tokens (ending : Option Ending) :
    Closes (tokens ending) ∧ keyword? "and" (tokens ending) = none ∧
      keyword? "or" (tokens ending) = none := by
  cases ending with
  | none => exact ⟨.done, rfl, rfl⟩
  | some ending => exact ⟨.order _, rfl, rfl⟩

end Ending

/-! ## Tokens of statements -/

/-- The tokens of a statement on the rows of a table of which a condition holds. -/
def statementTokens
    (columns : List Token)
    (table : String)
    (condition : List Token)
    (ending : Option Ending) : List Token :=
  .word "SELECT" :: columns ++ (.word "FROM" :: .word table :: .word "WHERE" :: condition) ++
    Ending.tokens ending

/-- The statement on the rows of a table of which a condition holds. -/
def statement
    (results : List Item)
    (table : String)
    (body : Expr)
    (ending : Option Ending) : Select :=
  .mk false results (.table table none) (some body) (Ending.terms ending) (Ending.count ending) none

theorem selection_statementTokens
    {columns condition : List Token}
    {results : List Item}
    {body : Expr}
    {table : String}
    (lists : Lists columns results)
    (named : ∀ fuel rest, source (fuel + 1) (.word table :: .word "WHERE" :: rest) =
      some (.table table none, .word "WHERE" :: rest))
    (joins : Joins condition body)
    {ending : Option Ending}
    (sorted : ∀ one ∈ ending, one.sorting.Reads)
    {fuel : Nat}
    (enough : 16 * (statementTokens columns table condition ending).length ≤ fuel) :
    selection fuel (statementTokens columns table condition ending) =
      some (statement results table body ending, []) := by
  rw [statementTokens, List.length_append, List.length_append] at enough
  simp only [List.length_cons] at enough
  obtain ⟨fuel, rfl⟩ : ∃ spare, fuel = spare + 32 := ⟨fuel - 32, by omega⟩
  have select (more : List Token) : keyword? "select" (.word "SELECT" :: more) = some more := rfl
  have origin (more : List Token) : keyword? "from" (.word "FROM" :: more) = some more := rfl
  have behind (more : List Token) : keyword? "where" (.word "WHERE" :: more) = some more := rfl
  obtain ⟨closes, ends⟩ := Ending.closes_tokens ending
  have read := joins.disjunction closes ends (fuel + 31) (by omega)
  rw [statementTokens, List.append_assoc, List.cons_append, selection, select, Option.bind_eq_bind,
    Option.bind_some]
  simp only [List.cons_append, (lists.plain _).1, (lists.plain _).2, Option.bind_eq_bind,
    lists.reads (fuel + 31) _ (by omega), Option.bind_some, origin, named (fuel + 30), behind, read,
    Option.map_some]
  cases ending with
  | none => rfl
  | some ending =>
      have begins (more : List Token) :
          (keyword? "order" (.word "ORDER" :: .word "BY" :: more)).bind (keyword? "by") =
            some more := rfl
      have length : (Ending.tokens (some ending)).length = ending.sorting.tokens.length + 4 := by
        simp [Ending.tokens, limitTokens]
      have order := sorted ending rfl (fuel + 31) ending.limit (by omega)
      simp only [Ending.tokens, begins, order, Option.bind_some]
      rfl

end Reader

/-! ## Texts -/

/-- A text has some tokens in front of everything that does not run into it. -/
def Spells (text : String) (tokens : List Token) : Prop :=
  ∀ rest more, Token.Apart rest → Token.Scans rest more →
    Token.Scans (text.toList ++ rest) (tokens ++ more)

theorem apart_blank (rest : List Char) : Token.Apart (' ' :: rest) := by
  rintro c ⟨⟩
  decide

theorem apart_open (rest : List Char) : Token.Apart ('(' :: rest) := by
  rintro c ⟨⟩
  decide

theorem apart_close (rest : List Char) : Token.Apart (')' :: rest) := by
  rintro c ⟨⟩
  decide

theorem apart_comma (rest : List Char) : Token.Apart (',' :: rest) := by
  rintro c ⟨⟩
  decide

/-- Two texts with a word between them. -/
theorem Spells.joined
    {left right : String}
    {leftTokens rightTokens : List Token}
    (spellsLeft : Spells left leftTokens)
    (spellsRight : Spells right rightTokens)
    (word : String)
    (plain : Token.isWord word.toList = true) :
    Spells (left ++ (" " ++ word ++ " ") ++ right) (leftTokens ++ .word word :: rightTokens) := by
  intro rest more apart scans
  have behind := (spellsRight rest more apart scans).words [word] (by simp [plain])
  have whole := spellsLeft _ _ (apart_blank _) behind.blank
  simpa using whole

/-- Texts with `OR` between them. -/
theorem spells_anyTokens
    {α : Type}
    {text : α → String}
    {tokens : α → List Token}
    {condition : α}
    {conditions : List α}
    (each : ∀ one ∈ condition :: conditions, Spells (text one) (tokens one)) :
    Spells (" OR ".intercalate ((condition :: conditions).map text))
      (Reader.anyTokens ((condition :: conditions).map tokens)) := by
  induction conditions generalizing condition with
  | nil =>
      have spells := each condition List.mem_cons_self
      simpa [Reader.anyTokens, String.intercalate_singleton] using spells
  | cons next conditions inductionHypothesis =>
      have later := inductionHypothesis fun one member => each one (List.mem_cons_of_mem _ member)
      have whole := (each condition List.mem_cons_self).joined later "OR" (by decide)
      simpa [Reader.anyTokens, String.intercalate_cons_cons, List.intercalate_cons_cons] using whole

/-- A text between parentheses. -/
theorem Spells.parentheses
    {text : String}
    {tokens : List Token}
    (spells : Spells text tokens) :
    Spells ("(" ++ text ++ ")") (.sign "(" :: tokens ++ [.sign ")"]) := by
  intro rest more apart scans
  have behind := spells _ _ (apart_close rest) (scans.sign (c := ')') (by decide))
  have whole := behind.sign (c := '(') (by decide)
  simpa using whole

/-- A text between quotes. -/
theorem spells_quoted
    {text : String}
    (plain : text.toList.all (fun c => c != '\'' && c != '\x00') = true) :
    Spells ("'" ++ text ++ "'") [.value (.text text)] := by
  intro rest more apart scans
  rw [List.all_eq_true] at plain
  have quoted := scans.quoted text (fun member => absurd (plain _ member) (by decide))
    (fun member => absurd (plain _ member) (by decide)) apart
  simpa using quoted

/-- Texts with commas between them. -/
theorem spells_commas
    {α : Type}
    {text : α → String}
    {tokens : α → List Token}
    {items : List α}
    (each : ∀ item ∈ items, Spells (text item) (tokens item)) :
    Spells (", ".intercalate (items.map text)) ([.sign ","].intercalate (items.map tokens)) := by
  induction items with
  | nil =>
      intro rest more apart scans
      simpa using scans
  | cons item items inductionHypothesis =>
      have first := each item List.mem_cons_self
      have others := inductionHypothesis fun one member => each one (List.mem_cons_of_mem _ member)
      cases items with
      | nil => simpa [String.intercalate_singleton] using first
      | cons other items =>
          intro rest more apart scans
          have comma := (others rest more apart scans).blank.sign (c := ',') (by decide)
          have whole := first _ _ (apart_comma _) comma
          simpa [String.intercalate_cons_cons, List.intercalate_cons_cons] using whole

/-! ## Conditions -/

/-- A condition: its text, its tokens, how it is read, and its verdict on records. -/
structure Clause where
  /-- The text. -/
  text : String
  /-- The tokens. -/
  tokens : List Token
  /-- The expression. -/
  body : Expr
  /-- What it says, as far as it can be tested. -/
  verdict : Record → Option Bool

namespace Clause

/-- Whether a condition holds of a record. -/
def holds (clause : Clause) (record : Record) : Bool := clause.verdict record == some true

/-- Where a condition can be tested, it holds if its verdict says so. -/
theorem holds_of_verdict
    {clause : Clause}
    {record : Record}
    {value : Bool}
    (known : clause.verdict record = some value) :
    clause.holds record = value := by
  rw [holds, known]
  cases value <;> rfl

/-- A condition stands for itself where parameters have some values. -/
structure Stands (values : List String) (clause : Clause) : Prop where
  /-- The text has the tokens. -/
  spells : Spells clause.text clause.tokens
  /-- The tokens are read as the expression. -/
  reads : Reader.Reads clause.tokens clause.body
  /-- The expression says what the condition does. -/
  means : Means values clause.body clause.verdict
  /-- Every parameter has a number. -/
  named : Token.parameter none ∉ clause.tokens

/-- A conjunction of conditions on a table that refers to all parameters and to no others. -/
structure Restricts (table : Table) (values : List String) (clause : Clause) : Prop where
  /-- The text has the tokens. -/
  spells : Spells clause.text clause.tokens
  /-- The tokens are read as the expression. -/
  joins : Reader.Joins clause.tokens clause.body
  /-- Unless it is too high, the expression chooses rows and says what the condition does. -/
  governs : clause.body.height?.isSome = true → Governs table values clause.body clause.verdict
  /-- The parameters have the numbers of the values. -/
  numbered : Numbered clause.tokens values.length

variable {table : Table} {values : List String} {first : Clause} {clauses : List Clause}

/-- The condition that one of some conditions holds. -/
def any (first : Clause) (clauses : List Clause) : Clause where
  text := "(" ++ " OR ".intercalate ((first :: clauses).map text) ++ ")"
  tokens := .sign "(" :: Reader.anyTokens ((first :: clauses).map tokens) ++ [.sign ")"]
  body := Reader.anyBody first.body (clauses.map body)
  verdict record := anyOf ((first :: clauses).map fun clause => clause.verdict record)

/-- The parameters of a condition are those of the conditions that it is made of. -/
theorem parameter_mem_any
    {number : Option Nat} :
    Token.parameter number ∈ (any first clauses).tokens ↔
      ∃ clause ∈ first :: clauses, Token.parameter number ∈ clause.tokens := by
  simp [any, Reader.anyTokens_cons, Reader.moreTokens]

/-- Conditions joined by `OR` are no plain zero unless the only one is. -/
theorem isZero_any
    (plain : first.body.isZero = false) :
    (any first clauses).body.isZero = false := by
  have each (bodies : List Expr) (body : Expr) (plain : body.isZero = false) :
      (Reader.anyBody body bodies).isZero = false := by
    induction bodies generalizing body with
    | nil => exact plain
    | cons other bodies inductionHypothesis => exact inductionHypothesis (body.or other) rfl
  exact each _ _ plain

/-- The height of some conditions joined by `OR`, which are tests of columns. -/
def anyHeight? (count : Nat) : Option Nat :=
  if count < greatestHeight then some (count + 1) else none

/-- Every test of a column that is joined to others adds to the height. -/
theorem height?_anyBody
    {bodies : List Expr}
    (each : ∀ other ∈ bodies, other.height? = some 2)
    {body : Expr}
    {count : Nat}
    (positive : 0 < count)
    (height : body.height? = anyHeight? count) :
    (Reader.anyBody body bodies).height? = anyHeight? (count + bodies.length) := by
  induction bodies generalizing body count with
  | nil => exact height
  | cons other bodies inductionHypothesis =>
      have tested : other.height? = some 2 := each other List.mem_cons_self
      have joined : (body.or other).height? = anyHeight? (count + 1) := by
        rw [Expr.height?, height, tested, anyHeight?]
        split
        · rw [Option.bind_eq_bind, Option.bind_some, Option.bind_some, Nat.max_eq_left (by omega)]
          rfl
        · rw [anyHeight?, if_neg (by omega)]
          rfl
      have whole := inductionHypothesis (fun one member => each one (List.mem_cons_of_mem _ member))
        (Nat.succ_pos count) joined
      rw [Nat.succ_add_eq_add_succ] at whole
      exact whole

/-- The height of tests of columns of which one is to hold. -/
theorem height?_any
    (each : ∀ clause ∈ first :: clauses, clause.body.height? = some 2) :
    (any first clauses).body.height? = anyHeight? (clauses.length + 1) := by
  have others : ∀ other ∈ clauses.map body, other.height? = some 2 := by
    intro other member
    obtain ⟨clause, here, rfl⟩ := List.mem_map.1 member
    exact each clause (List.mem_cons_of_mem _ here)
  have whole := height?_anyBody others Nat.one_pos (each first List.mem_cons_self)
  rw [List.length_map, Nat.add_comm] at whole
  exact whole

theorem Stands.any
    (each : ∀ clause ∈ first :: clauses, clause.Stands values) :
    (any first clauses).Stands values where
  spells := (spells_anyTokens fun clause member => (each clause member).spells).parentheses
  reads := Reader.reads_any fun clause member => (each clause member).reads
  means := means_anyBody (each first List.mem_cons_self).means fun clause member =>
    (each clause (List.mem_cons_of_mem _ member)).means
  named := by
    rw [parameter_mem_any]
    rintro ⟨clause, member, inside⟩
    exact (each clause member).named inside

/-- The condition that two conditions hold. -/
def and (left right : Clause) : Clause where
  text := left.text ++ " AND " ++ right.text
  tokens := left.tokens ++ .word "AND" :: right.tokens
  body := left.body.conjoin right.body
  verdict record := bothOf (left.verdict record) (right.verdict record)

/-- A single condition that refers to all parameters restricts a statement on the records. -/
theorem Stands.restricts
    {clause : Clause}
    (stands : clause.Stands values)
    (numbered : Numbered clause.tokens values.length) :
    clause.Restricts .blocks values where
  spells := stands.spells
  joins := stands.reads.joins
  governs _ := stands.means.governs
  numbered := numbered

/-- The condition that the first value matches in the index. -/
def matching (mode : CaseMode) : Clause where
  text := (Table.index mode).name ++ " MATCH ?1"
  tokens := [.word (Table.index mode).name, .word "MATCH", .parameter (some 1)]
  body := .matching (Table.index mode).name (.parameter 1)
  verdict _ := some true

theorem restricts_matching (mode : CaseMode) (value : String) :
    (matching mode).Restricts (.index mode) [value] where
  spells := by
    intro rest more apart scans
    have plain : ([(Table.index mode).name, "MATCH"].all fun word =>
        Token.isWord word.toList) = true := by
      cases mode <;> decide
    have place : Nat.toDigits 10 1 = ['1'] := rfl
    have whole := (scans.parameter 1 apart).words _ plain
    simpa [matching, place] using whole
  joins := by
    refine Reader.Reads.joins fun fuel rest closes enough => ?_
    obtain ⟨fuel, rfl⟩ : ∃ spare, fuel = spare + 48 := Nat.exists_eq_add_of_le' enough
    cases mode <;> cases closes <;> rfl
  governs _ := governs_matching mode [value]
  numbered := by
    refine ⟨by simp [matching], fun number => ?_⟩
    simp [matching]
    omega

/-- A condition that refers to values that are bound behind the others is joined to a conjunction. -/
theorem Restricts.and
    {left right : Clause}
    (ofRecords : table ≠ .references)
    (restricts : left.Restricts table values)
    (settled : right.body.isZero = true → ∀ record, (left.verdict record).isSome = true)
    {more : List String}
    (stands : right.Stands (values ++ more))
    (numbers : ∀ number, Token.parameter (some number) ∈ right.tokens ↔
      values.length < number ∧ number ≤ (values ++ more).length) :
    (left.and right).Restricts table (values ++ more) where
  spells := by
    simpa [Clause.and] using restricts.spells.joined stands.spells "AND" (by decide)
  joins := restricts.joins.and stands.reads
  governs low :=
    ((restricts.governs (isSome_height?_of_conjoin low).1).mono
      (List.prefix_append values more)).conjoin ofRecords low stands.means settled
  numbered := by
    refine ⟨?_, fun number => ?_⟩
    · simp [Clause.and, restricts.numbered.named, stands.named]
    · simp only [Clause.and, List.mem_append, List.mem_cons, restricts.numbered.mem_iff, numbers,
        List.length_append, reduceCtorEq, false_or]
      omega

end Clause

/-! ## Statements -/

/-- The results of a statement: their text, their tokens, and how they are read. -/
structure Listing where
  /-- The text. -/
  text : String
  /-- The tokens. -/
  tokens : List Token
  /-- The results. -/
  items : List Item

/-- The results of a statement stand for themselves, and refer to no parameter. -/
structure Listing.Stands (listing : Listing) : Prop where
  /-- The text has the tokens. -/
  spells : Spells listing.text listing.tokens
  /-- The tokens are read as the results. -/
  lists : Reader.Lists listing.tokens listing.items
  /-- There is no parameter. -/
  closed : ∀ number, Token.parameter number ∉ listing.tokens
  /-- No result is too high. -/
  low : (itemsHeight? listing.items).isSome = true

/-- All columns. -/
def Listing.all : Listing := ⟨"*", [.sign "*"], [.all]⟩

theorem Listing.stands_all : all.Stands where
  spells := by
    intro rest more apart scans
    simpa [all] using scans.sign (c := '*') (by decide)
  lists := Reader.lists_all
  closed := by simp [all]
  low := rfl

/-- The number of records and the number of their documents. -/
def Listing.counts : Listing :=
  ⟨"COUNT(id), COUNT(DISTINCT root_id)", Reader.countTokens, Reader.countItems⟩

theorem Listing.stands_counts : counts.Stands where
  spells := by
    intro rest more apart scans
    have document := (scans.sign (c := ')') (by decide)).word "root_id" (by decide)
      (apart_close _)
    have documents := ((document.words ["DISTINCT"] (by decide)).sign (c := '(')
      (by decide)).word "COUNT" (by decide) (apart_open _)
    have block := ((documents.blank.sign (c := ',') (by decide)).sign (c := ')') (by decide)).word
      "id" (by decide) (apart_close _)
    have blocks := (block.sign (c := '(') (by decide)).word "COUNT" (by decide)
      (apart_open _)
    simpa [counts, Reader.countTokens] using blocks
  lists := Reader.lists_countTokens
  closed := by simp [counts, Reader.countTokens]
  low := rfl

theorem isFront_select : Token.IsFront 'S' := by
  simp [Token.IsFront, Token.isBlank]

/--
An order stands for itself behind a condition with parameters up to a number, and its own parameters
have the numbers from there on up to another one.
-/
structure Reader.Sorting.Stands (sorting : Reader.Sorting) (bound count : Nat) : Prop where
  /-- The text has the tokens. -/
  spells : Spells sorting.text (.word "ORDER" :: .word "BY" :: sorting.tokens)
  /-- The tokens are read as the terms. -/
  reads : sorting.Reads
  /-- Every parameter has a number. -/
  named : Token.parameter none ∉ sorting.tokens
  /-- The numbers. -/
  mem_iff : ∀ number, Token.parameter (some number) ∈ sorting.tokens ↔
    bound < number ∧ number ≤ count
  /-- No number is taken back. -/
  le : bound ≤ count
  /-- No term is too high. -/
  low : (orderHeight? sorting.terms).isSome = true

/-- An order by a column that records are ordered by has no parameters. -/
theorem Reader.Key.stands_sorting
    {key : Reader.Key}
    (known : key.name ∈ Reader.Key.names)
    (count : Nat) :
    key.sorting.Stands count count where
  spells := by
    obtain ⟨name, direction⟩ := key
    intro rest more apart scans
    simp only [Reader.Key.names, List.mem_cons, List.not_mem_nil, or_false] at known
    have plain : Token.isWord name.toList = true := by
      rcases known with rfl | rfl | rfl | rfl <;> decide
    cases direction with
    | none =>
        have whole := (scans.word name plain apart).words ["ORDER", "BY"] (by decide)
        simpa [Reader.Key.sorting, Reader.Key.text, Reader.Key.words] using whole
    | some descending =>
        have direction : Token.isWord (if descending then "DESC" else "ASC").toList = true := by
          cases descending <;> decide
        have column := (scans.word _ direction apart).blank.word name plain (apart_blank _)
        have whole := column.words ["ORDER", "BY"] (by decide)
        simpa [Reader.Key.sorting, Reader.Key.text, Reader.Key.words] using whole
  reads := Reader.Key.reads_sorting known
  named := by simp [Reader.Key.sorting]
  mem_iff number := by simp [Reader.Key.sorting]
  le := le_rfl
  low := rfl

/-- An ending stands for itself if there is one. -/
def Reader.Ending.Stands (bound count : Nat) : Option Reader.Ending → Prop
  | none => bound = count
  | some ending => ending.sorting.Stands bound count

/-- An ending is written behind a condition. -/
theorem scans_ending
    {ending : Option Reader.Ending}
    {bound count : Nat}
    (stands : Reader.Ending.Stands bound count ending) :
    Token.Scans (Reader.Ending.text ending).toList (Reader.Ending.tokens ending) ∧
      Token.Apart (Reader.Ending.text ending).toList := by
  cases ending with
  | none => exact ⟨.nil, fun _ member => nomatch member⟩
  | some ending =>
      have limit := ((Token.scans_number ending.limit).words ["LIMIT"] (by decide)).blank
      have scans := (stands.spells _ _ (apart_blank _) limit).blank
      constructor
      · simpa [Reader.Ending.text, Reader.Ending.tokens, Reader.limitTokens] using scans
      · simpa [Reader.Ending.text] using apart_blank _

/-- The parameters of an ending are those behind the ones of the condition. -/
theorem Reader.Ending.Stands.numbered
    {ending : Option Reader.Ending}
    {bound count : Nat}
    (stands : Reader.Ending.Stands bound count ending)
    {tokens : List Token}
    (numbered : Numbered tokens bound) :
    Numbered (tokens ++ Reader.Ending.tokens ending) count := by
  cases ending with
  | none =>
      rw [Reader.Ending.tokens, List.append_nil]
      exact (show bound = count from stands) ▸ numbered
  | some ending =>
      refine ⟨?_, fun number => ?_⟩
      · simp [Reader.Ending.tokens, Reader.limitTokens, numbered.named, stands.named]
      · have least := stands.le
        simp only [Reader.Ending.tokens, Reader.limitTokens, List.mem_append, List.mem_cons,
          reduceCtorEq, List.not_mem_nil, false_or, or_false, numbered.mem_iff, stands.mem_iff]
        omega

/-- The name of a table in front of a condition is read as the table. -/
theorem source_name
    (table : Table)
    (fuel : Nat)
    (rest : List Token) :
    Reader.source (fuel + 1) (.word table.name :: .word "WHERE" :: rest) =
      some (.table table.name none, .word "WHERE" :: rest) := by
  rcases table with _ | _ | ⟨_ | _⟩ <;> rfl

theorem isWord_name (table : Table) : Token.isWord table.name.toList = true := by
  rcases table with _ | _ | ⟨_ | _⟩ <;> decide

/-- A statement that is written with a condition is read as a statement with this condition. -/
theorem Clause.Restricts.read?_statement
    {table : Table}
    {values : List String}
    {clause : Clause}
    (restricts : clause.Restricts table values)
    {listing : Listing}
    (stands : listing.Stands)
    {ending : Option Reader.Ending}
    {count : Nat}
    (ends : Reader.Ending.Stands values.length count ending) :
    Prepared.read? ("SELECT " ++ listing.text ++ " " ++
        ("FROM " ++ table.name ++ " WHERE " ++ clause.text) ++ Reader.Ending.text ending).toList =
      some ⟨Reader.statement listing.items table.name clause.body ending, count⟩ := by
  have plain : (["FROM", table.name, "WHERE"].all fun word => Token.isWord word.toList) = true := by
    simp only [List.all_cons, isWord_name, Bool.true_and]
    decide
  obtain ⟨behind, apart⟩ := scans_ending ends
  have condition := restricts.spells _ _ apart behind
  have rows := (condition.words _ plain).blank
  have results := stands.spells _ _ (apart_blank _) rows
  have scans := results.words ["SELECT"] (by decide)
  have tokens : Numbered (Reader.statementTokens listing.tokens table.name clause.tokens ending)
      count := by
    refine ends.numbered ⟨?_, fun number => ?_⟩
    · simpa [stands.closed] using restricts.numbered.named
    · simpa [stands.closed] using restricts.numbered.mem_iff number
  have whole : Token.Scans ("SELECT " ++ listing.text ++ " " ++
      ("FROM " ++ table.name ++ " WHERE " ++ clause.text) ++ Reader.Ending.text ending).toList
      (Reader.statementTokens listing.tokens table.name clause.tokens ending) := by
    simpa [Reader.statementTokens] using scans
  have sorted : ∀ one ∈ ending, one.sorting.Reads := by
    rintro one ⟨⟩
    exact ends.reads
  exact read?_of_scans whole (by simp) isFront_select tokens fun fuel =>
    Reader.selection_statementTokens stands.lists (source_name table) restricts.joins sorted

/-- A statement with a condition is not too high unless the condition is. -/
theorem isNone_height?_statement
    {listing : Listing}
    (stands : listing.Stands)
    {ending : Option Reader.Ending}
    {bound count : Nat}
    (ends : Reader.Ending.Stands bound count ending)
    (table : String)
    (body : Expr) :
    (Reader.statement listing.items table body ending).height?.isNone = body.height?.isNone := by
  obtain ⟨items, listed⟩ := Option.isSome_iff_exists.1 stands.low
  have ordered : (orderHeight? (Reader.Ending.terms ending)).isSome = true := by
    cases ending with
    | none => rfl
    | some ending => exact ends.low
  have limited : ∃ limit, optionHeight? (Reader.Ending.count ending) = some limit ∧
      (above? (max limit 0)).isSome = true := by
    cases ending with
    | none => exact ⟨0, rfl, rfl⟩
    | some ending => exact ⟨1, rfl, rfl⟩
  obtain ⟨order, terms⟩ := Option.isSome_iff_exists.1 ordered
  obtain ⟨limit, ends, taken⟩ := limited
  obtain ⟨ending, taken⟩ := Option.isSome_iff_exists.1 taken
  have source : (Source.table table none).height? = some 0 := rfl
  have condition : optionHeight? (some body) = body.height? := rfl
  have missing : optionHeight? none = some 0 := rfl
  rw [Reader.statement, Select.height?, source, listed, condition, terms, ends, missing]
  cases body.height? with
  | none => rfl
  | some height =>
      rw [Nat.max_zero] at taken
      simp [taken]

end Sql
end BlockSearch
