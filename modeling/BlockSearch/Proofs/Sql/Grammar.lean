import BlockSearch.Index.Record
import BlockSearch.Proofs.Sql.Lexical
import BlockSearch.Sql.Reader
import BlockSearch.Sql.Table
import Mathlib.Order.Basic

/-!
# Reading conditions

Conditions in parentheses that are joined by `OR` are read as one condition, and such conditions
that are joined by `AND` are read from the left to the right. Every token is worth some fuel, and
that is enough to read it. A statement has as many parameters as its conditions refer to.
-/

namespace BlockSearch
namespace Sql
namespace Reader

/-- Tokens that close a condition in front of them. -/
inductive Closes : List Token → Prop
  | done : Closes []
  | paren (rest : List Token) : Closes (.sign ")" :: rest)
  | or (rest : List Token) : Closes (.word "OR" :: rest)
  | and (rest : List Token) : Closes (.word "AND" :: rest)
  | order (rest : List Token) : Closes (.word "ORDER" :: rest)
  | then (rest : List Token) : Closes (.word "THEN" :: rest)

/-- Some tokens are read as a condition in front of tokens that close it. -/
def Reads (tokens : List Token) (body : Expr) : Prop :=
  ∀ fuel rest, Closes rest → 16 * tokens.length ≤ fuel →
    inversion fuel (tokens ++ rest) = some (body, rest)

/-! ## Single conditions -/

theorem reads_regexp
    (field : Field)
    (number : Nat) :
    Reads [.word field.columnName, .word "REGEXP", .parameter (some number)]
      (.regexp (.column none field.columnName false) (.parameter number)) := by
  intro fuel rest closes enough
  obtain ⟨fuel, rfl⟩ : ∃ spare, fuel = spare + 48 := Nat.exists_eq_add_of_le' enough
  have positive (more : List Token) :
      keyword? "not" (.word field.columnName :: more) = none := by
    cases field <;> rfl
  have column (more : List Token) :
      relation (fuel + 47) (.word field.columnName :: .word "REGEXP" :: more) =
        some (.column none field.columnName false, .word "REGEXP" :: more) := by
    cases field <;> rfl
  rw [List.cons_append, inversion, positive]
  change (relation (fuel + 47) (.word field.columnName :: .word "REGEXP" :: _)).bind _ = _
  rw [column]
  cases closes <;> rfl

theorem reads_equal_box
    (number : Nat) :
    Reads [.word "box", .sign "=", .parameter (some number)]
      (.compare .equal (.column none "box" false) (.parameter number)) := by
  intro fuel rest closes enough
  obtain ⟨fuel, rfl⟩ : ∃ spare, fuel = spare + 48 := Nat.exists_eq_add_of_le' enough
  cases closes <;> rfl

theorem reads_like_path
    (number : Nat) :
    Reads [.word "path", .word "LIKE", .parameter (some number), .word "ESCAPE",
        .value (.text "\\")]
      (.likeEscaped (.column none "path" false) (.parameter number) (.value (.text "\\"))) := by
  intro fuel rest closes enough
  obtain ⟨fuel, rfl⟩ : ∃ spare, fuel = spare + 80 := Nat.exists_eq_add_of_le' enough
  cases closes <;> rfl

/-- A field by its name behind the name of its table. -/
def fieldTokens (table : Table) (field : Field) : List Token :=
  [.word table.name, .sign ".", .word field.columnName]

/-- A field of a table as it is read. -/
def fieldBody (table : Table) (field : Field) : Expr :=
  .column (some table.name) field.columnName false

theorem column_fieldTokens
    (table : Table)
    (field : Field)
    (more : List Token) :
    column (fieldTokens table field ++ more) = some (fieldBody table field, more) := by
  have first (rest : List Token) : name (.word table.name :: rest) = some (table.name, rest) := by
    rcases table with _ | _ | ⟨_ | _⟩ <;> rfl
  have second : name (.word field.columnName :: more) = some (field.columnName, more) := by
    cases field <;> rfl
  have point : sign? "." (.sign "." :: .word field.columnName :: more) =
      some (.word field.columnName :: more) := rfl
  simp only [column, fieldTokens, List.cons_append, List.nil_append, first, point, second,
    Option.bind_eq_bind, Option.bind_some, Option.map_some, fieldBody]

theorem signed_fieldTokens
    (table : Table)
    (field : Field)
    (fuel : Nat)
    (more : List Token) :
    signed (fuel + 2) (fieldTokens table field ++ more) = some (fieldBody table field, more) := by
  rw [← column_fieldTokens]
  rcases table with _ | _ | ⟨_ | _⟩ <;> rfl

theorem inversion_fieldTokens
    (table : Table)
    (field : Field)
    (fuel : Nat)
    {sign : Token}
    (tests : sign = .sign "=" ∨ sign = .word "LIKE")
    (more : List Token) :
    inversion (fuel + 16) (fieldTokens table field ++ sign :: more) =
      moreTests (fuel + 15) (fieldBody table field) (sign :: more) := by
  have positive : keyword? "not" (fieldTokens table field ++ sign :: more) = none := by
    rcases table with _ | _ | ⟨_ | _⟩ <;> rfl
  have operand := signed_fieldTokens table field (fuel + 10) (sign :: more)
  have collations (body : Expr) : moreCollations (fuel + 12) body (sign :: more) =
      some (body, sign :: more) := by
    rcases tests with rfl | rfl <;> rfl
  have texts (body : Expr) : moreJoined (fuel + 13) body (sign :: more) =
      some (body, sign :: more) := by
    rcases tests with rfl | rfl <;> rfl
  have relations (body : Expr) : moreRelations (fuel + 14) body (sign :: more) =
      some (body, sign :: more) := by
    rcases tests with rfl | rfl <;> rfl
  simp only [inversion, positive, relation, joined, collated, operand, collations, texts, relations,
    Option.bind_eq_bind, Option.bind_some]

theorem reads_equal_field
    (table : Table)
    (field : Field)
    (number : Nat) :
    Reads (fieldTokens table field ++ [.sign "=", .parameter (some number)])
      (.compare .equal (fieldBody table field) (.parameter number)) := by
  intro fuel rest closes enough
  obtain ⟨fuel, rfl⟩ : ∃ spare, fuel = spare + 80 := Nat.exists_eq_add_of_le' enough
  rw [List.append_assoc, List.cons_append, inversion_fieldTokens table field (fuel + 64) (.inl rfl)]
  cases closes <;> rfl

/-- A pattern for texts that hold the value of a parameter. -/
def holdingBody (number : Nat) : Expr :=
  .concat (.concat (.value (.text "%")) (.parameter number)) (.value (.text "%"))

theorem reads_like_field
    (table : Table)
    (field : Field)
    (number : Nat) :
    Reads
      (fieldTokens table field ++ [.word "LIKE", .value (.text "%"), .sign "||",
        .parameter (some number), .sign "||", .value (.text "%")])
      (.like (fieldBody table field) (holdingBody number)) := by
  intro fuel rest closes enough
  obtain ⟨fuel, rfl⟩ : ∃ spare, fuel = spare + 144 := Nat.exists_eq_add_of_le' enough
  rw [List.append_assoc, List.cons_append,
    inversion_fieldTokens table field (fuel + 128) (.inr rfl)]
  cases closes <;> rfl

/-- The sign of a comparison that binds like equality. -/
def equalitySign (equal : Bool) : Token := .sign (if equal then "=" else "<>")

/-- A comparison that binds like equality. -/
def equalityOf (equal : Bool) : Comparison := if equal then .equal else .different

theorem reads_compare_type
    (equal : Bool)
    (code : String) :
    Reads [.word "type", equalitySign equal, .value (.text code)]
      (.compare (equalityOf equal) (.column none "type" false) (.value (.text code))) := by
  intro fuel rest closes enough
  obtain ⟨fuel, rfl⟩ : ∃ spare, fuel = spare + 48 := Nat.exists_eq_add_of_le' enough
  cases equal <;> cases closes <;> rfl

/-! ## Lists of values -/

/-- Texts between commas. -/
def textTokens (texts : List String) : List Token :=
  [.sign ","].intercalate (texts.map fun text => [.value (.text text)])

theorem parameter_not_mem_textTokens
    (number : Option Nat)
    (texts : List String) :
    Token.parameter number ∉ textTokens texts := by
  intro member
  rcases Lists.mem_of_mem_intercalate member with comma | ⟨part, inside, here⟩
  · simp at comma
  · obtain ⟨text, -, rfl⟩ := List.mem_map.1 inside
    simp at here

theorem expressions_textTokens
    {texts : List String}
    (anyText : texts ≠ [])
    (rest : List Token)
    {fuel : Nat}
    (enough : 16 * (textTokens texts).length ≤ fuel) :
    expressions fuel (textTokens texts ++ .sign ")" :: rest) =
      some (texts.map fun text => .value (.text text), .sign ")" :: rest) := by
  induction texts generalizing fuel with
  | nil => contradiction
  | cons text texts inductionHypothesis =>
      cases texts with
      | nil =>
          obtain ⟨fuel, rfl⟩ : ∃ spare, fuel = spare + 16 := Nat.exists_eq_add_of_le' enough
          rfl
      | cons other texts =>
          have split : textTokens (text :: other :: texts) =
              .value (.text text) :: .sign "," :: textTokens (other :: texts) := by
            simp [textTokens]
          rw [split, List.length_cons, List.length_cons] at enough
          obtain ⟨fuel, rfl⟩ : ∃ spare, fuel = spare + 16 := ⟨fuel - 16, by omega⟩
          have later := @inductionHypothesis (by simp) (fuel + 15) (by omega)
          rw [split]
          change (expressions (fuel + 15) (textTokens (other :: texts) ++ .sign ")" :: rest)).map
            (fun part => (.value (.text text) :: part.1, part.2)) = _
          rw [later]
          rfl

/-- A test of membership in a list of texts, which may be empty. -/
theorem test_textTokens
    (texts : List String)
    (left : Expr)
    (rest : List Token)
    {fuel : Nat}
    (enough : 16 * (textTokens texts).length ≤ fuel) :
    test (fuel + 1) left (.word "IN" :: .sign "(" :: textTokens texts ++ .sign ")" :: rest) =
      some (some (.among left (texts.map fun text => .value (.text text))), rest) := by
  cases texts with
  | nil => rfl
  | cons text texts =>
      have read := expressions_textTokens (List.cons_ne_nil text texts) rest enough
      obtain ⟨more, split⟩ : ∃ more, textTokens (text :: texts) = .value (.text text) :: more := by
        cases texts <;> exact ⟨_, rfl⟩
      rw [split] at read ⊢
      change (expressions fuel (.value (.text text) :: more ++ .sign ")" :: rest)).bind
        (fun part => (sign? ")" part.2).bind fun rest => some (some (Expr.among left part.1), rest)) = _
      rw [read]
      rfl

theorem moreTests_of_test
    {fuel : Nat}
    {left body : Expr}
    {more rest : List Token}
    (tested : test fuel left (.word "IN" :: more) = some (some body, rest)) :
    moreTests (fuel + 1) left (.word "IN" :: more) = moreTests fuel body rest := by
  have other : ["is", "isnull", "notnull", "not"].all (fun word => !isKeyword "IN" word) = true := by
    decide
  simp only [List.all_cons, Bool.and_eq_true, Bool.not_eq_true', List.all_nil] at other
  obtain ⟨isWord, isNull, notNull, not, -⟩ := other
  have equality : equality? (.word "IN" :: more) = none := rfl
  simp [moreTests, equality, keyword?, isWord, isNull, notNull, not, tested]

theorem reads_type_in
    (texts : List String) :
    Reads (.word "type" :: .word "IN" :: .sign "(" :: textTokens texts ++ [.sign ")"])
      (.among (.column none "type" false) (texts.map fun text => .value (.text text))) := by
  intro fuel rest closes enough
  simp only [List.cons_append, List.length_cons, List.length_append, List.length_nil] at enough
  obtain ⟨fuel, rfl⟩ : ∃ spare, fuel = spare + 64 := ⟨fuel - 64, by omega⟩
  have tested := @test_textTokens texts (.column none "type" false) rest (fuel + 61) (by omega)
  have closed (body : Expr) : moreTests (fuel + 62) body rest = some (body, rest) := by
    cases closes <;> rfl
  change moreTests (fuel + 63) (.column none "type" false)
    (.word "IN" :: .sign "(" :: textTokens texts ++ [.sign ")"] ++ rest) = _
  rw [List.append_assoc, List.singleton_append]
  exact (moreTests_of_test tested).trans (closed _)

/-! ## Conditions joined by `OR` -/

/-- Conditions with `OR` between them. -/
def anyTokens (conditions : List (List Token)) : List Token :=
  [.word "OR"].intercalate conditions

/-- Conditions with `OR` in front of each. -/
def moreTokens (conditions : List (List Token)) : List Token :=
  conditions.flatMap fun condition => .word "OR" :: condition

theorem anyTokens_cons
    (first : List Token)
    (conditions : List (List Token)) :
    anyTokens (first :: conditions) = first ++ moreTokens conditions := by
  induction conditions generalizing first with
  | nil => simp [anyTokens, moreTokens]
  | cons second conditions inductionHypothesis =>
      have later := inductionHypothesis second
      rw [anyTokens] at later ⊢
      rw [List.intercalate_cons_cons, later, moreTokens, moreTokens, List.flatMap_cons]
      simp

/-- A condition or another one, joined to those before. -/
def anyBody (first : Expr) (bodies : List Expr) : Expr := bodies.foldl Expr.or first

theorem conjunction_of_inversion
    {fuel : Nat}
    {tokens rest : List Token}
    {body : Expr}
    (read : inversion (fuel + 1) tokens = some (body, rest))
    (ends : keyword? "and" rest = none) :
    conjunction (fuel + 2) tokens = some (body, rest) := by
  simp [conjunction, read, moreConjuncts, ends]

/-- A condition that is closed by `OR` or a parenthesis is read as a conjunction. -/
theorem Reads.conjunction
    {tokens more rest : List Token}
    {body : Expr}
    (reads : Reads tokens body)
    (closed : more = .sign ")" :: rest ∨ more = .word "OR" :: rest)
    (fuel : Nat)
    (enough : 16 * tokens.length + 2 ≤ fuel) :
    conjunction fuel (tokens ++ more) = some (body, more) := by
  obtain ⟨fuel, rfl⟩ : ∃ spare, fuel = spare + 2 := ⟨fuel - 2, by omega⟩
  rcases closed with rfl | rfl
  · exact conjunction_of_inversion (reads _ _ (.paren rest) (by omega)) rfl
  · exact conjunction_of_inversion (reads _ _ (.or rest) (by omega)) rfl

theorem closed_moreTokens
    (conditions : List (List Token))
    (rest : List Token) :
    ∃ more, moreTokens conditions ++ .sign ")" :: rest = .sign ")" :: more ∨
      moreTokens conditions ++ .sign ")" :: rest = .word "OR" :: more := by
  cases conditions with
  | nil => exact ⟨rest, .inl rfl⟩
  | cons condition conditions => exact ⟨_, .inr rfl⟩

variable {α : Type} {tokens : α → List Token} {body : α → Expr}

/-- The conditions that follow are joined to those before. -/
theorem moreDisjuncts_moreTokens
    {conditions : List α}
    (each : ∀ condition ∈ conditions, Reads (tokens condition) (body condition))
    (left : Expr)
    (rest : List Token)
    (fuel : Nat)
    (enough : 16 * (moreTokens (conditions.map tokens)).length + 1 ≤ fuel) :
    moreDisjuncts fuel left (moreTokens (conditions.map tokens) ++ .sign ")" :: rest) =
      some (anyBody left (conditions.map body), .sign ")" :: rest) := by
  induction conditions generalizing left fuel with
  | nil =>
      obtain ⟨fuel, rfl⟩ := Nat.exists_eq_add_of_le' enough
      rfl
  | cons condition conditions inductionHypothesis =>
      have split : moreTokens ((condition :: conditions).map tokens) =
          .word "OR" :: tokens condition ++ moreTokens (conditions.map tokens) := rfl
      rw [split, List.length_append, List.length_cons] at enough
      obtain ⟨fuel, rfl⟩ : ∃ spare, fuel = spare + 1 := ⟨fuel - 1, by omega⟩
      obtain ⟨more, closed⟩ := closed_moreTokens (conditions.map tokens) rest
      have read := (each condition List.mem_cons_self).conjunction closed fuel (by omega)
      have later := inductionHypothesis
        (fun condition member => each condition (List.mem_cons_of_mem _ member))
        (.or left (body condition)) fuel (by omega)
      rw [split, List.append_assoc, List.cons_append]
      change (Reader.conjunction fuel _).bind
        (fun part => moreDisjuncts fuel (.or left part.1) part.2) = _
      rw [read, Option.bind_some]
      exact later

theorem disjunction_anyTokens
    {condition : α}
    {conditions : List α}
    (each : ∀ one ∈ condition :: conditions, Reads (tokens one) (body one))
    (rest : List Token)
    (fuel : Nat)
    (enough : 16 * (anyTokens ((condition :: conditions).map tokens)).length + 3 ≤ fuel) :
    disjunction fuel (anyTokens ((condition :: conditions).map tokens) ++ .sign ")" :: rest) =
      some (anyBody (body condition) (conditions.map body), .sign ")" :: rest) := by
  rw [List.map_cons, anyTokens_cons, List.length_append] at enough
  obtain ⟨fuel, rfl⟩ : ∃ spare, fuel = spare + 1 := ⟨fuel - 1, by omega⟩
  obtain ⟨more, closed⟩ := closed_moreTokens (conditions.map tokens) rest
  have read := (each condition List.mem_cons_self).conjunction closed fuel (by omega)
  have later := moreDisjuncts_moreTokens
    (fun one member => each one (List.mem_cons_of_mem _ member)) (body condition) rest
    fuel (by omega)
  rw [List.map_cons, anyTokens_cons, List.append_assoc, disjunction, read, Option.bind_eq_bind,
    Option.bind_some]
  exact later

/-- What is read between parentheses stands for itself. -/
theorem inversion_of_parentheses
    {fuel : Nat}
    {tokens rest : List Token}
    {body : Expr}
    (closes : Closes rest)
    (read : disjunction (fuel + 1) (tokens ++ .sign ")" :: rest) =
      some (body, .sign ")" :: rest)) :
    inversion (fuel + 7) (.sign "(" :: (tokens ++ .sign ")" :: rest)) = some (body, rest) := by
  have operand : signed (fuel + 3) (.sign "(" :: (tokens ++ .sign ")" :: rest)) =
      some (body, rest) := by
    change (disjunction (fuel + 1) _).bind
      (fun part => (sign? ")" part.2).bind fun rest => some (part.1, rest)) = _
    rw [read]
    rfl
  have collations : moreCollations (fuel + 3) body rest = some (body, rest) := by
    cases closes <;> rfl
  have texts : moreJoined (fuel + 4) body rest = some (body, rest) := by
    cases closes <;> rfl
  have relations : moreRelations (fuel + 5) body rest = some (body, rest) := by
    cases closes <;> rfl
  have tests : moreTests (fuel + 6) body rest = some (body, rest) := by
    cases closes <;> rfl
  simp [inversion, keyword?, relation, joined, collated, operand, collations, texts, relations,
    tests]

/-- Conditions in parentheses with `OR` between them are read as one condition. -/
theorem reads_any
    {condition : α}
    {conditions : List α}
    (each : ∀ one ∈ condition :: conditions, Reads (tokens one) (body one)) :
    Reads (.sign "(" :: anyTokens ((condition :: conditions).map tokens) ++ [.sign ")"])
      (anyBody (body condition) (conditions.map body)) := by
  intro fuel rest closes enough
  rw [List.length_append, List.length_cons, List.length_singleton] at enough
  obtain ⟨fuel, rfl⟩ : ∃ spare, fuel = spare + 7 := ⟨fuel - 7, by omega⟩
  have read := disjunction_anyTokens each rest (fuel + 1) (by omega)
  rw [List.append_assoc, List.cons_append, List.singleton_append]
  exact inversion_of_parentheses closes read

/-! ## Conditions joined by `AND` -/

/-- Some tokens are read as the front of a conjunction, and some fuel is left. -/
def Joins (tokens : List Token) (body : Expr) : Prop :=
  ∀ spare rest, Closes rest → ∃ left, spare ≤ left ∧
    Reader.conjunction (spare + 16 * tokens.length + 1) (tokens ++ rest) =
      moreConjuncts left body rest

theorem Reads.joins
    {tokens : List Token}
    {body : Expr}
    (reads : Reads tokens body) :
    Joins tokens body := by
  intro spare rest closes
  refine ⟨spare + 16 * tokens.length, Nat.le_add_right _ _, ?_⟩
  rw [Reader.conjunction, reads _ _ closes (Nat.le_add_left _ _)]
  rfl

/-- One more condition is joined to a conjunction. -/
theorem Joins.and
    {tokens more : List Token}
    {body other : Expr}
    (joins : Joins tokens body)
    (reads : Reads more other) :
    Joins (tokens ++ .word "AND" :: more) (body.conjoin other) := by
  intro spare rest closes
  obtain ⟨left, enough, read⟩ := joins (spare + 16 * (more.length + 1)) _ (.and (more ++ rest))
  obtain ⟨left, rfl⟩ : ∃ spare, left = spare + 1 := ⟨left - 1, by omega⟩
  refine ⟨left, by omega, ?_⟩
  have fuel : spare + 16 * (tokens ++ .word "AND" :: more).length + 1 =
      spare + 16 * (more.length + 1) + 16 * tokens.length + 1 := by
    rw [List.length_append, List.length_cons]
    omega
  rw [fuel, List.append_assoc, List.cons_append, read]
  change (inversion left _).bind
    (fun part => moreConjuncts left (body.conjoin part.1) part.2) = _
  rw [reads _ _ closes (by omega)]
  rfl

/-- A conjunction in front of what ends it. -/
theorem Joins.disjunction
    {tokens rest : List Token}
    {body : Expr}
    (joins : Joins tokens body)
    (closes : Closes rest)
    (ends : keyword? "and" rest = none ∧ keyword? "or" rest = none)
    (fuel : Nat)
    (enough : 16 * tokens.length + 3 ≤ fuel) :
    Reader.disjunction fuel (tokens ++ rest) = some (body, rest) := by
  obtain ⟨fuel, rfl⟩ : ∃ spare, fuel = spare + 1 + 16 * tokens.length + 1 + 1 :=
    ⟨fuel - 16 * tokens.length - 3, by omega⟩
  obtain ⟨left, some, read⟩ := joins (fuel + 1) rest closes
  obtain ⟨left, rfl⟩ : ∃ spare, left = spare + 1 := ⟨left - 1, by omega⟩
  rw [Reader.disjunction, read]
  simp [moreConjuncts, moreDisjuncts, ends]

end Reader

/-! ## Parameters -/

/-- The parameters of some tokens have all numbers up to a greatest one, and no others. -/
structure Numbered (tokens : List Token) (count : Nat) : Prop where
  /-- Every parameter has a number. -/
  named : Token.parameter none ∉ tokens
  /-- The numbers. -/
  mem_iff : ∀ number, Token.parameter (some number) ∈ tokens ↔ 1 ≤ number ∧ number ≤ count

theorem mem_parameterNumbers
    {tokens : List Token}
    {number : Nat} :
    number ∈ parameterNumbers tokens ↔ Token.parameter (some number) ∈ tokens := by
  rw [parameterNumbers, List.mem_filterMap]
  constructor
  · rintro ⟨token, member, found⟩
    split at found
    · rwa [found] at member
    · contradiction
  · exact fun member => ⟨_, member, rfl⟩

theorem numberParameters_of_named
    {tokens : List Token}
    (named : Token.parameter none ∉ tokens)
    (greatest : Nat) :
    numberParameters greatest tokens = tokens := by
  induction tokens generalizing greatest with
  | nil => rfl
  | cons token tokens inductionHypothesis =>
      rw [List.mem_cons, not_or] at named
      obtain ⟨different, later⟩ := named
      cases token with
      | parameter number =>
          cases number with
          | none => exact absurd rfl different
          | some number => rw [numberParameters, inductionHypothesis later]
      | _ => rw [numberParameters, inductionHypothesis later] <;> simp

theorem foldl_max_le_iff
    {numbers : List Nat}
    {first bound : Nat} :
    numbers.foldl max first ≤ bound ↔ first ≤ bound ∧ ∀ number ∈ numbers, number ≤ bound := by
  induction numbers generalizing first with
  | nil => simp
  | cons number numbers inductionHypothesis =>
      rw [List.foldl_cons, inductionHypothesis, Nat.max_le, List.forall_mem_cons, and_assoc]

/-- A text is read as the statement that its tokens spell. -/
theorem read?_of_scans
    {c : Char}
    {text : List Char}
    {tokens : List Token}
    {count : Nat}
    {select : Select}
    (scans : Token.Scans text tokens)
    (begins : text.head? = some c)
    (front : Token.IsFront c)
    (numbered : Numbered tokens count)
    (read : ∀ fuel, 16 * tokens.length ≤ fuel →
      Reader.selection fuel tokens = some (select, [])) :
    Prepared.read? text = some ⟨select, count⟩ := by
  obtain ⟨rest, rfl⟩ := List.head?_eq_some_iff.1 begins
  have positive : 0 ∉ parameterNumbers tokens := by
    rw [mem_parameterNumbers, numbered.mem_iff]
    omega
  have greatest : (parameterNumbers tokens).foldl max 0 = count := by
    refine eq_of_forall_ge_iff fun bound => ?_
    rw [foldl_max_le_iff]
    simp only [mem_parameterNumbers, numbered.mem_iff]
    constructor
    · rintro ⟨-, below⟩
      rcases Nat.eq_zero_or_pos count with rfl | some
      · exact Nat.zero_le _
      · exact below count ⟨some, le_rfl⟩
    · exact fun below => ⟨Nat.zero_le _, fun number inside => inside.2.trans below⟩
  rw [Prepared.read?, scans.ofText? front, Option.bind_eq_bind, Option.bind_some,
    numberParameters_of_named numbered.named]
  simp [positive, greatest, read]

/-- A parameter is given a number unless it has one. -/
theorem exists_mem_numberParameters
    {greatest : Nat}
    {tokens : List Token}
    {number : Option Nat}
    (member : .parameter number ∈ tokens) :
    ∃ given, .parameter (some given) ∈ numberParameters greatest tokens := by
  fun_induction numberParameters greatest tokens with
  | case1 => cases member
  | case2 greatest rest => exact ⟨greatest + 1, List.mem_cons_self⟩
  | case3 greatest given rest => exact ⟨given, List.mem_cons_self⟩
  | case4 greatest token rest unnamed unnumbered inductionHypothesis =>
      rcases List.mem_cons.1 member with rfl | later
      · cases number with
        | none => exact absurd rfl unnamed
        | some given => exact absurd rfl (unnumbered given)
      · obtain ⟨given, found⟩ := inductionHypothesis later
        exact ⟨given, List.mem_cons_of_mem _ found⟩

/-- A statement without a parameter is read from its tokens as they are. -/
theorem exists_tokens_of_read?
    {text : List Char}
    {select : Select}
    (read : Prepared.read? text = some ⟨select, 0⟩) :
    ∃ tokens, Token.ofText? text = some tokens ∧ (∀ number, .parameter number ∉ tokens) ∧
      Reader.selection (16 * tokens.length + 16) tokens = some (select, []) := by
  rw [Prepared.read?, Option.bind_eq_bind, Option.bind_eq_some_iff] at read
  obtain ⟨tokens, spelled, read⟩ := read
  rw [Option.ite_none_left_eq_some] at read
  obtain ⟨positive, read⟩ := read
  split at read
  swap
  · cases read
  rename_i found selected
  rw [Option.some.injEq, Prepared.mk.injEq] at read
  obtain ⟨rfl, greatest⟩ := read
  have closed : ∀ number, Token.parameter number ∉ tokens := by
    intro number member
    obtain ⟨given, numbered⟩ := @exists_mem_numberParameters 0 _ _ member
    rw [← mem_parameterNumbers] at numbered
    have zero := Nat.le_zero.1 ((foldl_max_le_iff.1 greatest.le).2 given numbered)
    rw [zero] at numbered
    exact positive (List.contains_iff_mem.2 numbered)
  rw [numberParameters_of_named (closed none)] at selected
  exact ⟨tokens, spelled, closed, selected⟩

end Sql
end BlockSearch
