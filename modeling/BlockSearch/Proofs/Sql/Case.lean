import BlockSearch.Proofs.Sql.Answer
import BlockSearch.Proofs.Sql.Order
import Mathlib.Data.Prod.Lex

/-!
# Orders by cases

A case asks one condition after the other, and is the number that stands behind the first one that
holds, or a last one where none of them does. Rows that are put in order by a case, and by columns
of numbers where it is the same, come in the lexicographic order of these numbers. A case has no
number for a record on which a condition that it asks has no verdict.
-/

namespace BlockSearch
namespace Sql

/-! ## Tests -/

/-- A condition stands for itself where a table of records is named and parameters have values. -/
structure Clause.Tests (table : Table) (values : List String) (clause : Clause) : Prop where
  /-- The text has the tokens. -/
  spells : Spells clause.text clause.tokens
  /-- The tokens are read as the expression. -/
  joins : Reader.Joins clause.tokens clause.body
  /-- The expression is no plain zero. -/
  nonzero : clause.body.isZero = false
  /-- Its term decides as the condition does. -/
  decides : ∀ environment : Environment, environment.OnRecords table values →
    ∃ typed, resolveExpr environment clause.body = some typed ∧ typed.term.Decides clause.verdict
  /-- Every parameter has a number. -/
  named : Token.parameter none ∉ clause.tokens

section

variable {table : Table} {values : List String} {left right first : Clause} {clauses : List Clause}

/-- A test to which a condition is joined. -/
theorem Clause.Tests.and
    (tests : left.Tests table values)
    (stands : right.Stands values)
    (nonzero : right.body.isZero = false) :
    (left.and right).Tests table values where
  spells := by
    simpa [Clause.and] using tests.spells.joined stands.spells "AND" (by decide)
  joins := tests.joins.and stands.reads
  nonzero := by
    rw [Clause.and, conjoin_of_nonzero (by rw [tests.nonzero, nonzero, Bool.or_false])]
    rfl
  decides environment onRecords := by
    obtain ⟨first, resolvesLeft, decidesLeft⟩ := tests.decides environment onRecords
    obtain ⟨second, resolvesRight, decidesRight⟩ :=
      stands.means.resolves environment table onRecords
    refine ⟨⟨.and first.term second.term, none, none⟩, ?_, decidesLeft.and decidesRight⟩
    rw [Clause.and, conjoin_of_nonzero (by rw [tests.nonzero, nonzero, Bool.or_false]),
      resolveExpr, resolvesLeft, resolvesRight]
    rfl
  named := by simp [Clause.and, tests.named, stands.named]

/-- The condition that all of some conditions hold. -/
def Clause.all (first : Clause) (clauses : List Clause) : Clause := clauses.foldl Clause.and first

theorem Clause.Tests.all
    (tests : first.Tests table values)
    (each : ∀ clause ∈ clauses, clause.Stands values ∧ clause.body.isZero = false) :
    (Clause.all first clauses).Tests table values := by
  induction clauses generalizing first with
  | nil => exact tests
  | cons clause clauses inductionHypothesis =>
      obtain ⟨stands, nonzero⟩ := each clause List.mem_cons_self
      exact inductionHypothesis (tests.and stands nonzero) fun other member =>
        each other (List.mem_cons_of_mem clause member)

theorem Clause.text_all :
    (Clause.all first clauses).text =
      " AND ".intercalate (first.text :: clauses.map Clause.text) := by
  induction clauses generalizing first with
  | nil => simp [Clause.all, String.intercalate_singleton]
  | cons clause clauses inductionHypothesis =>
      have later := @inductionHypothesis (first.and clause)
      rw [Clause.all] at later ⊢
      rw [List.foldl_cons, later]
      cases clauses <;> simp [Clause.and, String.intercalate_cons_cons, String.append_assoc,
        String.intercalate_singleton]

/-- Of conditions behind the first one that can all be tested, all must hold. -/
theorem Clause.verdict_all
    {record : Record}
    (settled : ∀ clause ∈ clauses, (clause.verdict record).isSome = true) :
    (Clause.all first clauses).verdict record =
      bothOf (first.verdict record) (some (clauses.all fun clause => clause.holds record)) := by
  induction clauses generalizing first with
  | nil =>
      rw [Clause.all, List.foldl_nil, List.all_nil]
      rcases first.verdict record with _ | _ | _ <;> rfl
  | cons clause clauses inductionHypothesis =>
      obtain ⟨value, known⟩ := Option.isSome_iff_exists.1 (settled clause List.mem_cons_self)
      have later := @inductionHypothesis (first.and clause) fun other member =>
        settled other (List.mem_cons_of_mem clause member)
      rw [Clause.all] at later ⊢
      rw [List.foldl_cons, later, Clause.and, bothOf_assoc, known, bothOf_some, List.all_cons,
        Clause.holds_of_verdict known]

theorem Clause.parameter_mem_all
    {number : Option Nat} :
    Token.parameter number ∈ (Clause.all first clauses).tokens ↔
      ∃ clause ∈ first :: clauses, Token.parameter number ∈ clause.tokens := by
  induction clauses generalizing first with
  | nil => simp [Clause.all]
  | cons clause clauses inductionHypothesis =>
      have later := @inductionHypothesis (first.and clause)
      rw [Clause.all] at later ⊢
      rw [List.foldl_cons, later]
      simp [Clause.and, or_assoc]

end

/-! ## Cases -/

/-- The token of a number. -/
def numberToken (value : Nat) : Token := .number ⟨false, value, 0, true⟩

/-- A number as it is read. -/
def numberBody (value : Nat) : Expr := .value (.ofLiteral ⟨false, value, 0, true⟩)

/-- A case behind its opening word: conditions with numbers, and a last number. -/
inductive Case
  /-- The number where no condition holds. -/
  | last (value : Nat)
  /-- A condition, its number, and the rest of the case. -/
  | choose (clause : Clause) (value : Nat) (rest : Case)

namespace Case

/-- The text. -/
def text : Case → String
  | last value => " ELSE " ++ toString value ++ " END"
  | choose clause value rest =>
      " WHEN " ++ clause.text ++ " THEN " ++ toString value ++ rest.text

/-- The tokens. -/
def tokens : Case → List Token
  | last value => [.word "ELSE", numberToken value, .word "END"]
  | choose clause value rest =>
      .word "WHEN" :: (clause.tokens ++ .word "THEN" :: numberToken value :: rest.tokens)

/-- The expression that the case is read as. -/
def body : Case → Expr
  | last value => numberBody value
  | choose clause value rest => .choose clause.body (numberBody value) rest.body

/-- The number for a record: the one behind the first condition that holds of it. -/
def value (record : Record) : Case → Nat
  | last value => value
  | choose clause value rest => if clause.holds record then value else rest.value record

/-- Whether there is a number for a record: all conditions that are asked can be tested. -/
def settles (record : Record) : Case → Bool
  | last _ => true
  | choose clause _ rest =>
      (clause.verdict record).isSome && (clause.holds record || rest.settles record)

/-- The conditions of a case stand for themselves, and its numbers are integers. -/
inductive Stands (table : Table) (values : List String) : Case → Prop
  | last {value : Nat} (integer : value ≤ 9223372036854775807) : Stands table values (last value)
  | choose
      {clause : Clause}
      {value : Nat}
      {rest : Case}
      (tests : clause.Tests table values)
      (integer : value ≤ 9223372036854775807)
      (later : Stands table values rest) : Stands table values (choose clause value rest)

variable {table : Table} {values : List String} {case : Case}

/-! ### Writing cases -/

theorem apart_text (case : Case) (rest : List Char) : Token.Apart (case.text.toList ++ rest) := by
  cases case <;> simpa [text] using apart_blank _

theorem Stands.spells (stands : case.Stands table values) : Spells case.text case.tokens := by
  have ends (more : List Char) : Token.Ends (' ' :: more) := by
    rintro c ⟨⟩
    decide
  induction stands with
  | @last value integer =>
      intro rest more apart scans
      have number := (scans.word "END" (by decide) apart).blank.number value (ends _)
      have whole := (number.words ["ELSE"] (by decide)).blank
      simpa [text, tokens, numberToken] using whole
  | @choose clause value following tests integer later inductionHypothesis =>
      intro rest more apart scans
      have behind := inductionHypothesis rest more apart scans
      have start : Token.Ends (following.text.toList ++ rest) := by
        cases following <;> simpa [text] using ends _
      have number := ((behind.number value start).words ["THEN"] (by decide)).blank
      have whole := ((tests.spells _ _ (apart_blank _) number).words ["WHEN"] (by decide)).blank
      simpa [text, tokens, numberToken] using whole

theorem Stands.named
    (stands : case.Stands table values) :
    Token.parameter none ∉ case.tokens := by
  induction stands with
  | last integer => simp [tokens, numberToken]
  | choose tests integer later inductionHypothesis =>
      simp [tokens, numberToken, tests.named, inductionHypothesis]

/-! ### Reading cases -/

theorem disjunction_number
    (value fuel : Nat)
    {word : String}
    (behind : word = "WHEN" ∨ word = "ELSE" ∨ word = "END")
    (more : List Token) :
    Reader.disjunction (fuel + 16) (numberToken value :: .word word :: more) =
      some (numberBody value, .word word :: more) := by
  rcases behind with rfl | rfl | rfl <;> rfl

/-- Behind a number stands a word. -/
theorem exists_word_tokens (case : Case) :
    ∃ word more, (word = "WHEN" ∨ word = "ELSE" ∨ word = "END") ∧
      case.tokens = .word word :: more := by
  cases case with
  | last value => exact ⟨"ELSE", _, .inr (.inl rfl), rfl⟩
  | choose clause value rest => exact ⟨"WHEN", _, .inl rfl, rfl⟩

theorem Stands.otherChoices
    (stands : case.Stands table values)
    (behind : List Token)
    {fuel : Nat}
    (enough : 16 * case.tokens.length ≤ fuel) :
    Reader.otherChoices fuel (case.tokens ++ behind) = some (case.body, behind) := by
  induction stands generalizing fuel with
  | @last value integer =>
      obtain ⟨fuel, rfl⟩ : ∃ spare, fuel = spare + 48 := Nat.exists_eq_add_of_le' enough
      have number := disjunction_number value (fuel + 31) (.inr (.inr rfl)) behind
      change (Reader.disjunction (fuel + 47) (numberToken value :: .word "END" :: behind)).bind
        (fun part => (Reader.keyword? "end" part.2).bind fun rest => some (part.1, rest)) = _
      rw [number]
      rfl
  | @choose clause value rest tests integer later inductionHypothesis =>
      simp only [tokens, List.length_cons, List.length_append] at enough
      obtain ⟨fuel, rfl⟩ : ∃ spare, fuel = spare + 18 := ⟨fuel - 18, by omega⟩
      have opening (more : List Token) :
          Reader.keyword? "when" (.word "WHEN" :: more) = some more := rfl
      have closing (more : List Token) :
          Reader.keyword? "then" (.word "THEN" :: more) = some more := rfl
      have condition := tests.joins.disjunction
        (.then (numberToken value :: rest.tokens ++ behind)) ⟨rfl, rfl⟩ (fuel + 16) (by omega)
      obtain ⟨word, more, known, same⟩ := rest.exists_word_tokens
      have number := disjunction_number value fuel known (more ++ behind)
      have others := @inductionHypothesis (fuel + 16) (by omega)
      rw [same, List.cons_append] at others condition
      change Reader.choices (fuel + 17) _ = _
      rw [tokens, List.cons_append, List.append_assoc, same]
      simp only [List.cons_append] at condition ⊢
      simp only [Reader.choices, opening, closing, condition, number, others, Option.bind_eq_bind,
        Option.bind_some, body]

/-- A case in front of the direction of an order. -/
theorem disjunction_of_choices
    {fuel : Nat}
    {more behind : List Token}
    {body : Expr}
    (read : Reader.choices (fuel + 1) (.word "WHEN" :: more) =
      some (body, .word "ASC" :: behind)) :
    Reader.disjunction (fuel + 9) (.word "CASE" :: .word "WHEN" :: more) =
      some (body, .word "ASC" :: behind) := by
  have operand : Reader.signed (fuel + 3) (.word "CASE" :: .word "WHEN" :: more) =
      some (body, .word "ASC" :: behind) := read
  have collations : Reader.moreCollations (fuel + 3) body (.word "ASC" :: behind) =
      some (body, .word "ASC" :: behind) := rfl
  have texts : Reader.moreJoined (fuel + 4) body (.word "ASC" :: behind) =
      some (body, .word "ASC" :: behind) := rfl
  have relations : Reader.moreRelations (fuel + 5) body (.word "ASC" :: behind) =
      some (body, .word "ASC" :: behind) := rfl
  have tests : Reader.moreTests (fuel + 6) body (.word "ASC" :: behind) =
      some (body, .word "ASC" :: behind) := rfl
  have conjuncts : Reader.moreConjuncts (fuel + 7) body (.word "ASC" :: behind) =
      some (body, .word "ASC" :: behind) := rfl
  have disjuncts : Reader.moreDisjuncts (fuel + 8) body (.word "ASC" :: behind) =
      some (body, .word "ASC" :: behind) := rfl
  have positive : Reader.keyword? "not" (.word "CASE" :: .word "WHEN" :: more) = none := rfl
  simp [Reader.disjunction, Reader.conjunction, Reader.inversion, positive, Reader.relation,
    Reader.joined, Reader.collated, operand, collations, texts, relations, tests, conjuncts,
    disjuncts]

/-! ### Orders -/

/-- The tokens of the columns that decide where a case is the same. -/
def tieTokens : List Token :=
  [.word "ASC", .sign ",", .word "sort", .word "ASC", .sign ",", .word "length", .word "ASC"]

/-- The order by a case, and by the place of the type and the length where it is the same. -/
def sorting (case : Case) : Reader.Sorting where
  text := "ORDER BY CASE" ++ case.text ++ " ASC, sort ASC, length ASC"
  tokens := .word "CASE" :: (case.tokens ++ tieTokens)
  terms := [(case.body, false), (.column none "sort" false, false),
    (.column none "length" false, false)]

variable {clause : Clause} {first : Nat} {rest : Case}

theorem Stands.reads_sorting
    (stands : (Case.choose clause first rest).Stands table values) :
    (Case.choose clause first rest).sorting.Reads := by
  intro fuel limit enough
  have size : (Case.choose clause first rest).sorting.tokens.length =
      (Case.choose clause first rest).tokens.length + 8 := by
    simp [sorting, tieTokens]
  obtain ⟨fuel, rfl⟩ : ∃ spare, fuel = spare + 64 := ⟨fuel - 64, by omega⟩
  let columns : List Token :=
    [.word "sort", .word "ASC", .sign ",", .word "length", .word "ASC"] ++ Reader.limitTokens limit
  have read := stands.otherChoices (.word "ASC" :: .sign "," :: columns)
    (show 16 * (Case.choose clause first rest).tokens.length ≤ fuel + 56 by omega)
  have body : Reader.disjunction (fuel + 63)
      (.word "CASE" :: ((Case.choose clause first rest).tokens ++
        .word "ASC" :: .sign "," :: columns)) =
      some ((Case.choose clause first rest).body, .word "ASC" :: .sign "," :: columns) :=
    disjunction_of_choices read
  have ties : Reader.orderTerms (fuel + 63) columns =
      some ([(.column none "sort" false, false), (.column none "length" false, false)],
        Reader.limitTokens limit) := rfl
  have split : (Case.choose clause first rest).sorting.tokens ++ Reader.limitTokens limit =
      .word "CASE" :: ((Case.choose clause first rest).tokens ++
        .word "ASC" :: .sign "," :: columns) := by
    simp [sorting, tieTokens, columns]
  have ascending : Reader.keyword? "asc" (.word "ASC" :: .sign "," :: columns) =
      some (.sign "," :: columns) := rfl
  have comma : Reader.sign? "," (.sign "," :: columns) = some columns := rfl
  rw [split, Reader.orderTerms]
  simp only [body, ascending, comma, ties, Option.bind_eq_bind, Option.bind_some, Option.map_some]
  rfl

theorem Stands.stands_sorting
    (stands : (Case.choose clause first rest).Stands table values)
    (low : (Case.choose clause first rest).body.height?.isSome = true)
    {bound count : Nat}
    (numbers : ∀ number,
      Token.parameter (some number) ∈ (Case.choose clause first rest).tokens ↔
        bound < number ∧ number ≤ count)
    (least : bound ≤ count) :
    (Case.choose clause first rest).sorting.Stands bound count where
  spells := by
    intro behind more apart scans
    have length := ((scans.word "ASC" (by decide) apart).words ["length"] (by decide)).blank.sign
      (c := ',') (by decide)
    have columns := ((length.word "ASC" (by decide) (apart_comma _)).words ["sort"]
      (by decide)).blank.sign (c := ',') (by decide)
    have ties := (columns.word "ASC" (by decide) (apart_comma _)).blank
    have case := stands.spells _ _ (apart_blank _) ties
    have whole := (case.word "CASE" (by decide)
      ((Case.choose clause first rest).apart_text _)).words ["ORDER", "BY"] (by decide)
    simpa [sorting, tieTokens] using whole
  reads := stands.reads_sorting
  named := by simp [sorting, tieTokens, stands.named]
  mem_iff number := by simp [sorting, tieTokens, numbers]
  le := least
  low := by
    obtain ⟨height, known⟩ := Option.isSome_iff_exists.1 low
    simp [sorting, orderHeight?, Expr.height?, known]

/-! ### Values -/

theorem Stands.resolves
    (stands : case.Stands table values)
    {environment : Environment}
    (onRecords : environment.OnRecords table values) :
    ∃ typed, resolveExpr environment case.body = some typed ∧
      ∀ store outer record hidden,
        typed.term.eval store outer [] (Record.toRow record ++ hidden) =
          if case.settles record then some (.integer (case.value record)) else none := by
  induction stands generalizing environment with
  | @last value integer =>
      refine ⟨⟨.value (.integer value), none, none⟩, ?_, fun _ _ _ _ => rfl⟩
      rw [body, numberBody, resolveExpr, Value.ofLiteral_natCast integer]
  | @choose clause value rest tests integer later inductionHypothesis =>
      obtain ⟨condition, resolvesCondition, decides⟩ := tests.decides _ onRecords.inner
      obtain ⟨second, resolvesSecond, evaluated⟩ := inductionHypothesis onRecords.inner
      refine ⟨⟨.choose condition.term (.value (.integer value)) second.term, none,
        condition.collation.or (none.or second.collation)⟩, ?_,
        fun store outer record hidden => ?_⟩
      · rw [body, numberBody, resolveExpr, resolvesCondition, resolveExpr,
          Value.ofLiteral_natCast integer, resolvesSecond]
        rfl
      · rw [Term.eval, decides, settles, Case.value]
        cases known : clause.verdict record with
        | none => rfl
        | some holds =>
            rw [Clause.holds_of_verdict known, Option.map_some, Option.bind_eq_bind,
              Option.bind_some, Value.truth_ofBool]
            cases holds with
            | true => rw [if_pos rfl, Term.eval]; rfl
            | false => simp [evaluated]

/-! ### Keys -/

/-- What records are ordered by: the case, the place of the type, and the length. -/
def key (case : Case) (record : Record) : Nat ×ₗ Int ×ₗ Int :=
  toLex (case.value record, toLex (record.sort, record.length))

/-- The values that the row of a record is ordered by. -/
def keyRow (case : Case) (record : Record) : Row :=
  [.integer (case.value record), .integer record.sort, .integer record.length]

/-- The order that a case is resolved to, where it has a term. -/
def orderOf (term : Term) (collation : Collation) : List (Term × Collation × Bool) :=
  [(term, collation, false), (.column 0 (recordColumn "sort"), .binary, false),
    (.column 0 (recordColumn "length"), .binary, false)]

theorem evalKeys_orderOf
    {term : Term}
    (evaluated : ∀ store outer record hidden,
      term.eval store outer [] (Record.toRow record ++ hidden) =
        if case.settles record then some (.integer (case.value record)) else none)
    (collation : Collation)
    (store : Store)
    (record : Record)
    (hidden : Row) :
    evalKeys store [] [] (Record.toRow record ++ hidden) (orderOf term collation) =
      if case.settles record then some (case.keyRow record) else none := by
  simp only [orderOf, evalKeys, evaluated, Term.eval, Option.bind_eq_bind, Option.bind_some]
  split_ifs <;> rfl

/-- Rows do not come in the order of a case, since the place of the type is part of it. -/
theorem mustSort_orderOf (term : Term) (collation : Collation) :
    MustSort (orderOf term collation) := by
  refine mustSort_of_column fun columns found => ⟨recordColumn "sort", ?_, by decide⟩
  rw [Option.mem_def, orderColumns?, Option.ite_none_right_eq_some] at found
  obtain ⟨index, member, same⟩ := Lists.exists_result_of_mem_mapM found.2
    (List.mem_cons_of_mem _ List.mem_cons_self)
  cases same
  exact member

/-- Integers are compared first, and what follows where they are the same. -/
theorem keysAllow_integer
    {collation : Collation}
    {rules : List (Collation × Bool)}
    {first second : Int}
    {left right : Row} :
    keysAllow ((collation, false) :: rules) (.integer first :: left) (.integer second :: right) =
        true ↔
      first < second ∨ first = second ∧ keysAllow rules left right = true := by
  rw [keysAllow, Value.ordering]
  rcases lt_trichotomy first second with less | same | greater
  · simp [compare_lt_iff_lt.2 less, less]
  · simp [same]
  · simp [compare_gt_iff_gt.2 greater, greater.not_gt, greater.ne']

theorem keysAllow_keyRow
    {term : Term}
    {collation : Collation}
    {first second : Record} :
    keysAllow ((orderOf term collation).map (·.2)) (case.keyRow first) (case.keyRow second) =
        true ↔
      case.key first ≤ case.key second := by
  have nothing : keysAllow [] [] [] = true := rfl
  simp only [orderOf, keyRow, key, List.map_cons, List.map_nil, keysAllow_integer, nothing,
    and_true, Prod.Lex.toLex_le_toLex, Int.ofNat_lt, Int.natCast_inj]
  rw [← le_iff_lt_or_eq]

/-- What is sorted by a key is in the order of the keys. -/
theorem pairwise_mergeSort_key
    {α κ : Type}
    [LinearOrder κ]
    (key : α → κ)
    (items : List α) :
    (items.mergeSort fun first second => decide (key first ≤ key second)).Pairwise
      fun first second => key first ≤ key second := by
  have sorted : (items.mergeSort fun first second => decide (key first ≤ key second)).Pairwise
      fun first second => decide (key first ≤ key second) = true := by
    apply List.pairwise_mergeSort
    · intro first second third early late
      rw [decide_eq_true_iff] at early late ⊢
      exact early.trans late
    · intro first second
      rw [Bool.or_eq_true, decide_eq_true_iff, decide_eq_true_iff]
      exact le_total _ _
  exact sorted.imp of_decide_eq_true

/-- Rows that are put in order by a case are those of records in the order of their keys. -/
theorem pairwise_mergeSort
    {store : Store}
    {term : Term}
    {collation : Collation}
    {hidden : Record × Nat → Row}
    {entries : List (Record × Nat)}
    (keyed : ∀ entry ∈ entries,
      evalKeys store [] [] (entryRow hidden entry) (orderOf term collation) =
        some (case.keyRow entry.1)) :
    ((entries.mergeSort fun a b => rowsAllow store (orderOf term collation) (entryRow hidden a)
      (entryRow hidden b)).map Prod.fst).Pairwise
        fun first second => case.key first ≤ case.key second := by
  -- The comparison is only known to be one of keys where there are keys.
  have compared : entries.mergeSort (fun a b => rowsAllow store (orderOf term collation)
      (entryRow hidden a) (entryRow hidden b)) =
        entries.mergeSort fun a b => decide (case.key a.1 ≤ case.key b.1) := by
    have same := @List.map_mergeSort _ _
      (fun a b => rowsAllow store (orderOf term collation) (entryRow hidden a) (entryRow hidden b))
      (fun a b => decide (case.key a.1 ≤ case.key b.1)) id entries fun first here second there => by
        rw [rowsAllow, keyed first here, keyed second there, Bool.eq_iff_iff, decide_eq_true_iff]
        exact keysAllow_keyRow
    rwa [List.map_id, List.map_id] at same
  rw [compared, List.pairwise_map]
  exact pairwise_mergeSort_key (fun entry : Record × Nat => case.key entry.1) entries

end Case

end Sql
end BlockSearch
