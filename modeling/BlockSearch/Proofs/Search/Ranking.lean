import BlockSearch.Proofs.Search.Keyword
import BlockSearch.Proofs.Sql.Case
import BlockSearch.Proofs.Sql.Like
import BlockSearch.Search.Reference
import Mathlib.Data.List.Permutation

/-!
# Ranks of targets

The records that are offered as targets of a reference are put in order by the first rung of a
ladder that they are on, by their types, and by their lengths. Each rung is a condition of a case in
the statement, and all of them refer to one value, which is the keyword. Where a rung asks for a
text that holds the keyword, the keyword is part of a pattern, so that wildcards in it count. A
keyword that makes the pattern too long has a rank only where an earlier rung is met.
-/

namespace BlockSearch
namespace Target

open Sql

/-! ## Rungs as conditions -/

/-- A text has the form of a pattern for texts that hold the keyword. -/
def holdsPattern (keyword text : String) : Bool :=
  Like.holds none ('%' :: keyword.toList ++ ['%']) text.toList

/-- A field passes a test if it is the keyword or has the form of a pattern with it. -/
def FieldTest.passes (keyword text : String) : FieldTest → Bool
  | .equals => text == keyword
  | .holds => holdsPattern keyword text

/-- Whether a field passes a test, if the pattern that is asked for is not too long. -/
def FieldTest.verdict (keyword text : String) : FieldTest → Option Bool
  | .equals => some (text == keyword)
  | .holds => Like.verdict none ("%" ++ keyword ++ "%") text

/-- The pattern with a keyword is not too long. -/
def IsShort (keyword : String) : Prop := keyword.utf8ByteSize + 2 ≤ Like.greatestSize

instance (keyword : String) : Decidable (IsShort keyword) :=
  inferInstanceAs (Decidable (_ ≤ _))

theorem utf8ByteSize_pattern (keyword : String) :
    ("%" ++ keyword ++ "%").utf8ByteSize = keyword.utf8ByteSize + 2 := by
  have percent : "%".utf8ByteSize = 1 := rfl
  rw [String.utf8ByteSize_append, String.utf8ByteSize_append, percent]
  omega

/-- A test that can be made has the outcome that the field passes it or not. -/
theorem FieldTest.passes_of_verdict
    {keyword text : String}
    {test : FieldTest}
    {outcome : Bool}
    (known : test.verdict keyword text = some outcome) :
    test.passes keyword text = outcome := by
  cases test with
  | equals => exact Option.some.inj known
  | holds =>
      rw [verdict, Like.verdict, Option.ite_none_left_eq_some] at known
      have inside : ("%" ++ keyword ++ "%").toList = '%' :: keyword.toList ++ ['%'] := by simp
      rw [passes, holdsPattern, ← inside]
      exact Option.some.inj known.2

/-- Every test can be made for a keyword that is not too long. -/
theorem FieldTest.isSome_verdict
    {keyword : String}
    (short : IsShort keyword)
    (text : String)
    (test : FieldTest) :
    (test.verdict keyword text).isSome = true := by
  cases test with
  | equals => rfl
  | holds =>
      rw [verdict, Like.verdict_of_le ((utf8ByteSize_pattern keyword).trans_le short)]
      rfl

/-- What is asked of a field, where the keyword has a number. -/
def FieldTest.clause
    (table : Table)
    (field : Field)
    (number : Nat)
    (keyword : String)
    (test : FieldTest) : Clause where
  text := test.text (table.name ++ "." ++ field.columnName) ("?" ++ toString number)
  tokens := Reader.fieldTokens table field ++
    match test with
    | .equals => [.sign "=", .parameter (some number)]
    | .holds => [.word "LIKE", .value (.text "%"), .sign "||", .parameter (some number),
        .sign "||", .value (.text "%")]
  body :=
    match test with
    | .equals => .compare .equal (Reader.fieldBody table field) (.parameter number)
    | .holds => .like (Reader.fieldBody table field) (Reader.holdingBody number)
  verdict record := test.verdict keyword (record.text field)

theorem scans_field
    (table : Table)
    (field : Field)
    {rest : List Char}
    {tokens : List Token}
    (scans : Token.Scans (' ' :: rest) tokens) :
    Token.Scans ((table.name ++ "." ++ field.columnName).toList ++ ' ' :: rest)
      (Reader.fieldTokens table field ++ tokens) := by
  have plain : Token.isWord field.columnName.toList = true := by cases field <;> decide
  have undigit : ∀ c ∈ (field.columnName.toList ++ ' ' :: rest).head?, c.isDigit = false := by
    cases field <;> rintro c ⟨⟩ <;> decide
  have point := (scans.word _ plain (apart_blank rest)).point undigit
  have apart : Token.Apart ('.' :: (field.columnName.toList ++ ' ' :: rest)) := by
    rintro c ⟨⟩
    decide
  have whole := point.word table.name (isWord_name table) apart
  simpa [Reader.fieldTokens] using whole

theorem FieldTest.spells_clause
    (table : Table)
    (field : Field)
    (number : Nat)
    (keyword : String)
    (test : FieldTest) :
    Spells (test.clause table field number keyword).text
      (test.clause table field number keyword).tokens := by
  intro rest more apart scans
  cases test with
  | equals =>
      have whole := scans_field table field
        ((scans.parameter number apart).blank.equals (apart_blank _)).blank
      simpa [clause, text] using whole
  | holds =>
      have percent : (String.ofList ['%']).toList.all
          (fun c => c != '\'' && c != '\x00') = true := by decide
      have last := (spells_quoted percent _ _ apart scans).blank.bars.blank
      have place := (last.parameter number (apart_blank _)).blank.bars.blank
      have first := (spells_quoted percent _ _ (apart_blank _) place).words ["LIKE"] (by decide)
      have whole := scans_field table field first.blank
      simpa [clause, text] using whole

theorem FieldTest.tests_clause
    {values : List String}
    {keyword : String}
    {number : Nat}
    (bound : values[number - 1]? = some keyword)
    (table : Table)
    (field : Field)
    (test : FieldTest) :
    (test.clause table field number keyword).Tests table values where
  spells := test.spells_clause table field number keyword
  joins := by
    cases test with
    | equals => exact (Reader.reads_equal_field table field number).joins
    | holds => exact (Reader.reads_like_field table field number).joins
  nonzero := by cases test <;> rfl
  decides environment onRecords := by
    have column := onRecords.inner.resolve_field field
    cases test with
    | equals =>
        refine ⟨⟨.compare .equal ⟨table.textAffinity, .binary⟩
          (.column 0 (recordColumn field.columnName)) (.value (.text keyword)), none, none⟩, ?_, ?_⟩
        · change resolveExpr environment
            (.compare .equal (Reader.fieldBody table field) (.parameter number)) = _
          rw [resolveExpr, column, onRecords.inner.resolve_parameter bound]
          rfl
        · have equal := decides_equality (names_columnName field).value
            table.textAffinity_ne_numeric true keyword
          simp only [beq_true, Reader.equalityOf, if_true] at equal
          exact equal
    | holds =>
        refine ⟨⟨.like (.column 0 (recordColumn field.columnName))
          (.concat (.concat (.value (.text "%")) (.value (.text keyword))) (.value (.text "%"))),
          none, none⟩, ?_, decides_holding (names_columnName field).value keyword⟩
        change resolveExpr environment
          (.like (Reader.fieldBody table field) (Reader.holdingBody number)) = _
        rw [resolveExpr, column, Reader.holdingBody, resolveExpr, resolveExpr, resolveExpr,
          onRecords.inner.inner.inner.resolve_parameter bound, resolveExpr]
        rfl
  named := by cases test <;> simp [clause, Reader.fieldTokens]

theorem FieldTest.parameter_mem_clause
    {table : Table}
    {field : Field}
    {number other : Nat}
    {keyword : String}
    {test : FieldTest} :
    Token.parameter (some other) ∈ (test.clause table field number keyword).tokens ↔
      other = number := by
  cases test <;> simp [clause, Reader.fieldTokens]

/-- A type passes a test if it has the code, or if it does not. -/
def TypeTest.passes (type : String) : TypeTest → Bool
  | .equals code => (type == code) == true
  | .differs code => (type == code) == false

/-- The code that a type is tested for. -/
def TypeTest.code : TypeTest → String
  | .equals code => code
  | .differs code => code

/-- Whether a type is to have the code. -/
def TypeTest.isEqual : TypeTest → Bool
  | .equals _ => true
  | .differs _ => false

/-- What is asked of the type. -/
def TypeTest.clause (test : TypeTest) : Clause where
  text := test.text
  tokens := [.word "type", Reader.equalitySign test.isEqual, .value (.text test.code)]
  body := .compare (Reader.equalityOf test.isEqual) (.column none "type" false)
    (.value (.text test.code))
  verdict record := some ((record.type == test.code) == test.isEqual)

theorem TypeTest.stands_clause
    (values : List String)
    {test : TypeTest}
    (plain : test.code.toList.all (fun c => c != '\'' && c != '\x00') = true) :
    test.clause.Stands values where
  spells := by
    intro rest more apart scans
    have code := (spells_quoted plain _ _ apart scans).blank
    cases test with
    | equals code =>
        have whole := (code.equals (apart_blank _)).words ["type"] (by decide)
        simpa [clause, text, Reader.equalitySign, isEqual, TypeTest.code] using whole
    | differs code =>
        have whole := code.differs.words ["type"] (by decide)
        simpa [clause, text, Reader.equalitySign, isEqual, TypeTest.code] using whole
  reads := Reader.reads_compare_type test.isEqual test.code
  means := means_compare_type values test.isEqual test.code
  named := by simp [clause, Reader.equalitySign]

/-- What a rung asks of a record. -/
def Rung.clause (table : Table) (number : Nat) (keyword : String) (rung : Rung) : Clause :=
  .all (rung.test.clause table rung.field number keyword) (rung.types.map TypeTest.clause)

/-- A record is on a rung if its field and its type pass the tests. -/
def Rung.passes (keyword : String) (record : Record) (rung : Rung) : Bool :=
  rung.test.passes keyword (record.text rung.field) && rung.types.all (TypeTest.passes record.type)

/-- The field of a rung is tested before the type, of which there is always a verdict. -/
theorem Rung.verdict_clause
    (table : Table)
    (number : Nat)
    (keyword : String)
    (rung : Rung)
    (record : Record) :
    (rung.clause table number keyword).verdict record =
      bothOf (rung.test.verdict keyword (record.text rung.field))
        (some (rung.types.all (TypeTest.passes record.type))) := by
  have types (test : TypeTest) : test.clause.holds record = test.passes record.type := by
    cases test <;> exact Clause.holds_of_verdict rfl
  rw [clause, Clause.verdict_all, List.all_map]
  · simp only [Function.comp_def, types]
    rfl
  · intro clause member
    obtain ⟨test, -, rfl⟩ := List.mem_map.1 member
    rfl

/-- A rung that can be asked for holds of the records that are on it. -/
theorem Rung.passes_of_verdict
    {table : Table}
    {number : Nat}
    {keyword : String}
    {rung : Rung}
    {record : Record}
    {outcome : Bool}
    (known : (rung.clause table number keyword).verdict record = some outcome) :
    rung.passes keyword record = outcome := by
  rw [verdict_clause] at known
  cases field : rung.test.verdict keyword (record.text rung.field) with
  | none =>
      rw [field] at known
      cases known
  | some first =>
      rw [field, bothOf_some, Option.some.injEq] at known
      rw [passes, FieldTest.passes_of_verdict field, known]

theorem Rung.text_clause
    (table : Table)
    (number : Nat)
    (keyword : String)
    (rung : Rung) :
    (rung.clause table number keyword).text = rung.text table.name ("?" ++ toString number) := by
  rw [clause, Clause.text_all, List.map_map]
  rfl

theorem Rung.parameter_mem_clause
    {table : Table}
    {number other : Nat}
    {keyword : String}
    {rung : Rung} :
    Token.parameter (some other) ∈ (rung.clause table number keyword).tokens ↔
      other = number := by
  rw [clause, Clause.parameter_mem_all]
  simp [FieldTest.parameter_mem_clause, TypeTest.clause, Reader.equalitySign]

/-- The codes of a rung can be quoted. -/
def Rung.IsPlain (rung : Rung) : Prop :=
  ∀ test ∈ rung.types, test.code.toList.all (fun c => c != '\'' && c != '\x00') = true

instance (rung : Rung) : Decidable rung.IsPlain :=
  inferInstanceAs (Decidable (∀ test ∈ rung.types, _))

theorem Rung.tests_clause
    {values : List String}
    {keyword : String}
    {number : Nat}
    (bound : values[number - 1]? = some keyword)
    (table : Table)
    {rung : Rung}
    (plain : rung.IsPlain) :
    (rung.clause table number keyword).Tests table values := by
  refine (FieldTest.tests_clause bound table rung.field rung.test).all fun clause member => ?_
  obtain ⟨test, inside, rfl⟩ := List.mem_map.1 member
  exact ⟨test.stands_clause values (plain test inside), rfl⟩

/-! ## The ladder as a case -/

/-- The case that some rungs make up. -/
def caseOf (table : Table) (number : Nat) (keyword : String) : List Rung → Case
  | [] => .last lastRank
  | rung :: rungs =>
      .choose (rung.clause table number keyword) rung.rank (caseOf table number keyword rungs)

theorem text_caseOf
    (table : Table)
    (number : Nat)
    (keyword : String)
    (rungs : List Rung) :
    (caseOf table number keyword rungs).text =
      String.join (rungs.map (Rung.choice table.name ("?" ++ toString number))) ++ " ELSE " ++
        toString lastRank ++ " END" := by
  induction rungs with
  | nil => simp [caseOf, Case.text, String.join]
  | cons rung rungs inductionHypothesis =>
      rw [caseOf, Case.text, inductionHypothesis, Rung.text_clause]
      simp [Rung.choice, String.join_cons, String.append_assoc]

theorem stands_caseOf
    {values : List String}
    {keyword : String}
    {number : Nat}
    (bound : values[number - 1]? = some keyword)
    (table : Table)
    {rungs : List Rung}
    (plain : ∀ rung ∈ rungs, rung.IsPlain ∧ rung.rank ≤ 9223372036854775807) :
    (caseOf table number keyword rungs).Stands table values := by
  induction rungs with
  | nil => exact .last (by decide)
  | cons rung rungs inductionHypothesis =>
      obtain ⟨codes, small⟩ := plain rung List.mem_cons_self
      exact .choose (Rung.tests_clause bound table codes) small
        (inductionHypothesis fun other member => plain other (List.mem_cons_of_mem rung member))

theorem parameter_mem_caseOf
    {table : Table}
    {number other : Nat}
    {keyword : String}
    {rungs : List Rung} :
    Token.parameter (some other) ∈ (caseOf table number keyword rungs).tokens ↔
      rungs ≠ [] ∧ other = number := by
  induction rungs with
  | nil => simp [caseOf, Case.tokens, numberToken]
  | cons rung rungs inductionHypothesis =>
      simp [caseOf, Case.tokens, numberToken, Rung.parameter_mem_clause, inductionHypothesis]

/-! ## Ranks -/

/-- The keyword is a part of a text, up to ASCII case. -/
def holdsLiterally (keyword text : String) : Bool :=
  keyword.toList.map Char.toLower <:+: text.toList.map Char.toLower

/-- The rank of a record for a keyword, where `contains` tells which texts hold the keyword. -/
def rankBy
    (contains : String → String → Bool)
    (keyword : String)
    (record : Record) : Nat :=
  if record.name = keyword then 10
  else if record.aliases = keyword then 20
  else if record.memo = keyword then 30
  else if record.type = "d" ∧ record.content = keyword then 40
  else if record.type = "d" ∧ contains keyword record.content then 41
  else if contains keyword record.name then 50
  else if contains keyword record.aliases then 60
  else if record.type = "h" ∧ record.content = keyword then 70
  else if record.type = "h" ∧ contains keyword record.content then 71
  else if record.type = "i" ∧ record.fcontent = keyword then 80
  else if record.type = "i" ∧ contains keyword record.fcontent then 81
  else if contains keyword record.memo then 90
  else if record.type ≠ "i" ∧ record.type ≠ "l" ∧ contains keyword record.content then 100
  else 65535

/-- What targets are ordered by: the rank, the place of the type, and the length. -/
def keyBy
    (contains : String → String → Bool)
    (keyword : String)
    (record : Record) : Nat ×ₗ Int ×ₗ Int :=
  toLex (rankBy contains keyword record, toLex (record.sort, record.length))

/-- The rank of the first rung that a record is on. -/
def firstRank (keyword : String) (record : Record) : List Rung → Nat
  | [] => lastRank
  | rung :: rungs => if rung.passes keyword record then rung.rank else firstRank keyword record rungs

section

variable
  {table : Table}
  {number : Nat}
  {keyword : String}
  {record : Record}

/-- A case that has a number has that of the first rung that the record is on. -/
theorem value_caseOf
    {rungs : List Rung}
    (settles : (caseOf table number keyword rungs).settles record = true) :
    (caseOf table number keyword rungs).value record = firstRank keyword record rungs := by
  induction rungs with
  | nil => rfl
  | cons rung rungs inductionHypothesis =>
      rw [caseOf, Case.settles, Bool.and_eq_true] at settles
      obtain ⟨tested, behind⟩ := settles
      obtain ⟨outcome, known⟩ := Option.isSome_iff_exists.1 tested
      rw [caseOf, Case.value, firstRank, Rung.passes_of_verdict known,
        Clause.holds_of_verdict known]
      cases outcome with
      | true => rfl
      | false =>
          rw [Clause.holds_of_verdict known, Bool.false_or] at behind
          rw [if_neg Bool.false_ne_true, if_neg Bool.false_ne_true, inductionHypothesis behind]

theorem firstRank_ladder :
    firstRank keyword record ladder = rankBy holdsPattern keyword record := by
  simp [ladder, firstRank, Rung.passes, FieldTest.passes, TypeTest.passes, Record.text, rankBy,
    lastRank, and_comm, and_assoc]

theorem key_caseOf_ladder
    (settles : (caseOf table number keyword ladder).settles record = true) :
    (caseOf table number keyword ladder).key record = keyBy holdsPattern keyword record := by
  rw [Case.key, keyBy, value_caseOf settles, firstRank_ladder]

/-- A case has a number for every record if the keyword is not too long. -/
theorem settles_caseOf_of_short
    (short : IsShort keyword)
    (rungs : List Rung) :
    (caseOf table number keyword rungs).settles record = true := by
  induction rungs with
  | nil => rfl
  | cons rung rungs inductionHypothesis =>
      obtain ⟨first, known⟩ := Option.isSome_iff_exists.1
        (rung.test.isSome_verdict short (record.text rung.field))
      rw [caseOf, Case.settles, inductionHypothesis, Bool.or_true, Bool.and_true,
        Rung.verdict_clause, known, bothOf_some]
      rfl

/-- One of the texts of a record that are compared before a pattern is asked for is the keyword. -/
def IsNamed (keyword : String) (record : Record) : Prop :=
  record.name = keyword ∨ record.aliases = keyword ∨ record.memo = keyword ∨
    record.type = "d" ∧ record.content = keyword

instance (keyword : String) : DecidablePred (IsNamed keyword) := fun _ =>
  inferInstanceAs (Decidable (_ ∨ _ ∨ _ ∨ _ ∧ _))

/-- If the keyword is too long there is a number only where an earlier rung than a pattern is met. -/
theorem settles_ladder_of_long
    (long : ¬IsShort keyword) :
    (caseOf table number keyword ladder).settles record = decide (IsNamed keyword record) := by
  have untested (text : String) : Like.verdict none ("%" ++ keyword ++ "%") text = none :=
    if_pos (Nat.lt_of_not_le (utf8ByteSize_pattern keyword ▸ long))
  have known (rung : Rung) := rung.verdict_clause table number keyword record
  have never (second : Option Bool) : bothOf none second = none := rfl
  rw [Bool.eq_iff_iff]
  simp [ladder, caseOf, Case.settles, Clause.holds, known, untested, never, FieldTest.verdict,
    bothOf_some, TypeTest.passes, Record.text, IsNamed, and_comm]

end

/-- A keyword of characters that are taken literally is held by the texts of which it is a part. -/
theorem holdsPattern_eq_holdsLiterally
    {keyword text : String}
    (literal : ∀ c ∈ keyword.toList, Like.IsLiteral c)
    (whole : '\x00' ∉ text.toList) :
    holdsPattern keyword text = holdsLiterally keyword text := by
  rw [Bool.eq_iff_iff, holdsPattern, Like.holds_holding literal, holdsLiterally,
    decide_eq_true_iff, Text.beforeNull_eq_self whole]

theorem rankBy_congr
    {contains other : String → String → Bool}
    {keyword : String}
    {record : Record}
    (same : ∀ field : Field,
      contains keyword (record.text field) = other keyword (record.text field)) :
    rankBy contains keyword record = rankBy other keyword record := by
  have name := same .name
  have aliases := same .aliases
  have memo := same .memo
  have content := same .content
  have fcontent := same .fcontent
  simp only [Record.text] at name aliases memo content fcontent
  simp only [rankBy, name, aliases, memo, content, fcontent]

/-! ## The statement -/

/-- The text of the expression that is matched. -/
def expressionText (settings : SearchSettings) (keyword : String) : List Char :=
  settings.expression (Query.phraseQuery keyword.toList)

/-- The order by the ladder, where the keyword has a number. -/
def sorting (mode : CaseMode) (number : Nat) (keyword : String) : Reader.Sorting :=
  (caseOf (.index mode) number keyword ladder).sorting

theorem text_sorting
    (mode : CaseMode)
    (number : Nat)
    (keyword : String) :
    (sorting mode number keyword).text =
      order (Table.index mode).name ("?" ++ toString number) := by
  have closing : " END ASC, sort ASC, length ASC" = " END" ++ " ASC, sort ASC, length ASC" := rfl
  rw [sorting, Case.sorting, text_caseOf, order, closing]
  simp only [String.append_assoc]

/-- The ladder has no condition that is too high for a statement. -/
theorem isSome_height?_caseOf_ladder
    (mode : CaseMode)
    (number : Nat)
    (keyword : String) :
    (caseOf (.index mode) number keyword ladder).body.height?.isSome = true := by
  cases mode <;> rfl

theorem stands_sorting
    (mode : CaseMode)
    (values : List String)
    (keyword : String) :
    (sorting mode (values.length + 1) keyword).Stands values.length (values ++ [keyword]).length := by
  have bound : (values ++ [keyword])[values.length + 1 - 1]? = some keyword := by simp
  refine (@stands_caseOf _ _ _ bound (.index mode) ladder (by decide)).stands_sorting
    (isSome_height?_caseOf_ladder mode _ keyword) (fun number => ?_) (by simp)
  change Token.parameter (some number) ∈ (caseOf _ _ keyword ladder).tokens ↔ _
  rw [parameter_mem_caseOf, List.length_append, List.length_singleton,
    and_iff_right (show ladder ≠ [] from List.cons_ne_nil _ _)]
  omega

/-- The order by the ladder is resolved where the expression is matched. -/
theorem exists_resolves_sorting
    {mode : CaseMode}
    {values : List String}
    {keyword : String}
    {body : Expr}
    {expression : FullText.Expression}
    (matched : matchedOf? { scopes := [], parameters := values ++ [keyword] } (some body)
      (.index mode) = some ⟨mode, expression⟩)
    (limit : Nat) :
    ∃ term collation,
      Resolves (.index mode) (values ++ [keyword]) body
          (Found.listing .window (Table.index mode).name).items
          ⟨sorting mode (values.length + 1) keyword, limit⟩
          (Found.results .window mode expression) (Case.orderOf term collation) ∧
        ∀ store record hidden,
          evalKeys store [] [] (Record.toRow record ++ hidden) (Case.orderOf term collation) =
            if (caseOf (.index mode) (values.length + 1) keyword ladder).settles record then
              some ((caseOf (.index mode) (values.length + 1) keyword ladder).keyRow record)
            else none := by
  let names := givenNames (Found.listing .window (Table.index mode).name).items
    (Found.results .window mode expression)
  let environment : Environment :=
    { onTable (.index mode) (values ++ [keyword]) body names with aggregates := false }
  have bound : (values ++ [keyword])[values.length + 1 - 1]? = some keyword := by simp
  have stands := @stands_caseOf _ _ _ bound (.index mode) ladder (by decide)
  have onRecords : environment.OnRecords (.index mode) (values ++ [keyword]) :=
    ⟨by simp, ⟨_, _, rfl⟩, List.prefix_refl _⟩
  obtain ⟨typed, resolved, evaluated⟩ := stands.resolves onRecords
  refine ⟨typed.term, typed.collation.getD .binary, ⟨Found.resolveItems_listing rfl matched _,
    ?_, Found.anyAggregate_results, ?_⟩, fun store record hidden =>
      Case.evalKeys_orderOf evaluated _ store record hidden⟩
  · have chosen : Sql.Target.of names (Found.results .window mode expression).flatten
        (caseOf (.index mode) (values.length + 1) keyword ladder).body = .expression := rfl
    have tie (name : String) (known : name = "sort" ∨ name = "length") :
        Sql.Target.of names (Found.results .window mode expression).flatten
            (.column none name false) = .expression ∧
          ∃ affinity, resolveExpr environment (.column none name false) =
            some ⟨.column 0 (recordColumn name), affinity, none⟩ := by
      have unmarked : ∀ field ∈ Found.markedFields, sameName field.columnName name = false := by
        rcases known with rfl | rfl <;> decide
      have place : Found.indexColumn mode name = recordColumn name := by
        rcases known with rfl | rfl <;> cases mode <;> rfl
      refine ⟨Found.of_column_listing unmarked, ?_⟩
      rw [← place]
      exact Found.exists_resolve_column rfl (by rcases known with rfl | rfl <;> decide)
    obtain ⟨sortName, _, sortPlace⟩ := tie "sort" (.inl rfl)
    obtain ⟨lengthName, _, lengthPlace⟩ := tie "length" (.inr rfl)
    change resolveOrder environment names _ [(_, false), (_, false), (_, false)] = _
    simp only [resolveOrder, chosen, resolved, sortName, sortPlace, lengthName, lengthPlace]
    rfl
  · have counts := yields_resolveExpr _ (show environment.aggregates = false from rfl) _ resolved
    exact Bool.or_eq_false_iff.2 ⟨counts, rfl⟩

/--
The statement for a keyword has the conditions of a search for its expression and the order by the
ladder. The keyword is the last of its values.
-/
structure IsWritten
    (settings : SearchSettings)
    (keyword : String)
    (clause : Clause)
    (before : List String)
    (order : List (Term × Collation × Bool)) : Prop where
  /-- The condition restricts the statement to the index. -/
  restricts : clause.Restricts (.index settings.mode)
    (String.ofList (expressionText settings keyword) :: before)
  /-- It is not too high. -/
  low : clause.body.height?.isSome = true
  /-- It is a plain zero if there are no types. -/
  plain : clause.body.isZero = (Filter.ofSettings settings).types.isEmpty
  /-- It decides as the filter does. -/
  verdict : ∀ record, clause.verdict record = (Filter.ofSettings settings).verdict record
  /-- The order stands for itself. -/
  ends : (sorting settings.mode (before.length + 2) keyword).Stands (before.length + 1)
    (before ++ [keyword]).length.succ
  /-- It is resolved where the expression is matched. -/
  resolves : ∀ expression,
    matchedOf?
        { scopes := [],
          parameters := String.ofList (expressionText settings keyword) :: (before ++ [keyword]) }
        (some clause.body) (.index settings.mode) = some ⟨settings.mode, expression⟩ →
      Resolves (.index settings.mode)
        (String.ofList (expressionText settings keyword) :: (before ++ [keyword])) clause.body
        (Found.listing .window (Table.index settings.mode).name).items
        ⟨sorting settings.mode (before.length + 2) keyword, settings.limit⟩
        (Found.results .window settings.mode expression) order
  /-- It is the order of a case. -/
  ordered : ∃ term collation, order = Case.orderOf term collation
  /-- A record has keys if the ladder has a number for it. -/
  keyed : ∀ store record hidden,
    evalKeys store [] [] (Record.toRow record ++ hidden) order =
      if (caseOf (.index settings.mode) (before.length + 2) keyword ladder).settles record then
        some ((caseOf (.index settings.mode) (before.length + 2) keyword ladder).keyRow record)
      else none
  /-- The statement is made up of the condition and of the order. -/
  written : statement settings keyword =
    ⟨clause.statement (Found.listing .window (Table.index settings.mode).name)
        (.index settings.mode)
        (some ⟨sorting settings.mode (before.length + 2) keyword, settings.limit⟩),
      String.ofList (expressionText settings keyword) :: (before ++ [keyword])⟩

/-- The settings have no notebooks and paths, so that their conditions are not too many. -/
theorem isNarrow_ofSettings (settings : SearchSettings) : (Filter.ofSettings settings).IsNarrow :=
  ⟨Nat.zero_le 997, Nat.zero_le 997⟩

theorem isShort_ofSettings (settings : SearchSettings) : (Filter.ofSettings settings).IsShort :=
  List.forall_mem_nil _

theorem exists_isWritten
    (settings : SearchSettings)
    (keyword : String) :
    ∃ clause before order, IsWritten settings keyword clause before order := by
  obtain ⟨clause, text, restricts, plain, height, verdict⟩ := Found.restricts_expressionBody
    settings (Filter.ofSettings settings) (String.ofList (expressionText settings keyword))
  obtain ⟨before, values⟩ := Found.exists_values_expressionBody settings
    (Filter.ofSettings settings) (String.ofList (expressionText settings keyword))
  rw [values] at restricts
  have low : clause.body.height?.isSome = true :=
    height ▸ Filter.isSome_height?_of_isNarrow (isNarrow_ofSettings settings) false (by decide)
  have front : String.ofList (expressionText settings keyword) :: before <+:
      String.ofList (expressionText settings keyword) :: (before ++ [keyword]) :=
    List.prefix_append (_ :: before) [keyword]
  obtain ⟨expression, matched, -⟩ :=
    @Found.exists_marking_expression .window _ _ _ _ ((restricts.governs low).mono front)
  obtain ⟨term, collation, resolves, keyed⟩ := @exists_resolves_sorting settings.mode
    (String.ofList (expressionText settings keyword) :: before) keyword _ _ matched settings.limit
  refine ⟨clause, before, Case.orderOf term collation, restricts, low, plain low, verdict,
    stands_sorting settings.mode (String.ofList (expressionText settings keyword) :: before) keyword,
    fun other same => ?_,
    ⟨term, collation, rfl⟩, keyed, ?_⟩
  · rw [matched, Option.some.injEq, Matched.mk.injEq] at same
    exact same.2 ▸ resolves
  · rw [expressionText] at text values ⊢
    simp only [statement, Fragment.bind, text, values, Clause.statement, Reader.Ending.text,
      text_sorting, String.append_assoc, Found.listing]
    simp

/-! ## Offered records -/

theorem records_of_statement
    {store : Store}
    {settings : SearchSettings}
    {keyword : String}
    {fragment : Fragment}
    (written : statement settings keyword = fragment) :
    records store settings keyword =
      (records? store fragment.text fragment.values).elim (.error .statement) .ok := by
  unfold records
  simp only [written]
  cases records? store fragment.text fragment.values <;> rfl

/-- The records of the types that are searched that the expression for a keyword matches. -/
def eligible (store : Store) (settings : SearchSettings) (keyword : String) : List Record :=
  Found.readMatches ⟨store, settings, Filter.ofSettings settings, .type⟩
    (expressionText settings keyword)

section

variable
  {store : Store}
  {settings : SearchSettings}
  {keyword : String}
  {clause : Clause}
  {before : List String}
  {order : List (Term × Collation × Bool)}

/-- The values of the condition stand in front of the keyword. -/
theorem IsWritten.front
    (_ : IsWritten settings keyword clause before order) :
    String.ofList (expressionText settings keyword) :: before <+:
      String.ofList (expressionText settings keyword) :: (before ++ [keyword]) :=
  List.prefix_append (_ :: before) [keyword]

theorem IsWritten.exists_resolves
    (isWritten : IsWritten settings keyword clause before order) :
    ∃ expression, Resolves (.index settings.mode)
      (String.ofList (expressionText settings keyword) :: (before ++ [keyword])) clause.body
      (Found.listing .window (Table.index settings.mode).name).items
      ⟨sorting settings.mode (before.length + 2) keyword, settings.limit⟩
      (Found.results .window settings.mode expression) order := by
  obtain ⟨expression, matched, -⟩ := @Found.exists_marking_expression .window _ _ _ _
    ((isWritten.restricts.governs isWritten.low).mono isWritten.front)
  exact ⟨expression, isWritten.resolves expression matched⟩

/-- The ladder has a number for every eligible record: the first ones are offered. -/
theorem IsWritten.records_of_settles
    (isWritten : IsWritten settings keyword clause before order)
    (settles : ∀ record ∈ eligible store settings keyword,
      (caseOf (.index settings.mode) (before.length + 2) keyword ladder).settles record = true) :
    let read := FullText.Expression.read? settings.mode (expressionText settings keyword)
    (records store settings keyword = .error .statement ∧
        (read = none ∧ Found.isVain settings.limit (Filter.ofSettings settings) = false ∨
          greatestLimit < settings.limit)) ∨
      ∃ (ordered : List Record) (size : Nat), ordered.Perm (eligible store settings keyword) ∧
        ordered.Pairwise (fun first second =>
          keyBy holdsPattern keyword first ≤ keyBy holdsPattern keyword second) ∧
        (settings.limit ≤ greatestLimit → size = settings.limit) ∧
        records store settings keyword =
          .ok ((ordered.take size).map
            (Found.withExcerpts FullText.snippet settings.mode (read.getD .never))) := by
  intro read
  obtain ⟨term, collation, rfl⟩ := isWritten.ordered
  have keys : ∀ record ∈ eligible store settings keyword, ∀ hidden,
      evalKeys store [] [] (Record.toRow record ++ hidden) (Case.orderOf term collation) =
        some ((caseOf (.index settings.mode) (before.length + 2) keyword ladder).keyRow record) := by
    intro record member hidden
    rw [isWritten.keyed, if_pos (settles record member)]
  have found := Found.records?_expression .window
    ⟨store, settings, Filter.ofSettings settings, .type⟩ isWritten.restricts isWritten.low
    isWritten.plain (isShort_ofSettings settings) isWritten.verdict isWritten.front isWritten.ends
    isWritten.resolves
    (fun record member hidden => by rw [keys record member hidden]; rfl)
  rw [records_of_statement isWritten.written]
  rcases found with ⟨failed, refused⟩ | ⟨entries, taken, hidden, size, perm, same, sorted, whole, found⟩
  · exact .inl ⟨by rw [failed]; rfl, refused⟩
  · have inside : (taken.map Prod.fst).Perm (eligible store settings keyword) :=
      (same.map Prod.fst).trans perm
    refine .inr ⟨taken.map Prod.fst, size, inside, ?_, fun allowed => (whole allowed).1,
      by rw [found]; rfl⟩
    have pairwise := @Case.pairwise_mergeSort _ store term collation hidden entries
      fun entry member => keys entry.1 (perm.subset (List.mem_map_of_mem member)) _
    rw [← sorted (Case.mustSort_orderOf term collation)] at pairwise
    refine pairwise.imp_of_mem fun {first second} here there before => ?_
    rwa [key_caseOf_ladder (settles first (inside.subset here)),
      key_caseOf_ladder (settles second (inside.subset there))] at before

/-- If the ladder has no number for an eligible record, records are offered only up to no limit. -/
theorem IsWritten.records_of_unsettled
    (isWritten : IsWritten settings keyword clause before order)
    {record : Record}
    (member : record ∈ eligible store settings keyword)
    (unsettled :
      (caseOf (.index settings.mode) (before.length + 2) keyword ladder).settles record = false) :
    records store settings keyword = .error .statement ∧ settings.limit ≠ 0 ∨
      records store settings keyword = .ok [] ∧
        (settings.limit ≤ greatestLimit → settings.limit = 0) := by
  obtain ⟨expression, resolves⟩ := isWritten.exists_resolves
  obtain ⟨term, collation, rfl⟩ := isWritten.ordered
  have stands := Found.stands_listing .window settings.mode
  rw [records_of_statement isWritten.written]
  rcases evalLimit?_limitTerm_cases store
    ⟨sorting settings.mode (before.length + 2) keyword, settings.limit⟩ with
      ⟨uncounted, refused⟩ | ⟨count, counted, whole⟩
  · have failed := isWritten.restricts.records?_of_evalLimit?_eq_none (by simp) (by simp)
      isWritten.front stands isWritten.ends resolves uncounted
    exact .inl ⟨by rw [failed]; rfl, Nat.ne_of_gt ((Nat.zero_le _).trans_lt refused)⟩
  · by_cases zero : count = 0
    · subst zero
      have empty := isWritten.restricts.records?_of_zero (by simp) (by simp) isWritten.front
        isWritten.low stands isWritten.ends resolves counted
      exact .inr ⟨by rw [empty]; rfl, fun allowed => Int.natCast_eq_zero.1 (whole allowed).symm⟩
    · have visited : record ∈ Found.visited store (.index settings.mode)
          (String.ofList (expressionText settings keyword) :: (before ++ [keyword]))
          (Filter.ofSettings settings).accepts := by
        rw [Found.visited_eq_readMatches ⟨store, settings, Filter.ofSettings settings, .type⟩]
        exact member
      obtain ⟨here, accepted⟩ := List.mem_filter.1 visited
      obtain ⟨stored, met⟩ := List.mem_filter.1 here
      have holds : clause.holds record = true := Clause.holds_of_verdict
        ((isWritten.verdict record).trans
          ((Filter.verdict_of_isShort (isShort_ofSettings settings) record).trans
            (congrArg some accepted)))
      have failed := isWritten.restricts.records?_of_fails (by simp) (by simp) isWritten.front
        stands isWritten.ends resolves (Case.mustSort_orderOf term collation) counted zero stored met
        (.inr ⟨holds, fun hidden => by
          rw [isWritten.keyed, unsettled, if_neg Bool.false_ne_true]⟩)
      refine .inl ⟨by rw [failed]; rfl, fun none => zero ?_⟩
      rw [whole (none ▸ Nat.zero_le greatestLimit)]
      exact Int.natCast_eq_zero.2 none

end

/--
The records that are offered are the first ones in the order of their keys. There are some unless
the expression cannot be read, the limit is not an integer, or the keyword is too long for a pattern
that has to be asked for.
-/
theorem records_eq
    (store : Store)
    (settings : SearchSettings)
    (keyword : String) :
    let read := FullText.Expression.read? settings.mode (expressionText settings keyword)
    (records store settings keyword = .error .statement ∧
        (read = none ∧ Found.isVain settings.limit (Filter.ofSettings settings) = false ∨
          greatestLimit < settings.limit ∨
          ¬IsShort keyword ∧ settings.limit ≠ 0 ∧
            ∃ record ∈ eligible store settings keyword, ¬IsNamed keyword record)) ∨
      ∃ (ordered : List Record) (size : Nat), ordered.Perm (eligible store settings keyword) ∧
        ordered.Pairwise (fun first second =>
          keyBy holdsPattern keyword first ≤ keyBy holdsPattern keyword second) ∧
        (settings.limit ≤ greatestLimit → size = settings.limit ∧
          (settings.limit = 0 ∨ IsShort keyword ∨
            ∀ record ∈ eligible store settings keyword, IsNamed keyword record)) ∧
        records store settings keyword =
          .ok ((ordered.take size).map
            (Found.withExcerpts FullText.snippet settings.mode (read.getD .never))) := by
  intro read
  obtain ⟨clause, before, order, isWritten⟩ := exists_isWritten settings keyword
  by_cases settles : ∀ record ∈ eligible store settings keyword,
    (caseOf (.index settings.mode) (before.length + 2) keyword ladder).settles record = true
  · rcases isWritten.records_of_settles settles with
      ⟨failed, refused⟩ | ⟨ordered, size, perm, sorted, whole, found⟩
    · exact .inl ⟨failed, refused.imp_right .inl⟩
    · refine .inr ⟨ordered, size, perm, sorted, fun allowed => ⟨whole allowed, .inr ?_⟩, found⟩
      by_cases short : IsShort keyword
      · exact .inl short
      · refine .inr fun record member => ?_
        have named := settles record member
        rwa [settles_ladder_of_long short, decide_eq_true_iff] at named
  · push Not at settles
    obtain ⟨record, member, unsettled⟩ := settles
    have long : ¬IsShort keyword := fun short => unsettled (settles_caseOf_of_short short ladder)
    rcases isWritten.records_of_unsettled member (Bool.not_eq_true _ ▸ unsettled) with
      ⟨failed, wanted⟩ | ⟨answered, none⟩
    · refine .inl ⟨failed, .inr (.inr ⟨long, wanted, record, member, fun named => unsettled ?_⟩)⟩
      rw [settles_ladder_of_long long, decide_eq_true named]
    · let sorted := (eligible store settings keyword).mergeSort fun first second =>
        decide (keyBy holdsPattern keyword first ≤ keyBy holdsPattern keyword second)
      refine .inr ⟨sorted, 0, List.mergeSort_perm _ _, ?_,
        fun allowed => ⟨(none allowed).symm, .inl (none allowed)⟩, ?_⟩
      · exact Case.pairwise_mergeSort_key (keyBy holdsPattern keyword) _
      · rw [answered, List.take_zero, List.map_nil]

/-- Eligible records hold the pieces of the keyword, and are records of the store. -/
theorem eligible_eq
    (store : Store)
    (settings : SearchSettings)
    {keyword : String}
    (whole : '\x00' ∉ keyword.toList) :
    eligible store settings keyword = store.blocks.filter fun record =>
      record.HoldsPieces (FullText.Holds settings.mode) settings (Filter.ofSettings settings)
        keyword.toList :=
  Found.readMatches_phraseQuery _ whole

theorem mem_blocks_of_mem_eligible
    {store : Store}
    {settings : SearchSettings}
    {keyword : String}
    {record : Record}
    (member : record ∈ eligible store settings keyword) :
    record ∈ store.blocks := by
  rw [eligible, Found.readMatches] at member
  split at member
  · exact (List.mem_filter.1 member).1
  · cases member

/--
The records that are offered for a keyword come in the order of their ranks, the places of their
types and their lengths, and none that is left out strictly precedes one of them. Whether a text
holds the keyword is asked by a pattern; it is asked literally if nothing in the keyword is special
in a pattern and no text has a null character. No records are offered only if the keyword has a null
character, if the limit is not an integer, or if the keyword is too long for a pattern and the rank of
an eligible record depends on one, and in this last case none are as long as some are asked for.
-/
theorem records_ranked
    (store : Store)
    (settings : SearchSettings)
    (keyword : String) :
    (records store settings keyword = .error .statement ∧
        ('\x00' ∈ keyword.toList ∨ greatestLimit < settings.limit ∨
          ¬IsShort keyword ∧ settings.limit ≠ 0 ∧
            ∃ record ∈ eligible store settings keyword, ¬IsNamed keyword record)) ∨
      ∃ (chosen rest : List Record) (expression : FullText.Expression),
        records store settings keyword =
            .ok (chosen.map (Found.withExcerpts FullText.snippet settings.mode expression)) ∧
          (chosen ++ rest).Perm (eligible store settings keyword) ∧
          (settings.limit ≤ greatestLimit →
            chosen.length = min settings.limit (eligible store settings keyword).length ∧
              (settings.limit = 0 ∨ IsShort keyword ∨
                ∀ record ∈ eligible store settings keyword, IsNamed keyword record)) ∧
          (chosen ++ rest).Pairwise (fun first second =>
            keyBy holdsPattern keyword first ≤ keyBy holdsPattern keyword second) ∧
          ((∀ c ∈ keyword.toList, Like.IsLiteral c) →
            (∀ record ∈ store.blocks, ∀ field, '\x00' ∉ (record.text field).toList) →
              (chosen ++ rest).Pairwise fun first second =>
                keyBy holdsLiterally keyword first ≤ keyBy holdsLiterally keyword second) := by
  rcases records_eq store settings keyword with
    ⟨failed, unread | refused⟩ | ⟨ordered, size, perm, sorted, whole, found⟩
  · refine .inl ⟨failed, .inl ?_⟩
    by_contra noNull
    obtain ⟨expression, read, -⟩ := settings.exists_read?_phraseQuery noNull
    rw [expressionText, read] at unread
    cases unread.1
  · exact .inl ⟨failed, .inr refused⟩
  · refine .inr ⟨ordered.take size, ordered.drop size, _, found, ?_, fun allowed => ?_, ?_,
      fun literal noNull => ?_⟩
    · rwa [List.take_append_drop]
    · obtain ⟨limit, settled⟩ := whole allowed
      refine ⟨?_, settled⟩
      rw [List.length_take, perm.length_eq, limit]
    · rwa [List.take_append_drop]
    · rw [List.take_append_drop]
      have same : ∀ record ∈ ordered,
          keyBy holdsPattern keyword record = keyBy holdsLiterally keyword record := by
        intro record member
        have stored := noNull record (mem_blocks_of_mem_eligible (perm.subset member))
        rw [keyBy, keyBy, rankBy_congr fun field =>
          holdsPattern_eq_holdsLiterally literal (stored field)]
      refine sorted.imp_of_mem fun {first second} inside later before => ?_
      rwa [← same first inside, ← same second later]

/-- An underscore stands for any character: a record that holds it literally nowhere comes first. -/
theorem records_ranked_of_underscore :
    let wild : Record :=
      { id := "w", rootId := "d", type := "p", name := "xx a1b yy", content := "foo a_b bar" }
    let noted : Record :=
      { id := "n", rootId := "d", type := "p", memo := "a_b zz", content := "other" }
    let store : Store := { blocks := [noted, wild] }
    ∃ expression,
      records store {} "a_b" =
          .ok ([wild, noted].map (Found.withExcerpts FullText.snippet .insensitive expression)) ∧
        keyBy holdsLiterally "a_b" noted < keyBy holdsLiterally "a_b" wild := by
  intro wild noted store
  have all : eligible store {} "a_b" = [noted, wild] := by
    rw [eligible_eq _ _ (by decide)]
    decide +kernel
  have early : keyBy holdsPattern "a_b" wild < keyBy holdsPattern "a_b" noted := by decide +kernel
  have late : keyBy holdsLiterally "a_b" noted < keyBy holdsLiterally "a_b" wild := by
    decide +kernel
  have allowed : ({} : SearchSettings).limit ≤ greatestLimit := by decide
  rcases records_ranked store {} "a_b" with
    ⟨-, null | refused | ⟨long, -⟩⟩ | ⟨chosen, rest, expression, found, perm, length, sorted, -⟩
  · exact absurd null (by decide)
  · exact absurd allowed (Nat.not_le_of_lt refused)
  · exact absurd (by decide) long
  · rw [all] at perm length
    have nothing : rest = [] := by
      have total := perm.length_eq
      rw [List.length_append, (length allowed).1] at total
      exact List.length_eq_zero_iff.1 (Nat.add_left_cancel total)
    rw [nothing, List.append_nil] at perm sorted
    refine ⟨expression, ?_, late⟩
    rcases List.perm_pair.1 perm with rfl | rfl
    · exact absurd (List.rel_of_pairwise_cons sorted List.mem_cons_self) (not_le_of_gt early)
    · exact found

end Target
end BlockSearch
