import BlockSearch.Proofs.Sql.Grammar
import BlockSearch.Sql.Evaluation
import Mathlib.Data.String.Basic

/-!
# What conditions say of records

A condition on a table of records, which the full-text index is, too, has a truth value in the row
of every record, once the values of its parameters are known, unless it asks for a pattern that is
too long. What stands behind a condition that decides is not asked for. Values that are bound later
change nothing. A condition on the index begins with a match expression, which chooses the rows, so
that it is true in all of them.
-/

namespace BlockSearch
namespace Sql

/-! ## Verdicts -/

/-- The verdict on both of two conditions; a second one is asked for if the first one holds. -/
def bothOf : Option Bool → Option Bool → Option Bool
  | some true, second => second
  | first, _ => first

/-- The verdict on one of two conditions; a second one is asked for if the first one does not hold. -/
def oneOf : Option Bool → Option Bool → Option Bool
  | some false, second => second
  | first, _ => first

@[simp] theorem bothOf_some (first second : Bool) :
    bothOf (some first) (some second) = some (first && second) := by
  cases first <;> rfl

@[simp] theorem oneOf_some (first second : Bool) :
    oneOf (some first) (some second) = some (first || second) := by
  cases first <;> rfl

theorem bothOf_assoc (first second third : Option Bool) :
    bothOf (bothOf first second) third = bothOf first (bothOf second third) := by
  rcases first with _ | _ | _ <;> rfl

theorem oneOf_assoc (first second third : Option Bool) :
    oneOf (oneOf first second) third = oneOf first (oneOf second third) := by
  rcases first with _ | _ | _ <;> rfl

/-- The verdict on a text that is to have the form of a pattern; there is none on one that is too
long. -/
def Like.verdict (escape : Option Char) (pattern text : String) : Option Bool :=
  if Like.greatestSize < pattern.utf8ByteSize then none
  else some (Like.holds escape pattern.toList text.toList)

theorem Like.verdict_of_le
    {pattern : String}
    (short : pattern.utf8ByteSize ≤ Like.greatestSize)
    (escape : Option Char)
    (text : String) :
    Like.verdict escape pattern text = some (Like.holds escape pattern.toList text.toList) :=
  if_neg (Nat.not_lt_of_le short)

/-- A term has the truth value of a verdict in the rows of a record, or no value without one. -/
def Term.Decides (term : Term) (verdict : Record → Option Bool) : Prop :=
  ∀ store outer record hidden,
    term.eval store outer [] (Record.toRow record ++ hidden) = (verdict record).map .ofBool

@[simp] theorem Value.truth_ofBool (value : Bool) : (Value.ofBool value).truth = some value := by
  cases value <;> rfl

variable {left right : Term} {first second : Record → Option Bool}

theorem Term.Decides.or
    (decidesLeft : left.Decides first)
    (decidesRight : right.Decides second) :
    (Term.or left right).Decides fun record => oneOf (first record) (second record) := by
  intro store outer record hidden
  rw [Term.eval, decidesLeft, decidesRight]
  beta_reduce
  rcases first record with _ | _ | _ <;> rcases second record with _ | _ | _ <;>
    simp [oneOf, either, Value.ofTruth]

theorem Term.Decides.and
    (decidesLeft : left.Decides first)
    (decidesRight : right.Decides second) :
    (Term.and left right).Decides fun record => bothOf (first record) (second record) := by
  intro store outer record hidden
  rw [Term.eval, decidesLeft, decidesRight]
  beta_reduce
  rcases first record with _ | _ | _ <;> rcases second record with _ | _ | _ <;>
    simp [bothOf, both, Value.ofTruth]

/-! ## Names and parameters -/

/-- The affinity of the columns of texts in a table of records. -/
def Table.textAffinity : Table → Affinity
  | .index _ => .none
  | _ => .text

theorem Table.textAffinity_ne_numeric (table : Table) : table.textAffinity ≠ .numeric := by
  cases table <;> simp [textAffinity]

/-- A text is compared as it is with values of a column of texts. -/
theorem Value.coerce_text
    {affinity : Affinity}
    (texts : affinity ≠ .numeric)
    (text : String)
    (other : Value) :
    Value.coerce affinity (.text text) other = .text text := by
  cases affinity <;> first | rfl | contradiction

/-- A column of texts that is compared with a text by equality. -/
theorem decides_equality
    {index : Nat}
    {text : Record → String}
    (column : ∀ record hidden,
      (Record.toRow record ++ hidden)[index]?.getD .null = .text (text record))
    {affinity : Affinity}
    (texts : affinity ≠ .numeric)
    (equal : Bool)
    (other : String) :
    (Term.compare (Reader.equalityOf equal) ⟨affinity, .binary⟩ (.column 0 index)
      (.value (.text other))).Decides fun record => some ((text record == other) == equal) := by
  intro store outer record hidden
  have same : (compare (text record) other == .eq) = (text record == other) := by
    rw [Bool.eq_iff_iff, beq_iff_eq, beq_iff_eq, Std.compare_eq_iff_eq]
  have tested : (Reader.equalityOf equal).holds (compare (text record) other) =
      ((text record == other) == equal) := by
    cases equal with
    | true => rw [beq_true, ← same]; rfl
    | false => rw [beq_false, ← same]; rfl
  simp [Term.eval, column, Value.compared?, Value.coerce_text texts, Value.ordering,
    Value.collationKey, tested, Value.ofTruth]

/-- The value of a test for the form of a text. -/
theorem bind_hasForm?
    (escape : Option Char)
    (pattern text : String) :
    ((hasForm? escape (.text text) (.text pattern)).bind fun truth => some (Value.ofTruth truth)) =
      (Like.verdict escape pattern text).map .ofBool := by
  rw [hasForm?, Like.verdict, Value.size]
  split_ifs
  · rfl
  · rfl

/-- A column of texts that is to hold a text, where wildcards in the text count. -/
theorem decides_holding
    {index : Nat}
    {text : Record → String}
    (column : ∀ record hidden,
      (Record.toRow record ++ hidden)[index]?.getD .null = .text (text record))
    (value : String) :
    (Term.like (.column 0 index) (.concat (.concat (.value (.text "%")) (.value (.text value)))
      (.value (.text "%")))).Decides fun record =>
        Like.verdict none ("%" ++ value ++ "%") (text record) := by
  intro store outer record hidden
  have joined : joinTexts (joinTexts (.text "%") (.text value)) (.text "%") =
      .text ("%" ++ value ++ "%") := by
    simp [joinTexts, Value.toText, String.append_assoc]
  simp only [Term.eval, column, Option.bind_eq_bind, Option.bind_some, joined]
  exact bind_hasForm? none ("%" ++ value ++ "%") (text record)

/-- Names stand for the columns of a table of records, and parameters for some values. -/
structure Environment.OnRecords
    (environment : Environment)
    (table : Table)
    (values : List String) : Prop where
  /-- The table is one of records. -/
  ofRecords : table ≠ .references
  /-- The innermost scope is that of the table. -/
  scope : ∃ aliases outer, environment.scopes = ⟨scopeColumns table.name table, aliases⟩ :: outer
  /-- The first parameters have the values. -/
  parameters : values <+: environment.parameters

theorem Environment.OnRecords.inner
    {environment : Environment}
    {table : Table}
    {values : List String}
    (onRecords : environment.OnRecords table values) :
    environment.inner.OnRecords table values :=
  ⟨onRecords.ofRecords, onRecords.scope, onRecords.parameters⟩

/-- A name stands for a column of records, which has a text in every row. -/
structure Names (name : String) (text : Record → String) : Prop where
  /-- The column is found, whatever other names there are. -/
  found : ∀ table ≠ Table.references, ∀ aliases,
    Scope.columnIndex? ⟨scopeColumns table.name table, aliases⟩ none name = some (recordColumn name)
  /-- It is a column of texts. -/
  affinity : ∀ table ≠ Table.references,
    ((scopeColumns table.name table)[recordColumn name]?).bind (·.affinity) =
      some table.textAffinity
  /-- The text in the row of a record. -/
  value : ∀ record hidden,
    (Record.toRow record ++ hidden)[recordColumn name]?.getD .null = .text (text record)

/-- A table of records is the stored one or the index for one way to compare letters. -/
theorem Table.cases_ofRecords
    {property : Table → Prop}
    (blocks : property .blocks)
    (sensitive : property (.index .sensitive))
    (insensitive : property (.index .insensitive)) :
    ∀ table ≠ Table.references, property table
  | .blocks, _ => blocks
  | .index .sensitive, _ => sensitive
  | .index .insensitive, _ => insensitive
  | .references, other => absurd rfl other

theorem names_columnName (field : Field) :
    Names field.columnName fun record => record.text field := by
  cases field <;>
    exact ⟨Table.cases_ofRecords (fun _ => rfl) (fun _ => rfl) (fun _ => rfl),
      Table.cases_ofRecords rfl rfl rfl, fun _ _ => rfl⟩

theorem names_box : Names "box" Record.box :=
  ⟨Table.cases_ofRecords (fun _ => rfl) (fun _ => rfl) (fun _ => rfl),
    Table.cases_ofRecords rfl rfl rfl, fun _ _ => rfl⟩

theorem names_path : Names "path" Record.path :=
  ⟨Table.cases_ofRecords (fun _ => rfl) (fun _ => rfl) (fun _ => rfl),
    Table.cases_ofRecords rfl rfl rfl, fun _ _ => rfl⟩

theorem names_type : Names "type" Record.type :=
  ⟨Table.cases_ofRecords (fun _ => rfl) (fun _ => rfl) (fun _ => rfl),
    Table.cases_ofRecords rfl rfl rfl, fun _ _ => rfl⟩

theorem Environment.OnRecords.resolve_column
    {environment : Environment}
    {table : Table}
    {values : List String}
    (onRecords : environment.OnRecords table values)
    {name : String}
    {text : Record → String}
    (names : Names name text) :
    resolveExpr environment (.column none name false) =
      some ⟨.column 0 (recordColumn name), some table.textAffinity, none⟩ := by
  obtain ⟨aliases, outer, scopes⟩ := onRecords.scope
  rw [resolveExpr, Environment.column?, scopes, Environment.findColumn?,
    names.found table onRecords.ofRecords]
  simp [names.affinity table onRecords.ofRecords, Term.hasAggregate]

/-- A field that is named behind its table. -/
theorem Environment.OnRecords.resolve_field
    {environment : Environment}
    {table : Table}
    {values : List String}
    (onRecords : environment.OnRecords table values)
    (field : Field) :
    resolveExpr environment (Reader.fieldBody table field) =
      some ⟨.column 0 (recordColumn field.columnName), some table.textAffinity, none⟩ := by
  obtain ⟨aliases, outer, scopes⟩ := onRecords.scope
  have found : ∀ table ≠ Table.references,
      Scope.columnIndex? ⟨scopeColumns table.name table, aliases⟩ (some table.name)
        field.columnName = some (recordColumn field.columnName) := by
    cases field <;> exact Table.cases_ofRecords rfl rfl rfl
  rw [Reader.fieldBody, resolveExpr, Environment.column?, scopes, Environment.findColumn?,
    found table onRecords.ofRecords]
  simp [(names_columnName field).affinity table onRecords.ofRecords, Term.hasAggregate]

theorem Environment.OnRecords.resolve_parameter
    {environment : Environment}
    {table : Table}
    {values : List String}
    (onRecords : environment.OnRecords table values)
    {number : Nat}
    {value : String}
    (bound : values[number - 1]? = some value) :
    resolveExpr environment (.parameter number) = some ⟨.value (.text value), none, none⟩ := by
  obtain ⟨more, same⟩ := onRecords.parameters
  obtain ⟨inside, rfl⟩ := List.getElem?_eq_some_iff.1 bound
  rw [resolveExpr, Environment.parameter?, ← same, List.getElem?_append_left inside, bound]
  rfl

/-! ## Conditions -/

/-- Where parameters have some values, a condition has a verdict on every record. -/
structure Means (values : List String) (body : Expr) (verdict : Record → Option Bool) : Prop where
  /-- It contains no match expression. -/
  plain : body.matchings = []
  /-- Its term decides as the verdict does. -/
  resolves : ∀ (environment : Environment) (table : Table), environment.OnRecords table values →
    ∃ typed, resolveExpr environment body = some typed ∧ typed.term.Decides verdict

variable {values : List String} {number : Nat} {value : String}

theorem means_regexp
    (field : Field)
    (bound : values[number - 1]? = some value) :
    Means values (.regexp (.column none field.columnName false) (.parameter number))
      fun record => some (Pattern.occursIn value.toList (record.text field).toList) := by
  have names := names_columnName field
  refine ⟨rfl, fun environment table onRecords => ?_⟩
  refine ⟨⟨.regexp (.column 0 (recordColumn field.columnName)) (.value (.text value)), none, none⟩,
    ?_, ?_⟩
  · rw [resolveExpr, onRecords.inner.resolve_column names, onRecords.inner.resolve_parameter bound]
    rfl
  · intro store outer record hidden
    simp [Term.eval, names.value, matchesPattern, Value.fieldText, Value.toText]

theorem means_equal_box
    (bound : values[number - 1]? = some value) :
    Means values (.compare .equal (.column none "box" false) (.parameter number))
      fun record => some (record.box == value) := by
  refine ⟨rfl, fun environment table onRecords => ?_⟩
  refine ⟨⟨.compare .equal ⟨table.textAffinity, .binary⟩ (.column 0 (recordColumn "box"))
    (.value (.text value)), none, none⟩, ?_, ?_⟩
  · rw [resolveExpr, onRecords.inner.resolve_column names_box,
      onRecords.inner.resolve_parameter bound]
    rfl
  · simpa only [beq_true, Reader.equalityOf, if_true] using
      decides_equality names_box.value table.textAffinity_ne_numeric true value

/-- The type of a record is one that is given, or another one. -/
theorem means_compare_type
    (values : List String)
    (equal : Bool)
    (code : String) :
    Means values
      (.compare (Reader.equalityOf equal) (.column none "type" false) (.value (.text code)))
      fun record => some ((record.type == code) == equal) := by
  refine ⟨rfl, fun environment table onRecords => ?_⟩
  refine ⟨⟨.compare (Reader.equalityOf equal) ⟨table.textAffinity, .binary⟩
    (.column 0 (recordColumn "type")) (.value (.text code)), none, none⟩, ?_, ?_⟩
  · rw [resolveExpr, onRecords.inner.resolve_column names_type, resolveExpr]
    rfl
  · exact decides_equality names_type.value table.textAffinity_ne_numeric equal code

theorem means_like_path
    (bound : values[number - 1]? = some value) :
    Means values
      (.likeEscaped (.column none "path" false) (.parameter number) (.value (.text "\\")))
      fun record => Like.verdict (some '\\') value record.path := by
  refine ⟨rfl, fun environment table onRecords => ?_⟩
  refine ⟨⟨.likeEscaped (.column 0 (recordColumn "path")) (.value (.text value))
    (.value (.text "\\")), none, none⟩, ?_, ?_⟩
  · rw [resolveExpr, onRecords.inner.resolve_column names_path,
      onRecords.inner.resolve_parameter bound]
    rfl
  · intro store outer record hidden
    have escaped : hasEscapedForm? (.text record.path) (.text value) (.text "\\") =
        hasForm? (some '\\') (.text record.path) (.text value) := by
      simp [hasEscapedForm?, Value.toText, Text.beforeNull]
    simp only [Term.eval, names_path.value, Option.bind_eq_bind, Option.bind_some, escaped]
    exact bind_hasForm? (some '\\') value record.path

/-! ## Lists of texts -/

theorem resolveExprs_texts
    (environment : Environment)
    (texts : List String) :
    resolveExprs environment (texts.map fun text => .value (.text text)) =
      some (texts.map fun text => ⟨.value (.text text), none, none⟩) := by
  induction texts with
  | nil => rfl
  | cons text texts inductionHypothesis =>
      rw [List.map_cons, resolveExprs, resolveExpr, inductionHypothesis]
      rfl

theorem evalAll_texts
    (store : Store)
    (outer group : List Row)
    (row : Row)
    (texts : List String) :
    evalAll store outer group row (texts.map fun text => .value (.text text)) =
      some (texts.map Value.text) := by
  induction texts with
  | nil => rw [List.map_nil, evalAll, List.map_nil]
  | cons text texts inductionHypothesis =>
      rw [List.map_cons, evalAll, Term.eval, inductionHypothesis]
      rfl

theorem isMember_texts
    {affinity : Affinity}
    (ofTexts : affinity ≠ .numeric)
    (text : String)
    (texts : List String) :
    isMember ⟨affinity, .binary⟩ (.text text) (texts.map Value.text) =
      some (texts.contains text) := by
  have equal (other : String) :
      equal? ⟨affinity, .binary⟩ (.text text) (.text other) = some (text == other) := by
    have same : (compare text other == .eq) = (text == other) := by
      rw [Bool.eq_iff_iff, beq_iff_eq, beq_iff_eq, Std.compare_eq_iff_eq]
    simp [equal?, Value.compared?, Value.coerce_text ofTexts, Value.ordering, Value.collationKey,
      same]
  have members (found : Bool) :
      (texts.map Value.text).foldl
        (fun found item => either found (equal? ⟨affinity, .binary⟩ (.text text) item))
        (some found) = some (found || texts.contains text) := by
    induction texts generalizing found with
    | nil => simp
    | cons other texts inductionHypothesis =>
        have joined : either (some found) (some (text == other)) = some (found || text == other) := by
          cases found <;> cases text == other <;> rfl
        rw [List.map_cons, List.foldl_cons, equal, joined, inductionHypothesis, List.contains_cons,
          Bool.or_assoc]
  exact members false

theorem means_type_in
    (values : List String)
    (texts : List String) :
    Means values (.among (.column none "type" false) (texts.map fun text => .value (.text text)))
      fun record => some (texts.contains record.type) := by
  refine ⟨rfl, fun environment table onRecords => ?_⟩
  cases texts with
  | nil => exact ⟨⟨.value (.integer 0), none, none⟩, rfl, fun _ _ _ _ => rfl⟩
  | cons text texts =>
      refine ⟨⟨.among ⟨table.textAffinity, .binary⟩ (.column 0 (recordColumn "type"))
        ((text :: texts).map fun text => .value (.text text)), none, none⟩, ?_, ?_⟩
      · have items := resolveExprs_texts environment.inner (text :: texts)
        rw [List.map_cons] at items ⊢
        rw [resolveExpr, onRecords.inner.resolve_column names_type, items]
        · simp [Typed.listRegime]
        · exact List.cons_ne_nil _ _
      · intro store outer record hidden
        rw [Term.eval, Term.eval, names_type.value, evalAll_texts]
        simp only [Option.bind_eq_bind, Option.bind_some,
          isMember_texts table.textAffinity_ne_numeric]
        rfl

/-! ## Conditions joined to one -/

variable {body other : Expr}

theorem Means.or
    (meansBody : Means values body first)
    (meansOther : Means values other second) :
    Means values (.or body other) fun record => oneOf (first record) (second record) := by
  refine ⟨rfl, fun environment table onRecords => ?_⟩
  obtain ⟨left, resolvesLeft, decidesLeft⟩ := meansBody.resolves _ table onRecords.inner
  obtain ⟨right, resolvesRight, decidesRight⟩ := meansOther.resolves _ table onRecords.inner
  refine ⟨⟨.or left.term right.term, none, none⟩, ?_, decidesLeft.or decidesRight⟩
  rw [resolveExpr, resolvesLeft, resolvesRight]
  rfl

/-- The verdict on one of some conditions. -/
def anyOf (verdicts : List (Option Bool)) : Option Bool := verdicts.foldr oneOf (some false)

theorem oneOf_anyOf_nil (verdict : Option Bool) : oneOf verdict (anyOf []) = verdict := by
  rcases verdict with _ | _ | _ <;> rfl

/-- There is a verdict on one of some conditions if there is one on each of them. -/
theorem anyOf_map_some (verdicts : List Bool) :
    anyOf (verdicts.map some) = some (verdicts.any id) := by
  induction verdicts with
  | nil => rfl
  | cons verdict verdicts inductionHypothesis =>
      rw [anyOf] at inductionHypothesis ⊢
      rw [List.map_cons, List.foldr_cons, inductionHypothesis, oneOf_some, List.any_cons, id]

/-- A condition joined by `OR` to others says that one of them holds. -/
theorem means_anyBody
    {α : Type}
    {bodies : α → Expr}
    {verdict : α → Record → Option Bool}
    (meansBody : Means values body first)
    {conditions : List α}
    (each : ∀ condition ∈ conditions, Means values (bodies condition) (verdict condition)) :
    Means values (Reader.anyBody body (conditions.map bodies)) fun record =>
      oneOf (first record) (anyOf (conditions.map fun condition => verdict condition record)) := by
  induction conditions generalizing body first with
  | nil => simpa [Reader.anyBody, oneOf_anyOf_nil] using meansBody
  | cons condition conditions inductionHypothesis =>
      have joined := meansBody.or (each condition List.mem_cons_self)
      have means := inductionHypothesis joined fun one member =>
        each one (List.mem_cons_of_mem _ member)
      simpa [Reader.anyBody, anyOf, oneOf_assoc] using means

/-! ## Conditions on a table -/

/-- The match expressions of a search of a table: for the index the first value, otherwise none. -/
def Table.matchings (table : Table) : List (String × Expr) :=
  match table with
  | .index _ => [(table.name, .parameter 1)]
  | _ => []

/--
Where parameters have some values, a condition chooses rows of a table, on which it has a verdict. A
plain zero takes the place of a match expression that it is joined to.
-/
structure Governs
    (table : Table)
    (values : List String)
    (body : Expr)
    (verdict : Record → Option Bool) : Prop where
  /-- It contains the match expressions of the table, unless it is a plain zero. -/
  matchings : body.matchings = if body.isZero then [] else table.matchings
  /-- Its term decides as the verdict does. -/
  resolves : ∀ environment : Environment, environment.OnRecords table values →
    environment.matching = true →
      ∃ typed, resolveExpr environment body = some typed ∧ typed.term.Decides verdict

variable {table : Table} {verdict : Record → Option Bool}

/-- Values that are bound later do not change which rows a condition chooses. -/
theorem Governs.mono
    (governs : Governs table values body verdict)
    {all : List String}
    (front : values <+: all) :
    Governs table all body verdict where
  matchings := governs.matchings
  resolves environment onRecords := governs.resolves environment
    ⟨onRecords.ofRecords, onRecords.scope, front.trans onRecords.parameters⟩

/-- A condition without match expressions chooses records. -/
theorem Means.governs
    (means : Means values body verdict) :
    Governs .blocks values body verdict where
  matchings := means.plain.trans (ite_self _).symm
  resolves environment onRecords _ := means.resolves environment .blocks onRecords

/-- A match expression alone is true in all rows that it chooses. -/
theorem governs_matching
    (mode : CaseMode)
    (values : List String) :
    Governs (.index mode) values (.matching (Table.index mode).name (.parameter 1))
      fun _ => some true where
  matchings := rfl
  resolves environment _ matching := by
    refine ⟨⟨.value (.integer 1), none, none⟩, ?_, fun _ _ _ _ => rfl⟩
    rw [resolveExpr, if_pos matching]

/-- A plain zero never holds. -/
theorem eq_some_false_of_isZero
    {environment : Environment}
    {typed : Typed}
    (resolves : resolveExpr environment body = some typed)
    (decides : typed.term.Decides verdict)
    (zero : body.isZero = true)
    (record : Record) :
    verdict record = some false := by
  have term : typed.term = .value (.integer 0) := by
    unfold Expr.isZero at zero
    split at zero
    · rw [beq_iff_eq] at zero
      rw [zero, resolveExpr, Option.some.injEq] at resolves
      rw [← resolves]
    · rw [resolveExpr, Option.some.injEq] at resolves
      rw [← resolves]
    · contradiction
  have decided := decides {} [] record []
  rw [term, Term.eval] at decided
  rcases value : verdict record with _ | _ | _
  · rw [value] at decided
    cases decided
  · rfl
  · rw [value] at decided
    cases decided

/-- A plain zero that chooses rows of a table never holds. -/
theorem Governs.eq_some_false_of_isZero
    (ofRecords : table ≠ .references)
    (governs : Governs table values body verdict)
    (zero : body.isZero = true)
    (record : Record) :
    verdict record = some false := by
  let environment : Environment :=
    { scopes := [⟨scopeColumns table.name table, []⟩], parameters := values, matching := true }
  have onRecords : environment.OnRecords table values :=
    ⟨ofRecords, ⟨_, _, rfl⟩, List.prefix_refl values⟩
  obtain ⟨typed, resolves, decides⟩ := governs.resolves environment onRecords rfl
  exact Sql.eq_some_false_of_isZero resolves decides zero record

/-- A plain zero without match expressions never holds. -/
theorem Means.eq_some_false_of_isZero
    (means : Means values body verdict)
    (zero : body.isZero = true)
    (record : Record) :
    verdict record = some false :=
  means.governs.eq_some_false_of_isZero (by decide) zero record

/-! ## Heights of conditions -/

/-- Of two conditions that are not too high, a plain zero takes the place of both. -/
theorem conjoin_of_isZero
    {left right : Expr}
    (zero : (left.isZero || right.isZero) = true)
    (leftLow : left.height?.isSome = true)
    (rightLow : right.height?.isSome = true) :
    left.conjoin right = .value (.integer 0) := by
  rw [Expr.conjoin, zero, leftLow, rightLow]
  rfl

theorem conjoin_of_nonzero
    {left right : Expr}
    (nonzero : (left.isZero || right.isZero) = false) :
    left.conjoin right = .and left right := by
  rw [Expr.conjoin, nonzero]
  rfl

/-- The height of two conditions joined by `AND`. -/
theorem height?_conjoin (left right : Expr) :
    (left.conjoin right).height? =
      left.height?.bind fun height => right.height?.bind fun other =>
        if left.isZero || right.isZero then some 1 else above? (max height other) := by
  cases low : left.height? with
  | none => simp [Expr.conjoin, Expr.height?, low]
  | some height =>
      cases otherLow : right.height? with
      | none => simp [Expr.conjoin, Expr.height?, low, otherLow]
      | some other =>
          cases zero : left.isZero || right.isZero with
          | true => simp [conjoin_of_isZero zero (by simp [low]) (by simp [otherLow]), Expr.height?]
          | false => simp [conjoin_of_nonzero zero, Expr.height?, low, otherLow]

/-- What is joined to a condition that is not too high is not too high either. -/
theorem isSome_height?_of_conjoin
    {left right : Expr}
    (low : (left.conjoin right).height?.isSome = true) :
    left.height?.isSome = true ∧ right.height?.isSome = true := by
  rw [height?_conjoin] at low
  cases leftLow : left.height? with
  | none => simp [leftLow] at low
  | some height =>
      cases rightLow : right.height? with
      | none => simp [leftLow, rightLow] at low
      | some other => exact ⟨rfl, rfl⟩

theorem isZero_conjoin
    {left right : Expr}
    (low : (left.conjoin right).height?.isSome = true) :
    (left.conjoin right).isZero = (left.isZero || right.isZero) := by
  obtain ⟨leftLow, rightLow⟩ := isSome_height?_of_conjoin low
  cases zero : left.isZero || right.isZero with
  | true =>
      rw [conjoin_of_isZero zero leftLow rightLow]
      rfl
  | false =>
      rw [conjoin_of_nonzero zero]
      rfl

/-- A condition joined by `AND` to another says that both hold. A plain zero behind a condition
without a verdict would leave nothing of it. -/
theorem Governs.conjoin
    (ofRecords : table ≠ .references)
    (low : (body.conjoin other).height?.isSome = true)
    (governs : Governs table values body first)
    (means : Means values other second)
    (settled : other.isZero = true → ∀ record, (first record).isSome = true) :
    Governs table values (body.conjoin other) fun record =>
      bothOf (first record) (second record) := by
  obtain ⟨bodyLow, otherLow⟩ := isSome_height?_of_conjoin low
  cases zero : body.isZero || other.isZero with
  | true =>
      have never (record : Record) : bothOf (first record) (second record) = some false := by
        rcases Bool.or_eq_true_iff.1 zero with isZero | isZero
        · rw [governs.eq_some_false_of_isZero ofRecords isZero, bothOf]
          simp
        · obtain ⟨value, known⟩ := Option.isSome_iff_exists.1 (settled isZero record)
          rw [means.eq_some_false_of_isZero isZero, known, bothOf_some, Bool.and_false]
      rw [conjoin_of_isZero zero bodyLow otherLow]
      refine ⟨rfl, fun environment _ _ => ⟨⟨.value (.integer 0), none, none⟩, rfl, ?_⟩⟩
      intro store outer record hidden
      simp only [never]
      rfl
  | false =>
      have plain := (Bool.or_eq_false_iff.1 zero).1
      rw [conjoin_of_nonzero zero]
      refine ⟨?_, fun environment onRecords matching => ?_⟩
      · rw [Expr.matchings, governs.matchings, means.plain, List.append_nil, plain,
          if_neg Bool.false_ne_true]
        rfl
      · obtain ⟨left, resolvesLeft, decidesLeft⟩ := governs.resolves _ onRecords matching
        obtain ⟨right, resolvesRight, decidesRight⟩ := means.resolves _ table onRecords
        refine ⟨⟨.and left.term right.term, none, none⟩, ?_, decidesLeft.and decidesRight⟩
        rw [resolveExpr, resolvesLeft, resolvesRight]
        rfl

end Sql
end BlockSearch
