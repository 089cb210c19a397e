import BlockSearch.Proofs.Search.Body

/-!
# Columns of the index

A search in the index asks for every column by its name, and for some of them as a text with
markers around the phrases that match. What it finds are the records with these texts in place of
their own.
-/

namespace BlockSearch
namespace Found

open Sql

/-! ## Columns as text -/

/-- Whether a column is shown with marks. -/
def isMarked (name : String) : Bool := markedFields.any (·.columnName == name)

/-- The tokens of what is written of the shape of an excerpt. -/
def shapeTokens : FullText.Shape → List Token
  | .whole => []
  | .window =>
      [.sign ",", .value (.text (String.ofList FullText.snippetGap)), .sign ",",
        .number ⟨false, FullText.snippetSize, 0, true⟩]

/-- The tokens of a column. -/
def projectionTokens
    (shape : FullText.Shape)
    (table name : String)
    (number : Nat) : List Token :=
  if isMarked name then
    [.word (Reader.excerptFunction shape), .sign "(", .word table, .sign ",",
      .number ⟨false, number, 0, true⟩, .sign ",", .value (.text (String.ofList Mark.indexLeft)),
      .sign ",", .value (.text (String.ofList Mark.indexRight))] ++ shapeTokens shape ++
      [.sign ")", .word "AS", .word name]
  else [.word name]

/-- A column as it is read. -/
def projectionItem (shape : FullText.Shape) (table name : String) (number : Nat) : Item :=
  if isMarked name then
    .expression (.excerpt shape table number (String.ofList Mark.indexLeft)
      (String.ofList Mark.indexRight)) (some name)
  else .expression (.column none name false) none

/-- What is written of the shape of an excerpt stands in front of the closing parenthesis. -/
theorem scans_shape
    (shape : FullText.Shape)
    {rest : List Char}
    {tokens : List Token}
    (scans : Token.Scans (')' :: rest) tokens) :
    Token.Scans ((shapeText shape).toList ++ ')' :: rest) (shapeTokens shape ++ tokens) ∧
      Token.Apart ((shapeText shape).toList ++ ')' :: rest) := by
  cases shape with
  | whole => exact ⟨scans, apart_close rest⟩
  | window =>
      have plain : (String.ofList FullText.snippetGap).toList.all
          (fun c => c != '\'' && c != '\x00') = true := by decide
      have size := scans.number FullText.snippetSize (by
        rintro c ⟨⟩
        decide)
      have gap := spells_quoted plain _ _ (apart_comma _) (size.blank.sign (c := ',') (by decide))
      have whole := gap.blank.sign (c := ',') (by decide)
      exact ⟨by simpa [shapeText, shapeTokens] using whole, apart_comma _⟩

theorem spells_projection
    (shape : FullText.Shape)
    {table name : String}
    (tableWord : Token.isWord table.toList = true)
    (nameWord : Token.isWord name.toList = true)
    (number : Nat) :
    Spells (projection shape table name number) (projectionTokens shape table name number) := by
  intro rest more apart scans
  rw [projection, projectionTokens, ← isMarked]
  cases isMarked name with
  | false => exact scans.word name nameWord apart
  | true =>
      have plain (side : List Char) (member : side = Mark.indexLeft ∨ side = Mark.indexRight) :
          (String.ofList side).toList.all (fun c => c != '\'' && c != '\x00') = true := by
        rcases member with rfl | rfl <;> decide
      have label := ((scans.word name nameWord apart).words ["AS"] (by decide)).blank
      obtain ⟨arguments, behind⟩ := scans_shape shape (label.sign (c := ')') (by decide))
      have right := spells_quoted (plain _ (.inr rfl)) _ _ behind arguments
      have left := spells_quoted (plain _ (.inl rfl)) _ _ (apart_comma _)
        (right.blank.sign (c := ',') (by decide))
      have place := (left.blank.sign (c := ',') (by decide)).number number (by
        rintro c ⟨⟩
        decide)
      have index := (place.blank.sign (c := ',') (by decide)).word table tableWord (apart_comma _)
      have function : Token.isWord (Reader.excerptFunction shape).toList = true := by
        cases shape <;> decide
      have whole := (index.sign (c := '(') (by decide)).word _ function (apart_open _)
      simpa using whole

/-- All columns of the index as results of a statement. -/
def listing (shape : FullText.Shape) (table : String) : Listing where
  text := projections shape table
  tokens := [.sign ","].intercalate (Table.recordColumns.zipIdx.map fun column =>
    projectionTokens shape table column.1.1 column.2)
  items := Table.recordColumns.zipIdx.map fun column =>
    projectionItem shape table column.1.1 column.2

theorem lists_listing (shape : FullText.Shape) (table : String) :
    Reader.Lists (listing shape table).tokens (listing shape table).items where
  reads fuel rest enough := by
    have count : 96 ≤ (listing shape table).tokens.length := by
      cases shape with
      | whole => exact le_refl 96
      | window => exact Nat.le_add_right 96 20
    obtain ⟨fuel, rfl⟩ : ∃ spare, fuel = spare + 1536 := Nat.exists_eq_add_of_le' (by omega)
    cases shape <;> rfl
  plain _ := by cases shape <;> exact ⟨rfl, rfl⟩

theorem stands_listing
    (shape : FullText.Shape)
    (mode : CaseMode) :
    (listing shape (Table.index mode).name).Stands where
  spells := by
    have words : ∀ column ∈ Table.recordColumns.zipIdx,
        Token.isWord column.1.1.toList = true := by
      decide
    rw [listing, projections]
    generalize Table.recordColumns.zipIdx = columns at words
    exact spells_commas fun column member =>
      spells_projection shape (isWord_name (.index mode)) (words column member) column.2
  lists := lists_listing shape _
  closed number member := by
    rcases Lists.mem_of_mem_intercalate member with comma | ⟨part, inside, here⟩
    · simp at comma
    · obtain ⟨column, -, rfl⟩ := List.mem_map.1 inside
      simp only [projectionTokens] at here
      split_ifs at here
      · cases shape <;> simp [shapeTokens] at here
      · simp at here
  low := by cases shape <;> rfl

/-! ## Columns as results -/

/-- A column of the index where an expression is matched. -/
def projectionTyped
    (shape : FullText.Shape)
    (mode : CaseMode)
    (expression : FullText.Expression)
    (name : String)
    (number : Nat) : Typed :=
  if isMarked name then
    ⟨.excerpt shape mode expression number (String.ofList Mark.indexLeft)
      (String.ofList Mark.indexRight), none, none⟩
  else ⟨.column 0 number, some .none, none⟩

/-- The results for all columns. -/
def results
    (shape : FullText.Shape)
    (mode : CaseMode)
    (expression : FullText.Expression) : List (List Result) :=
  Table.recordColumns.zipIdx.map fun column =>
    [⟨some column.1.1, projectionTyped shape mode expression column.1.1 column.2⟩]

theorem scopeColumns_index (mode : CaseMode) :
    ∀ column ∈ Table.recordColumns.zipIdx,
      (scopeColumns (Table.index mode).name (.index mode)).findIdx?
          (Scope.matchesColumn none column.1.1) = some column.2 ∧
        (scopeColumns (Table.index mode).name (.index mode))[column.2]? =
          some ⟨some (Table.index mode).name, some column.1.1, some .none, false⟩ := by
  cases mode <;> decide

section

variable
  {shape : FullText.Shape}
  {mode : CaseMode}
  {expression : FullText.Expression}
  {environment : Environment}
  {aliases : List (String × Typed)}
  {outer : List Scope}

theorem resolveItem_projection
    (scopes : environment.scopes =
      ⟨scopeColumns (Table.index mode).name (.index mode), aliases⟩ :: outer)
    (matched : environment.matched = some ⟨mode, expression⟩)
    (columns : List ScopeColumn) :
    ∀ column ∈ Table.recordColumns.zipIdx,
      resolveItem environment columns
          (projectionItem shape (Table.index mode).name column.1.1 column.2) =
        some [⟨some column.1.1, projectionTyped shape mode expression column.1.1 column.2⟩] := by
  intro column member
  obtain ⟨found, named⟩ := scopeColumns_index mode column member
  rw [projectionItem, projectionTyped]
  cases isMarked column.1.1 with
  | true =>
      have known : sameName (Table.index mode).name (Table.index mode).name = true := by simp [sameName]
      obtain ⟨inside, -⟩ := List.getElem?_eq_some_iff.1 (List.mk_mem_zipIdx_iff_getElem?.1 member)
      simp [resolveItem, resolveExpr, Environment.excerpt?, matched, known, inside]
  | false =>
      simp [resolveItem, resolveExpr, Environment.column?, scopes, Environment.findColumn?,
        Scope.columnIndex?, found, named, Term.hasAggregate]

theorem resolveItems_listing
    (scopes : environment.scopes =
      ⟨scopeColumns (Table.index mode).name (.index mode), aliases⟩ :: outer)
    (matched : environment.matched = some ⟨mode, expression⟩)
    (columns : List ScopeColumn) :
    resolveItems environment columns (listing shape (Table.index mode).name).items =
      some (results shape mode expression) := by
  have each := @resolveItem_projection shape _ _ _ _ _ scopes matched columns
  rw [listing, results]
  generalize Table.recordColumns.zipIdx = entries at each
  dsimp only
  induction entries with
  | nil => rw [List.map_nil, resolveItems, List.map_nil]
  | cons entry entries inductionHypothesis =>
      have later := inductionHypothesis fun column member =>
        each column (List.mem_cons_of_mem _ member)
      rw [List.map_cons, resolveItems, each entry List.mem_cons_self, later]
      rfl

/-- Only columns that are shown with marks are given names. -/
theorem isMarked_of_mem_givenNames
    {table : String}
    {entry : String × Typed}
    (member : entry ∈ givenNames (listing shape table).items (results shape mode expression)) :
    isMarked entry.1 = true := by
  rw [givenNames, listing, results, List.zip_map', List.flatMap_map] at member
  obtain ⟨column, -, here⟩ := List.mem_flatMap.1 member
  simp only [projectionItem] at here
  split_ifs at here with marked
  · obtain rfl : entry = _ := List.mem_singleton.1 here
    exact marked
  · simp [Item.givenNames] at here

/-- The place of a column of the index, which may be hidden. -/
def indexColumn (mode : CaseMode) (name : String) : Nat :=
  (scopeColumns (Table.index mode).name (.index mode)).findIdx (Scope.matchesColumn none name)

/-- The name of a column that is not shown with marks names no result. -/
theorem of_column_listing
    {name : String}
    (unmarked : ∀ field ∈ markedFields, sameName field.columnName name = false) :
    Sql.Target.of
        (givenNames (listing shape (Table.index mode).name).items (results shape mode expression))
        (results shape mode expression).flatten (.column none name false) = .expression := by
  have missed : (givenNames (listing shape (Table.index mode).name).items
      (results shape mode expression)).find? (fun entry => sameName entry.1 name) = none := by
    rw [List.find?_eq_none]
    intro entry member
    obtain ⟨field, marked, same⟩ := List.any_eq_true.1 (isMarked_of_mem_givenNames member)
    rw [← beq_iff_eq.1 same, unmarked field marked]
    exact Bool.false_ne_true
  rw [Sql.Target.of, missed]

theorem exists_resolve_column
    (scopes : environment.scopes =
      ⟨scopeColumns (Table.index mode).name (.index mode), aliases⟩ :: outer)
    {name : String}
    (known : name ∈ ["created", "updated", "sort", "length", "rank"]) :
    ∃ affinity, resolveExpr environment (.column none name false) =
      some ⟨.column 0 (indexColumn mode name), affinity, none⟩ := by
  simp only [List.mem_cons, List.not_mem_nil, or_false] at known
  rw [resolveExpr, Environment.column?, scopes, Environment.findColumn?]
  rcases known with rfl | rfl | rfl | rfl | rfl <;> cases mode <;> exact ⟨_, rfl⟩

/-- An order by a column that is not shown with marks, or by the rank, names no result. -/
theorem resolveOrder_listing
    (scopes : environment.scopes =
      ⟨scopeColumns (Table.index mode).name (.index mode), aliases⟩ :: outer)
    {key : Reader.Key}
    (known : key.name ∈ Reader.Key.names) :
    resolveOrder environment
        (givenNames (listing shape (Table.index mode).name).items (results shape mode expression))
        (results shape mode expression).flatten key.terms =
      some [(.column 0 (indexColumn mode key.name), .binary, key.direction.getD false)] := by
  obtain ⟨name, direction⟩ := key
  simp only [Reader.Key.names, List.mem_cons, List.not_mem_nil, or_false] at known
  have unmarked : ∀ field ∈ markedFields, sameName field.columnName name = false := by
    rcases known with rfl | rfl | rfl | rfl <;> decide
  obtain ⟨affinity, resolved⟩ := @exists_resolve_column _ _ _ _ scopes name (by
    rcases known with rfl | rfl | rfl | rfl <;> decide)
  rw [Reader.Key.terms, resolveOrder, of_column_listing unmarked, resolveOrder]
  simp only [resolved]
  rfl

end

/-- No result counts rows. -/
theorem anyAggregate_results
    {shape : FullText.Shape}
    {mode : CaseMode}
    {expression : FullText.Expression} :
    Term.anyAggregate ((results shape mode expression).flatten.map (·.typed.term)) = false := rfl

/-- The results are resolved where the first value is matched. -/
theorem resolves_listing
    {shape : FullText.Shape}
    {mode : CaseMode}
    {values : List String}
    {body : Expr}
    {expression : FullText.Expression}
    (matched : matchedOf? { scopes := [], parameters := values } (some body) (.index mode) =
      some ⟨mode, expression⟩)
    {key : Reader.Key}
    (known : key.name ∈ Reader.Key.names)
    (limit : Nat) :
    Resolves (.index mode) values body (listing shape (Table.index mode).name).items
      ⟨key.sorting, limit⟩ (results shape mode expression)
      [(.column 0 (indexColumn mode key.name), .binary, key.direction.getD false)] where
  listed := resolveItems_listing rfl matched _
  ordered := resolveOrder_listing rfl known
  plain := anyAggregate_results
  plainOrder := rfl

/-! ## Values of the results -/

/-- The text of a field in the row of a record is that of the record. -/
theorem text_toRow
    (record : Record)
    (hidden : Row)
    (field : Field) :
    Row.text (Record.toRow record ++ hidden) field = (record.text field).toList := by
  rw [Row.text, (names_columnName field).value]
  rfl

/-- The value of a column where an expression is matched. -/
def projectionValue
    (shape : FullText.Shape)
    (mode : CaseMode)
    (expression : FullText.Expression)
    (record : Record)
    (column : (String × Affinity) × Nat) : Value :=
  if isMarked column.1.1 then
    match Field.all.find? fun field => recordColumn field.columnName == column.2 with
    | some field =>
        let places := expression.instances (.ofRecord mode record)
        .text (String.ofList
          (shape.excerpt indexMarkers (places.filter (·.field = field))
            (record.text field).toList))
    | none => .null
  else (Record.toRow record)[column.2]?.getD .null

theorem eval_projection
    {shape : FullText.Shape}
    {mode : CaseMode}
    {expression : FullText.Expression}
    {store : Store}
    {record : Record}
    {hidden : Row} :
    ∀ column ∈ Table.recordColumns.zipIdx,
      (projectionTyped shape mode expression column.1.1 column.2).term.eval store [] []
          (Record.toRow record ++ hidden) =
        some (projectionValue shape mode expression record column) := by
  intro column member
  rw [projectionTyped, projectionValue]
  cases marked : isMarked column.1.1 with
  | false =>
      obtain ⟨inside, -⟩ := List.getElem?_eq_some_iff.1 (List.mk_mem_zipIdx_iff_getElem?.1 member)
      have front : (Record.toRow record ++ hidden)[column.2]? = (Record.toRow record)[column.2]? :=
        List.getElem?_append_left inside
      simp only [Bool.false_eq_true, if_false, Term.eval, front]
  | true =>
      have known : ∀ column ∈ Table.recordColumns.zipIdx, isMarked column.1.1 = true →
          (Field.all.find? fun field => recordColumn field.columnName == column.2).isSome := by
        decide
      obtain ⟨field, found⟩ := Option.isSome_iff_exists.1 (known column member marked)
      simp only [if_true, Term.eval, Row.excerpt, found, text_toRow, String.toList_ofList]
      rfl

/-- The values are those of the record with markers in the texts of some of its fields. -/
theorem map_projectionValue
    (shape : FullText.Shape)
    (mode : CaseMode)
    (expression : FullText.Expression)
    (record : Record) :
    Table.recordColumns.zipIdx.map (projectionValue shape mode expression record) =
      Record.toRow (withExcerpts shape.excerpt mode expression record) := by
  simp [Table.recordColumns, projectionValue, isMarked, markedFields, Field.columnName, Field.all,
    recordColumn, List.find?, List.findIdx, List.findIdx.go, Record.toRow, withExcerpts,
    Record.setText, Record.text]

/-- The results have the names of the columns, in their order. -/
theorem names_results
    (shape : FullText.Shape)
    (mode : CaseMode)
    (expression : FullText.Expression) :
    (results shape mode expression).flatten.map Result.name =
      Table.recordColumns.map fun column => some column.1 := rfl

theorem evalAll_results
    {shape : FullText.Shape}
    {mode : CaseMode}
    {expression : FullText.Expression}
    {store : Store}
    {record : Record}
    {hidden : Row} :
    evalAll store [] [] (Record.toRow record ++ hidden)
        ((results shape mode expression).flatten.map (·.typed.term)) =
      some (Record.toRow (withExcerpts shape.excerpt mode expression record)) := by
  have each := @eval_projection shape mode expression store record hidden
  rw [← map_projectionValue, results]
  generalize Table.recordColumns.zipIdx = columns at each
  induction columns with
  | nil => rw [List.map_nil, List.flatten_nil, List.map_nil, evalAll, List.map_nil]
  | cons column columns inductionHypothesis =>
      have later := inductionHypothesis fun one member => each one (List.mem_cons_of_mem _ member)
      rw [List.map_cons, List.flatten_cons, List.map_append, List.map_singleton,
        List.singleton_append, evalAll, each column List.mem_cons_self, later]
      rfl

end Found
end BlockSearch
