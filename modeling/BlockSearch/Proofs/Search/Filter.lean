import BlockSearch.Proofs.Sql.Clause
import BlockSearch.Proofs.Sql.Like
import BlockSearch.Search.Found
import Mathlib.Data.String.Lemmas

/-!
# Filters as text

The text that a filter writes behind a condition says that the filter accepts a record, too. Its
parameters have the numbers of the values that are bound for it, and values that were bound
before keep theirs. The condition can be tested as long as no pattern for paths is too long, and it
becomes too high with too many notebooks or paths.

The conditions hold of the records of the types and notebooks of the filter whose paths begin with one
of its paths, up to ASCII case. Percent signs, underscores and backslashes stand for themselves. A
null character in a path of the filter ends the pattern that is written for it before the percent
sign, so that such a path accepts no longer ones.
-/

namespace BlockSearch
namespace Filter

open Sql

/-! ## Conditions on one value -/

namespace Condition

/-- Whether a record meets the condition, if its pattern is not too long. -/
def verdict (record : Record) : Condition → Option Bool
  | .box value => some (record.box == value)
  | .path pattern => Like.verdict (some '\\') pattern record.path

/-- A condition on the value of a parameter. -/
def clause (condition : Condition) (number : Nat) : Clause where
  text := condition.text ("?" ++ toString number)
  tokens :=
    match condition with
    | .box _ => [.word "box", .sign "=", .parameter (some number)]
    | .path _ =>
        [.word "path", .word "LIKE", .parameter (some number), .word "ESCAPE",
          .value (.text "\\")]
  body :=
    match condition with
    | .box _ => .compare .equal (.column none "box" false) (.parameter number)
    | .path _ =>
        .likeEscaped (.column none "path" false) (.parameter number) (.value (.text "\\"))
  verdict record := condition.verdict record

theorem spells
    (condition : Condition)
    (number : Nat) :
    Spells (condition.clause number).text (condition.clause number).tokens := by
  intro rest more apart scans
  cases condition with
  | box value =>
      have place := ((scans.parameter number apart).blank.equals (apart_blank _)).blank
      have whole := place.word "box" (by decide) (apart_blank _)
      simpa [clause, text] using whole
  | path pattern =>
      have escape := scans.quoted "\\" (by decide) (by decide) apart
      have behind := escape.words ["ESCAPE"] (by decide)
      have place := behind.blank.parameter number (apart_blank _)
      have whole := place.words ["path", "LIKE"] (by decide)
      simpa [clause, text] using whole

theorem stands
    {condition : Condition}
    {values : List String}
    {number : Nat}
    (bound : values[number - 1]? = some condition.value) :
    (condition.clause number).Stands values := by
  refine ⟨condition.spells number, ?_, ?_, ?_⟩ <;> cases condition
  · exact Reader.reads_equal_box number
  · exact Reader.reads_like_path number
  · exact means_equal_box bound
  · exact means_like_path bound
  · simp [clause]
  · simp [clause]

theorem parameter_mem_clause
    {condition : Condition}
    {number : Nat}
    {other : Nat} :
    Token.parameter (some other) ∈ (condition.clause number).tokens ↔ other = number := by
  cases condition <;> simp [clause]

theorem height?_clause (condition : Condition) (number : Nat) :
    (condition.clause number).body.height? = some 2 := by
  cases condition <;> rfl

end Condition

/-! ## Conditions of which one holds -/

/-- Conditions on values that are bound from a number on. -/
def clauses (conditions : List Condition) (number : Nat) : List Clause :=
  (conditions.zipIdx number).map fun entry => entry.1.clause entry.2

/-- Values are bound one after the other behind those of a fragment. -/
theorem bindConditions_eq
    (fragment : Fragment)
    (conditions : List Condition) :
    bindConditions fragment conditions =
      (⟨fragment.text, fragment.values ++ conditions.map Condition.value⟩,
        (clauses conditions (fragment.values.length + 1)).map Clause.text) := by
  induction conditions generalizing fragment with
  | nil => simp [bindConditions, clauses]
  | cons condition conditions inductionHypothesis =>
      simp [bindConditions, Fragment.bind, inductionHypothesis, clauses, Condition.clause]

theorem writeAny_cons
    (fragment : Fragment)
    (condition : Condition)
    (conditions : List Condition) :
    writeAny fragment (condition :: conditions) =
      ⟨fragment.text ++ " AND " ++ (Clause.any (condition.clause (fragment.values.length + 1))
        (clauses conditions (fragment.values.length + 1 + 1))).text,
        fragment.values ++ (condition :: conditions).map Condition.value⟩ := by
  have opening : " AND (" = " AND " ++ "(" := rfl
  simp only [writeAny, List.isEmpty_cons, Bool.false_eq_true, if_false, bindConditions_eq,
    Fragment.push, Clause.any, clauses, List.zipIdx_cons, List.map_cons, opening,
    String.append_assoc]

theorem mem_clauses_iff
    {conditions : List Condition}
    {start : Nat}
    {clause : Clause} :
    clause ∈ clauses conditions start ↔
      ∃ (index : Nat) (condition : Condition), conditions[index]? = some condition ∧
        condition.clause (start + index) = clause := by
  simp only [clauses, List.mem_map, Prod.exists, List.mk_mem_zipIdx_iff_le_and_getElem?_sub]
  constructor
  · rintro ⟨condition, number, ⟨above, found⟩, rfl⟩
    exact ⟨number - start, condition, found, by rw [Nat.add_sub_cancel' above]⟩
  · rintro ⟨index, condition, found, rfl⟩
    exact ⟨condition, start + index, ⟨Nat.le_add_right _ _, by rwa [Nat.add_sub_cancel_left]⟩, rfl⟩

/-- Conditions stand for themselves where their values are bound. -/
theorem stands_of_mem_clauses
    {values : List String}
    {conditions : List Condition}
    {clause : Clause}
    (member : clause ∈ clauses conditions (values.length + 1)) :
    clause.Stands (values ++ conditions.map Condition.value) := by
  obtain ⟨index, condition, found, rfl⟩ := mem_clauses_iff.1 member
  apply Condition.stands
  rw [List.getElem?_append_right (by omega), List.getElem?_map,
    show values.length + 1 + index - 1 - values.length = index by omega, found]
  rfl

/-- Conditions refer to the numbers from the first one on. -/
theorem parameter_mem_clauses
    {conditions : List Condition}
    {start number : Nat} :
    (∃ clause ∈ clauses conditions start, Token.parameter (some number) ∈ clause.tokens) ↔
      start ≤ number ∧ number < start + conditions.length := by
  simp only [mem_clauses_iff]
  constructor
  · rintro ⟨_, ⟨index, condition, found, rfl⟩, inside⟩
    obtain ⟨below, -⟩ := List.getElem?_eq_some_iff.1 found
    rw [Condition.parameter_mem_clause] at inside
    omega
  · rintro ⟨above, below⟩
    have inside : number - start < conditions.length := by omega
    refine ⟨_, ⟨number - start, conditions[number - start], List.getElem?_eq_getElem inside, rfl⟩, ?_⟩
    rw [Condition.parameter_mem_clause]
    omega

theorem map_verdict_clauses
    (conditions : List Condition)
    (start : Nat)
    (record : Record) :
    ((clauses conditions start).map fun clause => clause.verdict record) =
      conditions.map fun condition => condition.verdict record := by
  induction conditions generalizing start with
  | nil => rfl
  | cons condition conditions inductionHypothesis =>
      have later := inductionHypothesis (start + 1)
      rw [clauses] at later ⊢
      rw [List.zipIdx_cons, List.map_cons, List.map_cons, List.map_cons, later]
      rfl

/-- The verdict on one of some conditions, or on none. -/
def anyVerdict (record : Record) (conditions : List Condition) : Option Bool :=
  if conditions.isEmpty then some true
  else anyOf (conditions.map fun condition => condition.verdict record)

/-- The height of two conditions joined by `AND`, of which one may be a plain zero. -/
def joinedHeight? (zero : Bool) (left right : Option Nat) : Option Nat :=
  left.bind fun height => right.bind fun other =>
    if zero then some 1 else above? (max height other)

/-- The height of a condition behind which it is written that one of some conditions must hold. -/
def writtenHeight? (zero : Bool) (count : Nat) (height : Option Nat) : Option Nat :=
  if count = 0 then height else joinedHeight? zero height (Clause.anyHeight? count)

/--
A fragment names a table and restricts a statement to some of its records by a condition with a
height, which is a plain zero or not.
-/
def Restricts
    (table : Table)
    (fragment : Fragment)
    (zero : Bool)
    (height : Option Nat)
    (verdict : Record → Option Bool) : Prop :=
  ∃ clause : Clause, fragment.text = "FROM " ++ table.name ++ " WHERE " ++ clause.text ∧
    clause.Restricts table fragment.values ∧
    (clause.body.height?.isSome = true → clause.body.isZero = zero) ∧
    clause.body.height? = height ∧ ∀ record, clause.verdict record = verdict record

variable
  {table : Table}
  {fragment : Fragment}
  {zero : Bool}
  {height : Option Nat}
  {earlier : Record → Option Bool}

/-- The height of a condition that is joined to one that may be a plain zero. -/
theorem height?_and
    {left right : Clause}
    (plain : left.body.height?.isSome = true → left.body.isZero = zero) :
    (left.and right).body.height? =
      joinedHeight? (zero || right.body.isZero) left.body.height? right.body.height? := by
  rw [Clause.and, height?_conjoin, joinedHeight?]
  cases low : left.body.height? with
  | none => rfl
  | some height =>
      rw [low] at plain
      rw [plain rfl]

/-- One of the conditions that are written must hold, too. -/
theorem restricts_writeAny
    (ofRecords : table ≠ .references)
    (restricts : Restricts table fragment zero height earlier)
    (conditions : List Condition) :
    Restricts table (writeAny fragment conditions) zero
      (writtenHeight? zero conditions.length height) fun record =>
        bothOf (earlier record) (anyVerdict record conditions) := by
  obtain ⟨clause, text, restricts, plain, high, same⟩ := restricts
  cases conditions with
  | nil =>
      refine ⟨clause, text, restricts, plain, high, fun record => ?_⟩
      rw [same]
      change earlier record = bothOf (earlier record) (some true)
      rcases earlier record with _ | _ | _ <;> rfl
  | cons condition conditions =>
      let number := fragment.values.length + 1
      have all : condition.clause number :: clauses conditions (number + 1) =
          clauses (condition :: conditions) number := by
        simp [clauses]
      have stands : ∀ one ∈ condition.clause number :: clauses conditions (number + 1),
          one.Stands (fragment.values ++ (condition :: conditions).map Condition.value) := by
        rw [all]
        exact fun one => stands_of_mem_clauses
      have nonzero : (Clause.any (condition.clause number)
          (clauses conditions (number + 1))).body.isZero = false :=
        Clause.isZero_any (by cases condition <;> rfl)
      have heights : (Clause.any (condition.clause number)
          (clauses conditions (number + 1))).body.height? =
            Clause.anyHeight? (condition :: conditions).length := by
        rw [Clause.height?_any]
        · simp [clauses]
        · rw [all]
          intro one member
          obtain ⟨index, condition, -, rfl⟩ := mem_clauses_iff.1 member
          exact condition.height?_clause _
      rw [writeAny_cons]
      refine ⟨clause.and (Clause.any (condition.clause number) (clauses conditions (number + 1))),
        ?_, restricts.and ofRecords (fun isZero => ?_) (Clause.Stands.any stands) fun other => ?_,
        fun low => ?_, ?_, fun record => ?_⟩
      · simp only [text, Clause.and, String.append_assoc, number]
      · rw [nonzero] at isZero
        cases isZero
      · rw [Clause.parameter_mem_any, all, parameter_mem_clauses]
        simp only [List.length_append, List.length_map, number]
        omega
      · have kept : (clause.and _).body.isZero = _ := isZero_conjoin low
        rw [kept, plain (isSome_height?_of_conjoin low).1, nonzero, Bool.or_false]
      · rw [height?_and plain, nonzero, heights, high, Bool.or_false, writtenHeight?,
          if_neg (List.length_cons ▸ Nat.succ_ne_zero _)]
      · have verdicts := map_verdict_clauses (condition :: conditions) number record
        rw [← all] at verdicts
        change bothOf (clause.verdict record) (anyOf _) = _
        rw [verdicts, same]
        rfl

/-- Values that were bound before stay in front. -/
theorem writeAny_values
    (fragment : Fragment)
    (conditions : List Condition) :
    (writeAny fragment conditions).values = fragment.values ++ conditions.map Condition.value := by
  cases conditions with
  | nil => simp [writeAny]
  | cons condition conditions => rw [writeAny_cons]

/-! ## Filters -/

/-- The condition on the type of a record. -/
def typeClause (filter : Filter) : Clause where
  text := "type IN (" ++ ", ".intercalate (filter.codes.map fun code => "'" ++ code ++ "'") ++ ")"
  tokens := .word "type" :: .word "IN" :: .sign "(" :: Reader.textTokens filter.codes ++ [.sign ")"]
  body := .among (.column none "type" false) (filter.codes.map fun code => .value (.text code))
  verdict record := some (filter.codes.contains record.type)

theorem stands_typeClause
    (filter : Filter)
    (values : List String) :
    filter.typeClause.Stands values := by
  have quoted : ∀ code ∈ filter.codes, Spells ("'" ++ code ++ "'") [.value (.text code)] := by
    intro code member
    obtain ⟨type, -, rfl⟩ := List.mem_map.1 member
    exact spells_quoted (by cases type <;> decide)
  refine ⟨fun rest more apart scans => ?_, Reader.reads_type_in filter.codes,
    means_type_in values filter.codes, ?_⟩
  · have close := scans.sign (c := ')') (by decide)
    have codes := spells_commas quoted _ _ (apart_close _) close
    have whole := (codes.sign (c := '(') (by decide)).words ["type", "IN"] (by decide)
    simpa [typeClause, Reader.textTokens] using whole
  · simp [typeClause, Reader.parameter_not_mem_textTokens]

theorem write_values
    (filter : Filter)
    (fragment : Fragment) :
    (filter.write fragment).values = fragment.values ++
      (filter.boxConditions.map Condition.value ++ filter.pathConditions.map Condition.value) := by
  rw [write, writeAny_values, writeAny_values, List.append_assoc]
  rfl

/-- The condition on the type is a plain zero if there are no types. -/
theorem isZero_typeClause (filter : Filter) :
    filter.typeClause.body.isZero = filter.types.isEmpty := by
  rw [typeClause, codes]
  cases filter.types <;> rfl

theorem height?_typeClause (filter : Filter) :
    filter.typeClause.body.height? = some (if filter.types.isEmpty then 1 else 2) := by
  have texts (codes : List String) :
      heights? (codes.map fun code => .value (.text code)) = some (min codes.length 1) := by
    induction codes with
    | nil => rfl
    | cons code codes inductionHypothesis =>
        have one : (Expr.value (.text code)).height? = some 1 := rfl
        rw [List.map_cons, heights?, one, inductionHypothesis, List.length_cons, Option.bind_eq_bind,
          Option.bind_some, Option.bind_some, Option.some.injEq]
        omega
  have column : (Expr.column none "type" false).height? = some 1 := rfl
  rw [typeClause, codes]
  cases filter.types with
  | nil => rfl
  | cons type types =>
      have known := texts ((type :: types).map BlockType.code)
      rw [Expr.height?, column, known]
      · simp [above?, greatestHeight]
      · exact List.cons_ne_nil _ _

/-- Whether a filter accepts a record, as far as it can be tested. -/
def verdict (filter : Filter) (record : Record) : Option Bool :=
  bothOf (bothOf (some (filter.codes.contains record.type))
    (anyVerdict record filter.boxConditions)) (anyVerdict record filter.pathConditions)

/-- The height of a condition behind which a filter is written. -/
def height? (filter : Filter) (zero : Bool) (height : Option Nat) : Option Nat :=
  let never := zero || filter.types.isEmpty
  writtenHeight? never filter.paths.length (writtenHeight? never filter.boxes.length
    (joinedHeight? never height (some (if filter.types.isEmpty then 1 else 2))))

/--
What a filter writes says that it accepts a record, too. It is a plain zero if there are no types.
-/
theorem restricts_write
    (ofRecords : table ≠ .references)
    (settled : ∀ record, (earlier record).isSome = true)
    (restricts : Restricts table fragment zero height earlier)
    (filter : Filter) :
    Restricts table (filter.write fragment) (zero || filter.types.isEmpty)
      (filter.height? zero height) fun record =>
        bothOf (earlier record) (filter.verdict record) := by
  have typed : Restricts table (fragment.push filter.typeText) (zero || filter.types.isEmpty)
      (joinedHeight? (zero || filter.types.isEmpty) height
        (some (if filter.types.isEmpty then 1 else 2)))
      fun record => bothOf (earlier record) (some (filter.codes.contains record.type)) := by
    obtain ⟨clause, text, restricts, plain, high, same⟩ := restricts
    -- The codes stand in the text, so that no value is bound for them.
    have opening : " AND type IN (" = " AND " ++ "type IN (" := rfl
    have joined := @Clause.Restricts.and _ _ _ _ ofRecords restricts
      (fun _ record => by rw [same]; exact settled record) [] (filter.stands_typeClause _)
      fun number => by
        simp [typeClause, Reader.parameter_not_mem_textTokens]
    rw [List.append_nil] at joined
    refine ⟨clause.and filter.typeClause, ?_, joined, fun low => ?_, ?_, fun record => ?_⟩
    · simp only [Fragment.push, text, Clause.and, typeClause, typeText, opening,
        String.append_assoc]
    · have kept : (clause.and _).body.isZero = _ := isZero_conjoin low
      rw [kept, plain (isSome_height?_of_conjoin low).1, isZero_typeClause]
    · rw [height?_and plain, isZero_typeClause, height?_typeClause, high]
    · change bothOf (clause.verdict record) _ = _
      rw [same]
      rfl
  have boxed := restricts_writeAny ofRecords typed filter.boxConditions
  have pathed := restricts_writeAny ofRecords boxed filter.pathConditions
  simpa only [write, Filter.verdict, height?, boxConditions, pathConditions, List.length_map,
    bothOf_assoc] using pathed

/-! ## Accepted records -/

/-- A condition on a path holds of the records whose path begins as it asks for. -/
theorem holds_pathPattern
    (path : String)
    (record : Record) :
    (Condition.path (pathPattern path)).holds record = true ↔
      Like.Begins path.toList record.path.toList := by
  rw [Condition.holds, pathPattern, String.toList_ofList, Like.holds_beginning]

/-- The records that a filter accepts, in terms of its types, notebooks and paths. -/
theorem accepts_iff
    {filter : Filter}
    {record : Record} :
    filter.accepts record = true ↔
      record.type ∈ filter.codes ∧
        (filter.boxes = [] ∨ record.box ∈ filter.boxes) ∧
        (filter.paths = [] ∨
          ∃ path ∈ filter.paths, Like.Begins path.toList record.path.toList) := by
  have boxes : anyHolds record filter.boxConditions = true ↔
      filter.boxes = [] ∨ record.box ∈ filter.boxes := by
    simp [anyHolds, boxConditions, Condition.holds]
  have paths : anyHolds record filter.pathConditions = true ↔
      filter.paths = [] ∨
        ∃ path ∈ filter.paths, Like.Begins path.toList record.path.toList := by
    simp [anyHolds, pathConditions, holds_pathPattern]
  rw [accepts, Bool.and_eq_true, Bool.and_eq_true, boxes, paths, List.contains_iff_mem, and_assoc]

/-! ## Limits of the database -/

/-- No pattern for paths is too long. -/
def IsShort (filter : Filter) : Prop :=
  ∀ path ∈ filter.paths, (pathPattern path).utf8ByteSize ≤ Like.greatestSize

instance (filter : Filter) : Decidable filter.IsShort :=
  inferInstanceAs (Decidable (∀ path ∈ filter.paths, _))

/-- There are not too many notebooks and paths for a statement. -/
def IsNarrow (filter : Filter) : Prop := filter.boxes.length ≤ 997 ∧ filter.paths.length ≤ 997

/-- There are too many notebooks or paths for a statement. -/
def IsWide (filter : Filter) : Prop :=
  filter.types ≠ [] ∧ (999 ≤ filter.boxes.length ∨ 999 ≤ filter.paths.length)

/-- A filter whose patterns are not too long tests every record. -/
theorem verdict_of_isShort
    {filter : Filter}
    (short : filter.IsShort)
    (record : Record) :
    filter.verdict record = some (filter.accepts record) := by
  have tested {conditions : List Condition}
      (each : ∀ condition ∈ conditions,
        condition.verdict record = some (condition.holds record)) :
      anyVerdict record conditions = some (anyHolds record conditions) := by
    rw [anyVerdict, anyHolds, List.map_congr_left each]
    cases conditions with
    | nil => rfl
    | cons condition conditions =>
        have known := anyOf_map_some ((condition :: conditions).map (·.holds record))
        rw [List.map_map] at known
        simpa [List.any_map, Function.comp_def] using known
  rw [verdict, accepts, tested, tested, bothOf_some, bothOf_some]
  · intro condition member
    obtain ⟨path, here, rfl⟩ := List.mem_map.1 member
    exact Like.verdict_of_le (short path here) _ _
  · intro condition member
    obtain ⟨box, -, rfl⟩ := List.mem_map.1 member
    rfl

/-- A path of too many characters has a pattern that is too long. -/
theorem greatestSize_lt_pathPattern
    {path : String}
    (long : Like.greatestSize ≤ path.toList.length) :
    Like.greatestSize < (pathPattern path).utf8ByteSize := by
  have bytes (text : List Char) : text.length ≤ String.utf8Len text := by
    induction text with
    | nil => exact Nat.le_refl 0
    | cons c text inductionHypothesis =>
        rw [List.length_cons, String.utf8Len_cons]
        exact Nat.add_le_add inductionHypothesis c.utf8Size_pos
  have kept (text : List Char) : text.length ≤ (Like.escaped text).length := by
    induction text with
    | nil => exact Nat.le_refl 0
    | cons c text inductionHypothesis =>
        rw [Like.escaped, List.flatMap_cons, List.length_append, List.length_cons, Nat.add_comm]
        refine Nat.add_le_add ?_ inductionHypothesis
        split_ifs <;> simp
  have size := bytes (Like.escaped path.toList ++ ['%'])
  rw [List.length_append, List.length_singleton] at size
  rw [pathPattern, String.utf8ByteSize_ofList]
  exact Nat.lt_of_lt_of_le (Nat.lt_succ_of_le (long.trans (kept _))) size

/-- A path of as many characters as a pattern may have bytes is too long. -/
theorem greatestSize_le_length_replicate :
    Like.greatestSize ≤
      (String.ofList (List.replicate Like.greatestSize 'a')).toList.length := by
  rw [String.toList_ofList, List.length_replicate]

/-- A filter without notebooks accepts a record below its first path, whatever the other paths. -/
theorem verdict_of_front
    {filter : Filter}
    {record : Record}
    (typed : record.type ∈ filter.codes)
    (everywhere : filter.boxes = [])
    {path : String}
    {others : List String}
    (paths : filter.paths = path :: others)
    (passed : Condition.verdict record (.path (pathPattern path)) = some true) :
    filter.verdict record = some true := by
  rw [verdict, boxConditions, everywhere, List.contains_iff_mem.2 typed, pathConditions, paths,
    List.map_cons, anyVerdict, anyVerdict, List.map_cons, anyOf, passed]
  rfl

/-- A filter without notebooks cannot test a path that is too long, behind others that do not hold. -/
theorem verdict_of_long
    {filter : Filter}
    {record : Record}
    (typed : record.type ∈ filter.codes)
    (everywhere : filter.boxes = [])
    {before after : List String}
    {path : String}
    (paths : filter.paths = before ++ path :: after)
    (passed : ∀ other ∈ before, Condition.verdict record (.path (pathPattern other)) = some false)
    (long : Like.greatestSize ≤ path.toList.length) :
    filter.verdict record = none := by
  have untested : Condition.verdict record (.path (pathPattern path)) = none :=
    if_pos (greatestSize_lt_pathPattern long)
  have reached : anyOf ((filter.pathConditions).map fun condition => condition.verdict record) =
      none := by
    rw [pathConditions, paths, List.map_map]
    clear paths
    induction before with
    | nil =>
        rw [List.nil_append, List.map_cons, anyOf, List.foldr_cons, Function.comp_apply, untested]
        rfl
    | cons other before inductionHypothesis =>
        have later := inductionHypothesis fun one member => passed one (List.mem_cons_of_mem _ member)
        rw [anyOf] at later ⊢
        rw [List.cons_append, List.map_cons, List.foldr_cons, later, Function.comp_apply,
          passed other List.mem_cons_self]
        rfl
  have some : filter.pathConditions.isEmpty = false := by
    simp [pathConditions, paths]
  rw [verdict, boxConditions, everywhere, List.contains_iff_mem.2 typed, anyVerdict, anyVerdict,
    some, if_neg Bool.false_ne_true, reached]
  rfl

/-- Two conditions that are low enough can be joined. -/
theorem exists_joinedHeight?
    {left right bound : Nat}
    (lowLeft : left ≤ bound)
    (lowRight : right ≤ bound)
    (low : bound < greatestHeight)
    (zero : Bool) :
    ∃ height ≤ bound + 1, joinedHeight? zero (some left) (some right) = some height := by
  cases zero with
  | true => exact ⟨1, Nat.le_add_left _ _, rfl⟩
  | false =>
      have below : max left right < greatestHeight := by omega
      refine ⟨max left right + 1, by omega, ?_⟩
      rw [joinedHeight?, Option.bind_some, Option.bind_some, if_neg Bool.false_ne_true, above?,
        if_pos below]

/-- A few conditions can be written behind one that is low enough. -/
theorem exists_writtenHeight?
    {count height bound : Nat}
    (few : count < bound)
    (lowHeight : height ≤ bound)
    (low : bound < greatestHeight)
    (zero : Bool) :
    ∃ written ≤ bound + 1, writtenHeight? zero count (some height) = some written := by
  rw [writtenHeight?]
  split
  · exact ⟨height, by omega, rfl⟩
  · rw [Clause.anyHeight?, if_pos (by omega)]
    exact exists_joinedHeight? lowHeight few low zero

/-- Nothing can be written behind a condition that is too high. -/
theorem writtenHeight?_none (zero : Bool) (count : Nat) : writtenHeight? zero count none = none := by
  rw [writtenHeight?]
  split <;> rfl

/-- Too many conditions cannot be joined to another one. -/
theorem writtenHeight?_of_many
    {count : Nat}
    (many : 999 ≤ count)
    (height : Option Nat) :
    writtenHeight? false count height = none := by
  rw [writtenHeight?, if_neg (by omega), joinedHeight?, Clause.anyHeight?]
  cases height with
  | none => rfl
  | some height =>
      have high : ¬max height (count + 1) < greatestHeight := by
        rw [greatestHeight]
        omega
      split
      · exact if_neg high
      · rfl

/-- A filter that is narrow can be written behind a condition that is low enough. -/
theorem isSome_height?_of_isNarrow
    {filter : Filter}
    (narrow : filter.IsNarrow)
    (zero : Bool)
    {height : Nat}
    (low : height ≤ 997) :
    (filter.height? zero (some height)).isSome = true := by
  obtain ⟨boxes, paths⟩ := narrow
  have type : (if filter.types.isEmpty then 1 else 2) ≤ 997 := by
    split <;> decide
  obtain ⟨typed, lowTyped, joined⟩ := exists_joinedHeight? low type (by decide)
    (zero || filter.types.isEmpty)
  obtain ⟨boxed, lowBoxed, written⟩ := exists_writtenHeight? (Nat.lt_succ_of_le boxes) lowTyped
    (by decide) (zero || filter.types.isEmpty)
  obtain ⟨whole, -, behind⟩ := exists_writtenHeight? (Nat.lt_succ_of_le (Nat.le_succ_of_le paths))
    lowBoxed (by decide) (zero || filter.types.isEmpty)
  rw [height?, joined, written, behind]
  rfl

/-- A filter that is too wide can be written behind no condition. -/
theorem height?_of_isWide
    {filter : Filter}
    (wide : filter.IsWide)
    (height : Option Nat) :
    filter.height? false height = none := by
  obtain ⟨typed, many⟩ := wide
  rw [height?, Bool.false_or, List.isEmpty_eq_false_iff.2 typed]
  rcases many with boxes | paths
  · rw [writtenHeight?_of_many boxes, writtenHeight?_none]
  · exact writtenHeight?_of_many paths _

end Filter
end BlockSearch
