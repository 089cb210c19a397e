import BlockSearch.Proofs.Sql.Fuel
import BlockSearch.Sql.Query

/-!
# Names of results

A name in a condition or an order can stand for a result of the statement. So the same condition
may mean something else, or nothing, where the results have other names. It means the same as
long as no name that has no meaning of its own is among these: such a name is written in quotes
and stands for its own text. The results of a statement have no names in the statements inside of
it.
-/

namespace BlockSearch
namespace Sql

/-! ## Quoted names -/

variable (taken : String → Bool)

mutual

/-- Whether no quoted name in an expression is taken. -/
def Expr.avoids : Expr → Bool
  | .column _ name quoted => !(quoted && taken name)
  | .negate body => body.avoids
  | .plus body => body.avoids
  | .not body => body.avoids
  | .and left right => left.avoids && right.avoids
  | .or left right => left.avoids && right.avoids
  | .concat left right => left.avoids && right.avoids
  | .compare _ left right => left.avoids && right.avoids
  | .same left right => left.avoids && right.avoids
  | .between body low high => body.avoids && low.avoids && high.avoids
  | .among body items => body.avoids && allAvoid items
  | .within body select => body.avoids && select.avoids
  | .like text pattern => text.avoids && pattern.avoids
  | .likeEscaped text pattern escape => text.avoids && pattern.avoids && escape.avoids
  | .regexp text pattern => text.avoids && pattern.avoids
  | .choose condition first second => condition.avoids && first.avoids && second.avoids
  | .collate body _ => body.avoids
  | .count _ body => body.avoids
  | .extreme _ body => body.avoids
  | .value _ | .parameter _ | .matching _ _ | .excerpt _ _ _ _ _ | .countRows => true

/-- Whether no quoted name in some expressions is taken. -/
def allAvoid : List Expr → Bool
  | [] => true
  | body :: bodies => body.avoids && allAvoid bodies

/-- Whether no quoted name in an expression that may be missing is taken. -/
def optionAvoids : Option Expr → Bool
  | none => true
  | some body => body.avoids

/-- Whether no quoted name in an order is taken. -/
def orderAvoids : List (Expr × Bool) → Bool
  | [] => true
  | (body, _) :: terms => body.avoids && orderAvoids terms

/-- Whether no quoted name in an item is taken. -/
def Item.avoids : Item → Bool
  | .expression body _ => body.avoids
  | .all | .allOf _ => true

/-- Whether no quoted name in some items is taken. -/
def itemsAvoid : List Item → Bool
  | [] => true
  | item :: items => item.avoids && itemsAvoid items

/-- Whether no quoted name in a source is taken. -/
def Source.avoids : Source → Bool
  | .derived select _ => select.avoids
  | .unit | .table _ _ => true

/-- Whether no quoted name in a statement is taken. -/
def Select.avoids : Select → Bool
  | .mk _ items source condition order count skip =>
      itemsAvoid items && source.avoids && optionAvoids condition && orderAvoids order &&
        optionAvoids count && optionAvoids skip

end

/-! ## Environments -/

theorem findColumn?_succ
    {first second : List Scope}
    (same : second.map Scope.columns = first.map Scope.columns)
    (table : Option String)
    (name : String)
    (depth : Nat) :
    Environment.findColumn? table name (depth + 1) second =
      Environment.findColumn? table name (depth + 1) first := by
  induction first generalizing second depth with
  | nil =>
      obtain rfl := List.map_eq_nil_iff.1 same
      rfl
  | cons scope first inductionHypothesis =>
      cases second with
      | nil => cases same
      | cons other second =>
          rw [List.map_cons, List.map_cons, List.cons.injEq] at same
          obtain ⟨columns, outer⟩ := same
          have index : other.columnIndex? table name = scope.columnIndex? table name := by
            rw [Scope.columnIndex?, Scope.columnIndex?, columns]
          rw [Environment.findColumn?, Environment.findColumn?, index, columns,
            inductionHypothesis outer]
          rfl

/-- What a name stands for in one environment it stands for in another one, in which only the taken
names may stand for more. -/
structure Environment.Carries (first second : Environment) : Prop where
  /-- The values of the parameters are the same. -/
  parameters : second.parameters = first.parameters
  /-- Match expressions may stand in both or in none. -/
  matching : second.matching = first.matching
  /-- The same matches can be marked. -/
  matched : second.matched = first.matched
  /-- Rows may be counted if they could be. -/
  aggregates : first.aggregates = true → second.aggregates = true
  /-- The columns are the same. -/
  columns : second.scopes.map Scope.columns = first.scopes.map Scope.columns
  /-- What is found is found again. -/
  found : ∀ table name, Refines (findColumn? table name 0 first.scopes)
    (findColumn? table name 0 second.scopes)
  /-- What is not found is not found unless it is taken. -/
  missing : ∀ table name, findColumn? table name 0 first.scopes = none → taken name = false →
    findColumn? table name 0 second.scopes = none

namespace Environment.Carries

variable {taken} {first second : Environment}

theorem inner
    (carries : Carries taken first second) :
    Carries taken first.inner second.inner where
  parameters := carries.parameters
  matching := rfl
  matched := carries.matched
  aggregates := carries.aggregates
  columns := carries.columns
  found := carries.found
  missing := carries.missing

theorem counted
    (carries : Carries taken first second) :
    Carries taken first.counted second.counted where
  parameters := carries.parameters
  matching := rfl
  matched := rfl
  aggregates counts := absurd counts Bool.false_ne_true
  columns := carries.columns
  found := carries.found
  missing := carries.missing

/-- In a statement inside there is no difference. -/
theorem push
    (carries : Carries taken first second)
    (scope : Scope)
    (aggregates matching : Bool)
    (matched : Option Matched) :
    Carries taken
      { first with scopes := scope :: first.scopes, aggregates, matching, matched }
      { second with scopes := scope :: second.scopes, aggregates, matching, matched } := by
  have same (table : Option String) (name : String) :
      findColumn? table name 0 (scope :: second.scopes) =
        findColumn? table name 0 (scope :: first.scopes) := by
    rw [findColumn?, findColumn?, findColumn?_succ carries.columns]
  constructor
  · exact carries.parameters
  · rfl
  · rfl
  · exact id
  · rw [List.map_cons, List.map_cons, carries.columns]
  · intro table name
    rw [same]
    exact .refl _
  · intro table name absent _
    rw [same, absent]

theorem bind_column
    (carries : Carries taken first second)
    (depth index : Nat) :
    ((second.scopes[depth]?).bind fun scope => scope.columns[index]?) =
      (first.scopes[depth]?).bind fun scope => scope.columns[index]? := by
  have columns (scopes : List Scope) : ((scopes[depth]?).bind fun scope => scope.columns[index]?) =
      ((scopes.map Scope.columns)[depth]?).bind fun columns => columns[index]? := by
    rw [List.getElem?_map, Option.bind_map]
    rfl
  rw [columns, columns, carries.columns]

theorem closed
    (carries : Carries taken first second) :
    ({ second with scopes := [], aggregates := false, matching := false, matched := none } :
      Environment) =
    { first with scopes := [], aggregates := false, matching := false, matched := none } := by
  rw [carries.parameters]

theorem column?
    (carries : Carries taken first second)
    (table : Option String)
    (name : String)
    (quoted : Bool)
    (clear : (!(quoted && taken name)) = true) :
    Refines (first.column? table name quoted) (second.column? table name quoted) := by
  intro typed given
  rw [Environment.column?] at given ⊢
  cases found : findColumn? table name 0 first.scopes with
  | some typed =>
      rw [found] at given
      rw [carries.found _ _ _ found]
      simp only [Option.ite_none_left_eq_some, Bool.and_eq_true, Bool.not_eq_true', not_and,
        Bool.not_eq_false] at given ⊢
      exact ⟨fun aggregate => carries.aggregates (given.1 aggregate), given.2⟩
  | none =>
      rw [found] at given
      simp only [Option.ite_none_right_eq_some] at given
      obtain ⟨rfl, same⟩ := given
      rw [carries.missing _ _ found (by simpa using clear)]
      exact (if_pos rfl).trans same

end Environment.Carries

/-! ## Match expressions -/

section

variable {first second : Environment}

theorem matchTexts?_congr
    (parameters : second.parameters = first.parameters)
    (mode : CaseMode)
    (matchings : List (String × Expr)) :
    matchTexts? second mode matchings = matchTexts? first mode matchings := by
  have text (body : Expr) : matchText? second body = matchText? first body := by
    unfold matchText?
    rw [parameters]
  simp only [matchTexts?, text]

theorem rowsOf?_congr
    (parameters : second.parameters = first.parameters)
    (condition : Option Expr)
    (table : Table)
    (visit : Visit × Bool) :
    rowsOf? second condition table visit = rowsOf? first condition table visit := by
  unfold rowsOf?
  simp only [matchTexts?_congr parameters]

theorem matchedOf?_congr
    (parameters : second.parameters = first.parameters)
    (condition : Option Expr) :
    matchedOf? second condition = matchedOf? first condition := by
  funext table
  unfold matchedOf?
  simp only [matchTexts?_congr parameters]

theorem rowsFor?_congr
    (parameters : second.parameters = first.parameters)
    (source : ResolvedSource)
    (written : Option Expr)
    (condition : Term)
    (order : List (Term × Collation × Bool))
    (results : List Term) :
    source.rowsFor? second written condition order results =
      source.rowsFor? first written condition order results := by
  simp only [ResolvedSource.rowsFor?, rowsOf?_congr parameters]

end

/-! ## Resolution -/

/-- What a term of an order stands for: a result, or an expression. -/
def orderTerm?
    (environment : Environment)
    (aliases : List (String × Typed))
    (results : List Result)
    (body : Expr) : Option Typed :=
  match Target.of aliases results body with
  | .result typed => some typed
  | .outside => none
  | .expression => resolveExpr environment body

theorem resolveOrder_cons
    (environment : Environment)
    (aliases : List (String × Typed))
    (results : List Result)
    (body : Expr)
    (descending : Bool)
    (order : List (Expr × Bool)) :
    resolveOrder environment aliases results ((body, descending) :: order) =
      orderTerm? environment aliases results body >>= fun typed =>
        resolveOrder environment aliases results order >>= fun rest =>
          some ((typed.term, typed.collation.getD .binary, descending) :: rest) := by
  rw [resolveOrder, orderTerm?]
  cases Target.of aliases results body <;> rfl

variable {taken}

mutual

/-- An expression that avoids the taken names means the same. -/
theorem resolveExpr_refines : (expression : Expr) → {first second : Environment} →
    Environment.Carries taken first second → expression.avoids taken = true →
      Refines (resolveExpr first expression) (resolveExpr second expression)
  | .value value, _, _, _, _ => by
      rw [resolveExpr, resolveExpr]
      exact .refl _
  | .column table name quoted, _, _, carries, clear => by
      rw [resolveExpr, resolveExpr]
      exact carries.column? table name quoted clear
  | .parameter number, _, _, carries, _ => by
      rw [resolveExpr, resolveExpr, Environment.parameter?, Environment.parameter?,
        carries.parameters]
      exact .refl _
  | .negate body, _, _, carries, clear => by
      rw [resolveExpr, resolveExpr]
      exact (resolveExpr_refines body carries.inner clear).bind fun _ => .refl _
  | .plus body, _, _, carries, clear => by
      rw [resolveExpr, resolveExpr]
      exact (resolveExpr_refines body carries.inner clear).bind fun _ => .refl _
  | .not body, _, _, carries, clear => by
      rw [resolveExpr, resolveExpr]
      exact (resolveExpr_refines body carries.inner clear).bind fun _ => .refl _
  | .and left right, _, _, carries, clear => by
      rw [resolveExpr, resolveExpr]
      obtain ⟨one, other⟩ := Bool.and_eq_true_iff.1 clear
      exact (resolveExpr_refines left carries one).bind fun _ =>
        (resolveExpr_refines right carries other).bind fun _ => .refl _
  | .or left right, _, _, carries, clear => by
      rw [resolveExpr, resolveExpr]
      obtain ⟨one, other⟩ := Bool.and_eq_true_iff.1 clear
      exact (resolveExpr_refines left carries.inner one).bind fun _ =>
        (resolveExpr_refines right carries.inner other).bind fun _ => .refl _
  | .concat left right, _, _, carries, clear => by
      rw [resolveExpr, resolveExpr]
      obtain ⟨one, other⟩ := Bool.and_eq_true_iff.1 clear
      exact (resolveExpr_refines left carries.inner one).bind fun _ =>
        (resolveExpr_refines right carries.inner other).bind fun _ => .refl _
  | .compare comparison left right, _, _, carries, clear => by
      rw [resolveExpr, resolveExpr]
      obtain ⟨one, other⟩ := Bool.and_eq_true_iff.1 clear
      exact (resolveExpr_refines left carries.inner one).bind fun _ =>
        (resolveExpr_refines right carries.inner other).bind fun _ => .refl _
  | .same left right, _, _, carries, clear => by
      rw [resolveExpr, resolveExpr]
      obtain ⟨one, other⟩ := Bool.and_eq_true_iff.1 clear
      exact (resolveExpr_refines left carries.inner one).bind fun _ =>
        (resolveExpr_refines right carries.inner other).bind fun _ => .refl _
  | .between body low high, _, _, carries, clear => by
      rw [resolveExpr, resolveExpr]
      obtain ⟨front, last⟩ := Bool.and_eq_true_iff.1 clear
      obtain ⟨one, other⟩ := Bool.and_eq_true_iff.1 front
      exact (resolveExpr_refines body carries.inner one).bind fun _ =>
        (resolveExpr_refines low carries.inner other).bind fun _ =>
          (resolveExpr_refines high carries.inner last).bind fun _ => .refl _
  | .among body [], _, _, _, _ => by
      rw [resolveExpr, resolveExpr]
      exact .refl _
  | .among body (item :: items), _, _, carries, clear => by
      rw [resolveExpr, resolveExpr]
      · obtain ⟨one, others⟩ := Bool.and_eq_true_iff.1 clear
        exact (resolveExpr_refines body carries.inner one).bind fun _ =>
          (resolveExprs_refines (item :: items) carries.inner others).bind fun _ => .refl _
      all_goals exact List.cons_ne_nil item items
  | .within body select, _, _, carries, clear => by
      rw [resolveExpr, resolveExpr]
      obtain ⟨one, other⟩ := Bool.and_eq_true_iff.1 clear
      exact (resolveExpr_refines body carries.inner one).bind fun _ =>
        (resolveSelect_refines select carries.counted other true).bind fun _ => .refl _
  | .like text pattern, _, _, carries, clear => by
      rw [resolveExpr, resolveExpr]
      obtain ⟨one, other⟩ := Bool.and_eq_true_iff.1 clear
      exact (resolveExpr_refines text carries.inner one).bind fun _ =>
        (resolveExpr_refines pattern carries.inner other).bind fun _ => .refl _
  | .likeEscaped text pattern escape, _, _, carries, clear => by
      rw [resolveExpr, resolveExpr]
      obtain ⟨front, last⟩ := Bool.and_eq_true_iff.1 clear
      obtain ⟨one, other⟩ := Bool.and_eq_true_iff.1 front
      exact (resolveExpr_refines text carries.inner one).bind fun _ =>
        (resolveExpr_refines pattern carries.inner other).bind fun _ =>
          (resolveExpr_refines escape carries.inner last).bind fun _ => .refl _
  | .regexp text pattern, _, _, carries, clear => by
      rw [resolveExpr, resolveExpr]
      obtain ⟨one, other⟩ := Bool.and_eq_true_iff.1 clear
      exact (resolveExpr_refines text carries.inner one).bind fun _ =>
        (resolveExpr_refines pattern carries.inner other).bind fun _ => .refl _
  | .matching table body, _, _, carries, _ => by
      rw [resolveExpr, resolveExpr, carries.matching]
      exact .refl _
  | .excerpt shape table column left right, _, _, carries, _ => by
      rw [resolveExpr, resolveExpr, Environment.excerpt?, Environment.excerpt?, carries.matched]
      exact .refl _
  | .choose condition first second, _, _, carries, clear => by
      rw [resolveExpr, resolveExpr]
      obtain ⟨front, last⟩ := Bool.and_eq_true_iff.1 clear
      obtain ⟨one, other⟩ := Bool.and_eq_true_iff.1 front
      exact (resolveExpr_refines condition carries.inner one).bind fun _ =>
        (resolveExpr_refines first carries.inner other).bind fun _ =>
          (resolveExpr_refines second carries.inner last).bind fun _ => .refl _
  | .collate body collation, _, _, carries, clear => by
      rw [resolveExpr, resolveExpr]
      exact (resolveExpr_refines body carries.inner clear).bind fun _ => .refl _
  | .countRows, _, _, carries, _ => by
      rw [resolveExpr, resolveExpr]
      exact Refines.ite carries.aggregates
  | .count distinct body, _, _, carries, clear => by
      rw [resolveExpr, resolveExpr]
      exact (resolveExpr_refines body carries.counted clear).bind fun _ =>
        Refines.ite carries.aggregates
  | .extreme greatest body, _, _, carries, clear => by
      rw [resolveExpr, resolveExpr]
      exact (resolveExpr_refines body carries.counted clear).bind fun _ =>
        Refines.ite carries.aggregates

theorem resolveExprs_refines : (bodies : List Expr) → {first second : Environment} →
    Environment.Carries taken first second → allAvoid taken bodies = true →
      Refines (resolveExprs first bodies) (resolveExprs second bodies)
  | [], _, _, _, _ => by
      rw [resolveExprs, resolveExprs]
      exact .refl _
  | body :: bodies, _, _, carries, clear => by
      rw [resolveExprs, resolveExprs]
      obtain ⟨one, others⟩ := Bool.and_eq_true_iff.1 clear
      exact (resolveExpr_refines body carries one).bind fun _ =>
        (resolveExprs_refines bodies carries others).bind fun _ => .refl _

theorem resolveOption_refines : (body : Option Expr) → {first second : Environment} →
    Environment.Carries taken first second → optionAvoids taken body = true →
      Refines (resolveOption first body) (resolveOption second body)
  | none, _, _, _, _ => by
      rw [resolveOption, resolveOption]
      exact .refl _
  | some body, _, _, carries, clear => by
      rw [resolveOption, resolveOption]
      exact (resolveExpr_refines body carries clear).bind fun _ => .refl _

theorem resolveOrder_refines : (order : List (Expr × Bool)) → {first second : Environment} →
    Environment.Carries taken first second → orderAvoids taken order = true →
      ∀ aliases results, Refines (resolveOrder first aliases results order)
        (resolveOrder second aliases results order)
  | [], _, _, _, _, _, _ => by
      rw [resolveOrder, resolveOrder]
      exact .refl _
  | (body, descending) :: order, _, _, carries, clear, aliases, results => by
      rw [resolveOrder_cons, resolveOrder_cons]
      obtain ⟨one, others⟩ := Bool.and_eq_true_iff.1 clear
      refine Refines.bind ?_ fun _ =>
        (resolveOrder_refines order carries others aliases results).bind fun _ => .refl _
      unfold orderTerm?
      cases Target.of aliases results body with
      | result typed => exact .refl _
      | outside => exact .refl _
      | expression => exact resolveExpr_refines body carries one

theorem resolveItem_refines : (item : Item) → {first second : Environment} →
    Environment.Carries taken first second → item.avoids taken = true →
      ∀ columns, Refines (resolveItem first columns item) (resolveItem second columns item)
  | .all, _, _, _, _, _ => by
      rw [resolveItem, resolveItem]
      exact .refl _
  | .allOf table, _, _, _, _, _ => by
      rw [resolveItem, resolveItem]
      exact .refl _
  | .expression body label, first, second, carries, clear, columns => by
      rw [resolveItem, resolveItem]
      refine (resolveExpr_refines body carries clear).bind fun typed => ?_
      simp only [carries.bind_column]
      exact .refl _

theorem resolveItems_refines : (items : List Item) → {first second : Environment} →
    Environment.Carries taken first second → itemsAvoid taken items = true →
      ∀ columns, Refines (resolveItems first columns items) (resolveItems second columns items)
  | [], _, _, _, _, _ => by
      rw [resolveItems, resolveItems]
      exact .refl _
  | item :: items, _, _, carries, clear, columns => by
      rw [resolveItems, resolveItems]
      obtain ⟨one, others⟩ := Bool.and_eq_true_iff.1 clear
      exact (resolveItem_refines item carries one columns).bind fun _ =>
        (resolveItems_refines items carries others columns).bind fun _ => .refl _

theorem resolveSource_refines : (source : Source) → {first second : Environment} →
    Environment.Carries taken first second → source.avoids taken = true →
      ∀ ordered, Refines (resolveSource first ordered source) (resolveSource second ordered source)
  | .unit, _, _, _, _, _ => by
      rw [resolveSource, resolveSource]
      exact .refl _
  | .table name label, _, _, _, _, _ => by
      rw [resolveSource, resolveSource]
      exact .refl _
  | .derived select label, _, _, carries, clear, ordered => by
      rw [resolveSource, resolveSource]
      exact (resolveSelect_refines select carries clear ordered).bind fun _ => .refl _

theorem resolveSelect_refines : (select : Select) → {first second : Environment} →
    Environment.Carries taken first second → select.avoids taken = true →
      ∀ ordered, Refines (resolveSelect first ordered select) (resolveSelect second ordered select)
  | .mk distinct items source condition order count skip, first, second, carries, clear, ordered =>
    by
      simp only [Select.avoids, Bool.and_eq_true] at clear
      obtain ⟨⟨⟨⟨⟨clearItems, clearSource⟩, clearCondition⟩, clearOrder⟩, -⟩, -⟩ := clear
      rw [resolveSelect, resolveSelect]
      refine (resolveSource_refines source carries.counted clearSource _).bind fun source => ?_
      dsimp only
      rw [matchedOf?_congr carries.parameters]
      refine (resolveItems_refines items (carries.push _ _ _ _) clearItems _).bind fun results => ?_
      refine (resolveOption_refines condition (carries.push _ _ _ _) clearCondition).bind
        fun restriction => ?_
      refine (resolveOrder_refines order (carries.push _ _ _ _) clearOrder _ _).bind fun order => ?_
      rw [carries.closed]
      refine (Refines.refl _).bind fun count => (Refines.refl _).bind fun skip => ?_
      rw [rowsFor?_congr carries.parameters]
      exact .refl _

end

end Sql
end BlockSearch
