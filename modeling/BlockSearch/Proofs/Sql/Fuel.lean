import BlockSearch.Proofs.Sql.Grammar

/-!
# Fuel

What is found with some fuel is found with more. A token takes at least one character, so that a
text needs no more fuel to be cut into tokens than it has characters. A statement that is read is
read in the same way with more fuel, whatever its parts are.
-/

namespace BlockSearch

/-! ## Numbers -/

namespace NumberLiteral

theorem length_sign_le (text : List Char) : (sign text).2.length ≤ text.length := by
  fun_cases sign text <;> simp

theorem length_exponent?_le
    {text rest : List Char}
    {value : Int}
    (read : exponent? text = some (value, rest)) :
    rest.length ≤ text.length := by
  cases text with
  | nil => cases read
  | cons c text =>
      have signed := length_sign_le text
      have digits := List.length_dropWhile_le Char.isDigit (sign text).2
      rw [exponent?] at read
      split at read
      · simp only [Option.ite_none_left_eq_some, Option.some.injEq, Prod.mk.injEq] at read
        rw [← read.2.2, List.length_cons]
        omega
      · cases read

theorem length_dropWhile_isDigit_lt
    {text : List Char}
    (some : (text.takeWhile Char.isDigit).isEmpty = false) :
    (text.dropWhile Char.isDigit).length < text.length := by
  have split := congrArg List.length (List.takeWhile_append_dropWhile (p := Char.isDigit) (l := text))
  rw [List.length_append] at split
  have positive := List.length_pos_iff.2 (List.isEmpty_eq_false_iff.1 some)
  omega

/-- A number takes at least one character. -/
theorem length_of_read?
    {text rest : List Char}
    {literal : NumberLiteral}
    (read : read? text = some (literal, rest)) :
    rest.length < text.length := by
  have signed := length_sign_le text
  have digits := List.length_dropWhile_le Char.isDigit (sign text).2
  rw [read?] at read
  simp only at read
  split at read
  · rename_i after same
    have behind := List.length_dropWhile_le Char.isDigit after
    rw [same, List.length_cons] at digits
    have shorter : (after.dropWhile Char.isDigit).length < text.length := by omega
    dsimp only at read
    rw [Option.ite_none_left_eq_some] at read
    split at read
    · rename_i value last scaled
      cases read.2
      exact (length_exponent?_le scaled).trans_lt shorter
    · cases read.2
      exact shorter
  · dsimp only at read
    rw [List.isEmpty_nil, Bool.and_true, Option.ite_none_left_eq_some, Bool.not_eq_true] at read
    have shorter := (length_dropWhile_isDigit_lt read.1).trans_le signed
    split at read
    · rename_i value last scaled
      cases read.2
      exact (length_exponent?_le scaled).trans_lt shorter
    · cases read.2
      exact shorter

end NumberLiteral

namespace Sql

/-! ## Scanning -/

namespace Token

theorem length_of_quoted?
    {quote : Char}
    {text inside rest : List Char}
    (read : quoted? quote text = some (inside, rest)) :
    rest.length < text.length := by
  fun_induction quoted? quote text generalizing inside with
  | case1 => cases read
  | case2 =>
      cases read
      exact Nat.zero_lt_one
  | case3 c different => cases read
  | case4 text inductionHypothesis =>
      obtain ⟨part, found, made⟩ := Option.map_eq_some_iff.1 read
      cases made
      exact (inductionHypothesis found).trans ((Nat.lt_succ_self _).trans (Nat.lt_succ_self _))
  | case5 d text once =>
      cases read
      exact Nat.lt_succ_self _
  | case6 c d text different inductionHypothesis =>
      obtain ⟨part, found, made⟩ := Option.map_eq_some_iff.1 read
      cases made
      exact (inductionHypothesis found).trans (Nat.lt_succ_self _)

theorem length_of_dropWhile_eq_cons
    {wanted : Char → Bool}
    {text rest : List Char}
    {c : Char}
    (same : text.dropWhile wanted = c :: rest) :
    rest.length < text.length := by
  have shorter := List.length_dropWhile_le wanted text
  rw [same, List.length_cons] at shorter
  exact shorter

theorem length_of_bracketed?
    {text inside rest : List Char}
    (read : bracketed? text = some (inside, rest)) :
    rest.length < text.length := by
  rw [bracketed?] at read
  split at read
  · rename_i c behind same
    cases read
    exact length_of_dropWhile_eq_cons same
  · cases read

theorem length_of_number?
    {text rest : List Char}
    {token : Token}
    (read : number? text = some (token, rest)) :
    rest.length < text.length := by
  rw [number?] at read
  split at read
  · rename_i literal behind found
    rw [Option.ite_none_left_eq_some] at read
    cases read.2
    exact NumberLiteral.length_of_read? found
  · cases read

theorem length_of_sign?
    {text rest : List Char}
    {token : Token}
    (read : sign? text = some (token, rest)) :
    rest.length < text.length := by
  unfold sign? at read
  split at read
  case h_7 =>
    rw [Option.ite_none_right_eq_some] at read
    cases read.2
    exact Nat.lt_succ_self _
  case h_8 => cases read
  all_goals
    cases read
    simp only [List.length_cons]
    omega

theorem length_of_blob?
    {text rest : List Char}
    {token : Token}
    (read : blob? text = some (some (token, rest))) :
    rest.length < text.length := by
  unfold blob? at read
  split at read
  · split at read
    · simp only at read
      split at read
      · rename_i c behind bytes same spelled
        cases read
        have shorter := length_of_dropWhile_eq_cons same
        simp only [List.length_cons]
        omega
      · cases read
    · cases read
  · cases read

/-- A token takes at least one character. -/
theorem length_of_next?
    {text rest : List Char}
    {token : Token}
    (read : next? text = some (token, rest)) :
    rest.length < text.length := by
  unfold next? at read
  split at read
  · rename_i found spelled
    exact length_of_blob? (spelled.trans (congrArg some read))
  · split at read
    · cases read
    · obtain ⟨part, found, made⟩ := Option.map_eq_some_iff.1 read
      cases made
      exact (length_of_quoted? found).trans (Nat.lt_succ_self _)
    · obtain ⟨part, found, made⟩ := Option.map_eq_some_iff.1 read
      cases made
      exact (length_of_quoted? found).trans (Nat.lt_succ_self _)
    · obtain ⟨part, found, made⟩ := Option.map_eq_some_iff.1 read
      cases made
      exact (length_of_bracketed? found).trans (Nat.lt_succ_self _)
    · cases read
      exact Nat.lt_succ_of_le (List.length_dropWhile_le _ _)
    · split at read
      · exact length_of_number? read
      · cases read
        exact Nat.lt_succ_self _
    · rename_i c text _ _ _ _ _
      split_ifs at read
      · obtain ⟨part, found, made⟩ := Option.map_eq_some_iff.1 read
        cases made
        exact (length_of_quoted? found).trans (Nat.lt_succ_self _)
      · exact length_of_number? read
      · cases read
        exact Nat.lt_succ_of_le (List.length_dropWhile_le _ _)
      · exact length_of_sign? read

/-! ### Texts -/

theorem length_skipBlanks_le
    (fuel : Nat)
    (text : List Char) :
    (skipBlanks fuel text).length ≤ text.length := by
  induction fuel generalizing text with
  | zero => exact le_rfl
  | succ fuel inductionHypothesis =>
      have front := List.length_dropWhile_le isBlank text
      rw [skipBlanks]
      split
      · rename_i rest same
        have shorter : (behindLine rest).length ≤ rest.length := List.length_dropWhile_le _ rest
        have later := inductionHypothesis (behindLine rest)
        rw [same, List.length_cons, List.length_cons] at front
        omega
      · rename_i c rest same
        have shorter := length_behindBlock_le (c :: rest)
        have later := inductionHypothesis (behindBlock (c :: rest))
        rw [same, List.length_cons, List.length_cons] at front
        omega
      · exact front

/-- Fuel for every character is enough to find all tokens. -/
theorem scan?_of_length_le
    {fuel more : Nat}
    {text : List Char}
    (enough : text.length ≤ fuel)
    (plenty : text.length ≤ more)
    (started : Bool) :
    scan? fuel started text = scan? more started text := by
  induction fuel generalizing more text started with
  | zero =>
      obtain rfl := List.length_eq_zero_iff.1 (Nat.le_zero.1 enough)
      cases more <;> rfl
  | succ fuel inductionHypothesis =>
      cases more with
      | zero =>
          obtain rfl := List.length_eq_zero_iff.1 (Nat.le_zero.1 plenty)
          rfl
      | succ more =>
          have skipped := length_skipBlanks_le text.length text
          rw [scan?, scan?]
          split
          · rfl
          · rename_i rest same
            rw [same, List.length_cons] at skipped
            have later := @inductionHypothesis more rest (by omega) (by omega) false
            rw [later]
          · rename_i c rest _ same
            rw [same] at skipped
            split
            · rename_i token behind found
              have shorter := length_of_next? found
              have later := @inductionHypothesis more behind (by omega) (by omega) true
              rw [later]
            · rfl

/-- The tokens that are found in a text with enough fuel are those that the text has. -/
theorem scans_of_scan?
    {fuel : Nat}
    {text : List Char}
    {tokens : List Token}
    (found : scan? fuel true text = some tokens)
    (enough : text.length ≤ fuel)
    (noNull : '\x00' ∉ text) :
    Scans text tokens where
  scan more plenty := by rw [← found, scan?_of_length_le enough plenty]
  noNull := noNull

end Token

/-! ## Outcomes -/

/-- What the first outcome gives, the second one gives, too. -/
def Refines {α : Type} (first second : Option α) : Prop :=
  ∀ result, first = some result → second = some result

namespace Refines

variable {α β : Type} {first second : Option α}

theorem refl (outcome : Option α) : Refines outcome outcome := fun _ given => given

theorem none (outcome : Option α) : Refines .none outcome := fun _ given => nomatch given

/-- What is done next with what is given. -/
theorem bind
    {next later : α → Option β}
    (refines : Refines first second)
    (after : ∀ result, Refines (next result) (later result)) :
    Refines (first >>= next) (second >>= later) := by
  intro result given
  obtain ⟨between, found, rest⟩ := Option.bind_eq_some_iff.1 given
  exact Option.bind_eq_some_iff.2 ⟨between, refines between found, after between result rest⟩

theorem map
    (refines : Refines first second)
    (value : α → β) :
    Refines (first.map value) (second.map value) := by
  intro result given
  obtain ⟨between, found, rfl⟩ := Option.map_eq_some_iff.1 given
  exact Option.map_eq_some_iff.2 ⟨between, refines between found, rfl⟩

theorem ite
    {first second : Bool}
    {result : α}
    (implies : first = true → second = true) :
    Refines (if first then some result else .none) (if second then some result else .none) := by
  intro found given
  rw [Option.ite_none_right_eq_some] at given ⊢
  exact ⟨implies given.1, given.2⟩

end Refines

/-- What an outcome gives, if it gives anything, has a property. -/
def Yields {α : Type} (property : α → Prop) (outcome : Option α) : Prop :=
  ∀ result, outcome = some result → property result

namespace Yields

variable {α β : Type} {property : α → Prop} {other : β → Prop} {first : Option α}

theorem some
    {result : α}
    (holds : property result) :
    Yields property (some result) := by
  rintro _ ⟨⟩
  exact holds

theorem none : Yields property .none := fun _ given => nomatch given

/-- What is done next with what is given. -/
theorem bind
    {next : α → Option β}
    (yields : Yields property first)
    (after : ∀ result, property result → Yields other (next result)) :
    Yields other (first >>= next) := by
  intro result given
  obtain ⟨between, found, rest⟩ := Option.bind_eq_some_iff.1 given
  exact after between (yields between found) result rest

theorem map
    {value : α → β}
    (yields : Yields property first)
    (after : ∀ result, property result → other (value result)) :
    Yields other (first.map value) := by
  intro result given
  obtain ⟨between, found, rfl⟩ := Option.map_eq_some_iff.1 given
  exact after between (yields between found)

theorem ite
    {condition : Bool}
    {result : α}
    (holds : condition = true → property result) :
    Yields property (if condition then .some result else .none) := by
  intro found given
  rw [Option.ite_none_right_eq_some] at given
  obtain ⟨true, same⟩ := given
  cases same
  exact holds true

/-- Anything may be given. -/
theorem any : Yields (fun _ => True) first := fun _ _ => trivial

end Yields

/-! ## Clauses -/

/-- The clauses of a statement behind its results. -/
structure Tail where
  /-- Where rows come from. -/
  source : Source
  /-- The condition. -/
  condition : Option Expr
  /-- The order. -/
  order : List (Expr × Bool)
  /-- The number of rows to take. -/
  count : Option Expr
  /-- The number of rows to skip. -/
  skip : Option Expr

/-- The statement with some results in front. -/
def Tail.select (tail : Tail) (distinct : Bool) (results : List Item) : Select :=
  .mk distinct results tail.source tail.condition tail.order tail.count tail.skip

namespace Reader

/-- Whether the results are to be distinct. -/
def quantifier (tokens : List Token) : Bool × List Token :=
  match keyword? "distinct" tokens, keyword? "all" tokens with
  | some rest, _ => (true, rest)
  | none, some rest => (false, rest)
  | none, none => (false, tokens)

/-- The source behind `FROM`. -/
def origin (fuel : Nat) : Reader Source := fun tokens =>
  match keyword? "from" tokens with
  | some rest => source fuel rest
  | none => some (.unit, tokens)

/-- The condition behind `WHERE`. -/
def restriction (fuel : Nat) : Reader (Option Expr) := fun tokens =>
  match keyword? "where" tokens with
  | some rest => (disjunction fuel rest).map fun part => (some part.1, part.2)
  | none => some (none, tokens)

/-- The order behind `ORDER BY`. -/
def ordering (fuel : Nat) : Reader (List (Expr × Bool)) := fun tokens =>
  match (keyword? "order" tokens).bind (keyword? "by") with
  | some rest => orderTerms fuel rest
  | none => some ([], tokens)

/-- All clauses behind the results. -/
def tail (fuel : Nat) : Reader Tail := fun tokens => do
  let rows ← origin fuel tokens
  let condition ← restriction fuel rows.2
  let order ← ordering fuel condition.2
  let last ← limits fuel order.2
  some (⟨rows.1, condition.1, order.1, last.1.1, last.1.2⟩, last.2)

/-- A statement is read up to its results, and then its clauses are. -/
theorem selection_eq_tail
    (fuel : Nat)
    (tokens : List Token) :
    selection (fuel + 1) tokens =
      (keyword? "select" tokens).bind fun rest =>
        (items fuel (quantifier rest).2).bind fun results =>
          (tail fuel results.2).map fun part =>
            (part.1.select (quantifier rest).1 results.1, part.2) := by
  rw [selection]
  refine Option.bind_congr fun rest _ => Option.bind_congr fun results _ => ?_
  simp only [tail, Option.bind_eq_bind, Option.map_bind, Function.comp_def, Option.map_some]
  unfold origin
  cases keyword? "from" results.2
  all_goals
    refine Option.bind_congr fun rows _ => ?_
    unfold restriction
    cases keyword? "where" rows.2
    all_goals
      refine Option.bind_congr fun condition _ => ?_
      unfold ordering
      cases (keyword? "order" condition.2).bind (keyword? "by") <;> rfl

/-- Whatever is read with some fuel is read with one more. -/
structure Steady (fuel : Nat) : Prop where
  disjunction (tokens : List Token) :
    Refines (disjunction fuel tokens) (disjunction (fuel + 1) tokens)
  moreDisjuncts (left : Expr) (tokens : List Token) :
    Refines (moreDisjuncts fuel left tokens) (moreDisjuncts (fuel + 1) left tokens)
  conjunction (tokens : List Token) :
    Refines (conjunction fuel tokens) (conjunction (fuel + 1) tokens)
  moreConjuncts (left : Expr) (tokens : List Token) :
    Refines (moreConjuncts fuel left tokens) (moreConjuncts (fuel + 1) left tokens)
  inversion (tokens : List Token) :
    Refines (inversion fuel tokens) (inversion (fuel + 1) tokens)
  moreTests (left : Expr) (tokens : List Token) :
    Refines (moreTests fuel left tokens) (moreTests (fuel + 1) left tokens)
  negatedTest (left : Expr) (tokens : List Token) :
    Refines (negatedTest fuel left tokens) (negatedTest (fuel + 1) left tokens)
  test (left : Expr) (tokens : List Token) :
    Refines (test fuel left tokens) (test (fuel + 1) left tokens)
  relation (tokens : List Token) :
    Refines (relation fuel tokens) (relation (fuel + 1) tokens)
  moreRelations (left : Expr) (tokens : List Token) :
    Refines (moreRelations fuel left tokens) (moreRelations (fuel + 1) left tokens)
  joined (tokens : List Token) :
    Refines (joined fuel tokens) (joined (fuel + 1) tokens)
  moreJoined (left : Expr) (tokens : List Token) :
    Refines (moreJoined fuel left tokens) (moreJoined (fuel + 1) left tokens)
  collated (tokens : List Token) :
    Refines (collated fuel tokens) (collated (fuel + 1) tokens)
  moreCollations (body : Expr) (tokens : List Token) :
    Refines (moreCollations fuel body tokens) (moreCollations (fuel + 1) body tokens)
  signed (tokens : List Token) :
    Refines (signed fuel tokens) (signed (fuel + 1) tokens)
  operand (tokens : List Token) :
    Refines (operand fuel tokens) (operand (fuel + 1) tokens)
  choices (tokens : List Token) :
    Refines (choices fuel tokens) (choices (fuel + 1) tokens)
  otherChoices (tokens : List Token) :
    Refines (otherChoices fuel tokens) (otherChoices (fuel + 1) tokens)
  aggregate (function : String) (tokens : List Token) :
    Refines (aggregate fuel function tokens) (aggregate (fuel + 1) function tokens)
  expressions (tokens : List Token) :
    Refines (expressions fuel tokens) (expressions (fuel + 1) tokens)
  item (tokens : List Token) :
    Refines (item fuel tokens) (item (fuel + 1) tokens)
  items (tokens : List Token) :
    Refines (items fuel tokens) (items (fuel + 1) tokens)
  source (tokens : List Token) :
    Refines (source fuel tokens) (source (fuel + 1) tokens)
  orderTerms (tokens : List Token) :
    Refines (orderTerms fuel tokens) (orderTerms (fuel + 1) tokens)
  limits (tokens : List Token) :
    Refines (limits fuel tokens) (limits (fuel + 1) tokens)
  selection (tokens : List Token) :
    Refines (selection fuel tokens) (selection (fuel + 1) tokens)

variable {fuel : Nat}

namespace Steady

theorem moreTests_succ
    (steady : Steady fuel)
    (left : Expr)
    (tokens : List Token) :
    Refines (Reader.moreTests (fuel + 1) left tokens)
      (Reader.moreTests (fuel + 2) left tokens) := by
  rw [Reader.moreTests, Reader.moreTests]
  cases equality? tokens with
  | some found => exact (steady.relation found.2).bind fun part => steady.moreTests _ part.2
  | none =>
      cases keyword? "is" tokens with
      | some rest =>
          dsimp only
          exact (steady.relation _).bind fun part => steady.moreTests _ part.2
      | none =>
          cases keyword? "isnull" tokens with
          | some rest => exact steady.moreTests _ rest
          | none =>
              cases keyword? "notnull" tokens with
              | some rest => exact steady.moreTests _ rest
              | none =>
                  cases keyword? "not" tokens with
                  | some rest =>
                      exact (steady.negatedTest left rest).bind fun part => steady.moreTests _ part.2
                  | none =>
                      intro result given
                      cases found : Reader.test fuel left tokens with
                      | none =>
                          rw [found] at given
                          cases given
                      | some part =>
                          rw [found] at given
                          rw [steady.test _ _ _ found]
                          rcases part with ⟨_ | body, rest⟩
                          · exact given
                          · exact steady.moreTests body rest result given

theorem negatedTest_succ
    (steady : Steady fuel)
    (left : Expr)
    (tokens : List Token) :
    Refines (Reader.negatedTest (fuel + 1) left tokens)
      (Reader.negatedTest (fuel + 2) left tokens) := by
  rw [Reader.negatedTest, Reader.negatedTest]
  cases keyword? "null" tokens with
  | some rest => exact .refl _
  | none =>
      intro result given
      cases found : Reader.test fuel left tokens with
      | none =>
          rw [found] at given
          cases given
      | some part =>
          rw [found] at given
          rw [steady.test _ _ _ found]
          exact given

theorem test_succ
    (steady : Steady fuel)
    (left : Expr)
    (tokens : List Token) :
    Refines (Reader.test (fuel + 1) left tokens) (Reader.test (fuel + 2) left tokens) := by
  rw [Reader.test, Reader.test]
  cases keyword? "like" tokens with
  | some rest =>
      refine (steady.relation rest).bind fun part => ?_
      dsimp only
      cases keyword? "escape" part.2 with
      | some rest => exact (steady.joined rest).bind fun _ => .refl _
      | none => exact .refl _
  | none =>
  cases keyword? "regexp" tokens with
  | some rest => exact (steady.relation rest).bind fun _ => .refl _
  | none =>
  cases keyword? "match" tokens with
  | some rest => exact (steady.relation rest).bind fun _ => .refl _
  | none =>
  cases keyword? "between" tokens with
  | some rest =>
      exact (steady.relation rest).bind fun part => (Refines.refl _).bind fun rest =>
        (steady.relation rest).bind fun _ => .refl _
  | none =>
  cases keyword? "in" tokens with
  | none => exact .refl _
  | some rest =>
      refine (Refines.refl _).bind fun rest => ?_
      cases keyword? "select" rest with
      | some _ => exact (steady.selection rest).bind fun _ => .refl _
      | none =>
          cases sign? ")" rest with
          | some rest => exact .refl _
          | none => exact (steady.expressions rest).bind fun _ => .refl _

theorem signed_succ
    (steady : Steady fuel)
    (tokens : List Token) :
    Refines (Reader.signed (fuel + 1) tokens) (Reader.signed (fuel + 2) tokens) := by
  unfold Reader.signed
  split
  · exact .refl _
  · exact (steady.signed _).map _
  · exact (steady.signed _).map _
  · cases keyword? "not" tokens with
    | some rest => exact (steady.inversion rest).map _
    | none => exact steady.operand tokens

theorem operand_succ
    (steady : Steady fuel)
    (tokens : List Token) :
    Refines (Reader.operand (fuel + 1) tokens) (Reader.operand (fuel + 2) tokens) := by
  unfold Reader.operand
  split
  · exact .refl _
  · exact .refl _
  · exact .refl _
  · exact (steady.disjunction _).bind fun _ => .refl _
  · exact steady.aggregate _ _
  · rename_i text rest _
    cases isKeyword text "null" with
    | true => exact .refl _
    | false =>
        cases isKeyword text "case" with
        | true => exact steady.choices rest
        | false => exact .refl _
  · exact .refl _

theorem otherChoices_succ
    (steady : Steady fuel)
    (tokens : List Token) :
    Refines (Reader.otherChoices (fuel + 1) tokens) (Reader.otherChoices (fuel + 2) tokens) := by
  rw [Reader.otherChoices, Reader.otherChoices]
  cases keyword? "end" tokens with
  | some rest => exact .refl _
  | none =>
      cases keyword? "else" tokens with
      | some rest => exact (steady.disjunction rest).bind fun _ => .refl _
      | none => exact steady.choices tokens

theorem aggregate_succ
    (steady : Steady fuel)
    (function : String)
    (tokens : List Token) :
    Refines (Reader.aggregate (fuel + 1) function tokens)
      (Reader.aggregate (fuel + 2) function tokens) := by
  unfold Reader.aggregate
  split
  · cases sign? "*" tokens with
    | some rest => exact .refl _
    | none =>
        cases sign? ")" tokens with
        | some rest => exact .refl _
        | none => exact (steady.disjunction _).bind fun _ => .refl _
  · exact (steady.disjunction tokens).bind fun _ => .refl _
  · exact (steady.disjunction tokens).bind fun _ => .refl _
  · exact .refl _
  · exact .refl _
  · exact .refl _

theorem limits_succ
    (steady : Steady fuel)
    (tokens : List Token) :
    Refines (Reader.limits (fuel + 1) tokens) (Reader.limits (fuel + 2) tokens) := by
  rw [Reader.limits, Reader.limits]
  cases keyword? "limit" tokens with
  | none => exact .refl _
  | some rest =>
      refine (steady.disjunction rest).bind fun part => ?_
      dsimp only
      cases sign? "," part.2 with
      | some rest => exact (steady.disjunction rest).bind fun _ => .refl _
      | none =>
          cases keyword? "offset" part.2 with
          | some rest => exact (steady.disjunction rest).bind fun _ => .refl _
          | none => exact .refl _

theorem tail
    (steady : Steady fuel)
    (tokens : List Token) :
    Refines (Reader.tail fuel tokens) (Reader.tail (fuel + 1) tokens) := by
  rw [Reader.tail, Reader.tail]
  refine Refines.bind ?_ fun rows => Refines.bind ?_ fun condition => Refines.bind ?_ fun order =>
    (steady.limits order.2).bind fun _ => .refl _
  · unfold origin
    cases keyword? "from" tokens with
    | some rest => exact steady.source rest
    | none => exact .refl _
  · unfold restriction
    cases keyword? "where" rows.2 with
    | some rest => exact (steady.disjunction rest).map _
    | none => exact .refl _
  · unfold ordering
    cases (keyword? "order" condition.2).bind (keyword? "by") with
    | some rest => exact steady.orderTerms rest
    | none => exact .refl _

/-- One more unit of fuel, for every reader. -/
theorem succ
    (steady : Steady fuel) :
    Steady (fuel + 1) where
  disjunction tokens := by
    rw [Reader.disjunction, Reader.disjunction]
    exact (steady.conjunction tokens).bind fun part => steady.moreDisjuncts part.1 part.2
  moreDisjuncts left tokens := by
    rw [Reader.moreDisjuncts, Reader.moreDisjuncts]
    cases keyword? "or" tokens with
    | none => exact .refl _
    | some rest => exact (steady.conjunction rest).bind fun part => steady.moreDisjuncts _ part.2
  conjunction tokens := by
    rw [Reader.conjunction, Reader.conjunction]
    exact (steady.inversion tokens).bind fun part => steady.moreConjuncts part.1 part.2
  moreConjuncts left tokens := by
    rw [Reader.moreConjuncts, Reader.moreConjuncts]
    cases keyword? "and" tokens with
    | none => exact .refl _
    | some rest => exact (steady.inversion rest).bind fun part => steady.moreConjuncts _ part.2
  inversion tokens := by
    rw [Reader.inversion, Reader.inversion]
    cases keyword? "not" tokens with
    | none => exact (steady.relation tokens).bind fun part => steady.moreTests part.1 part.2
    | some rest => exact (steady.inversion rest).map _
  moreTests := steady.moreTests_succ
  negatedTest := steady.negatedTest_succ
  test := steady.test_succ
  relation tokens := by
    rw [Reader.relation, Reader.relation]
    exact (steady.joined tokens).bind fun part => steady.moreRelations part.1 part.2
  moreRelations left tokens := by
    rw [Reader.moreRelations, Reader.moreRelations]
    cases inequality? tokens with
    | none => exact .refl _
    | some found => exact (steady.joined found.2).bind fun part => steady.moreRelations _ part.2
  joined tokens := by
    rw [Reader.joined, Reader.joined]
    exact (steady.collated tokens).bind fun part => steady.moreJoined part.1 part.2
  moreJoined left tokens := by
    rw [Reader.moreJoined, Reader.moreJoined]
    cases sign? "||" tokens with
    | none => exact .refl _
    | some rest => exact (steady.collated rest).bind fun part => steady.moreJoined _ part.2
  collated tokens := by
    rw [Reader.collated, Reader.collated]
    exact (steady.signed tokens).bind fun part => steady.moreCollations part.1 part.2
  moreCollations body tokens := by
    rw [Reader.moreCollations, Reader.moreCollations]
    cases keyword? "collate" tokens with
    | none => exact .refl _
    | some rest => exact (Refines.refl _).bind fun part => steady.moreCollations _ part.2
  signed := steady.signed_succ
  operand := steady.operand_succ
  choices tokens := by
    rw [Reader.choices, Reader.choices]
    exact (Refines.refl _).bind fun rest => (steady.disjunction rest).bind fun _ =>
      (Refines.refl _).bind fun rest => (steady.disjunction rest).bind fun part =>
        (steady.otherChoices part.2).bind fun _ => .refl _
  otherChoices := steady.otherChoices_succ
  aggregate := steady.aggregate_succ
  expressions tokens := by
    rw [Reader.expressions, Reader.expressions]
    refine (steady.disjunction tokens).bind fun part => ?_
    dsimp only
    cases sign? "," part.2 with
    | none => exact .refl _
    | some rest => exact (steady.expressions rest).map _
  item tokens := by
    unfold Reader.item
    split
    · exact .refl _
    · exact .refl _
    · exact (steady.disjunction tokens).bind fun _ => .refl _
  items tokens := by
    rw [Reader.items, Reader.items]
    refine (steady.item tokens).bind fun part => ?_
    dsimp only
    cases sign? "," part.2 with
    | none => exact .refl _
    | some rest => exact (steady.items rest).map _
  source tokens := by
    rw [Reader.source, Reader.source]
    cases sign? "(" tokens with
    | none => exact .refl _
    | some rest => exact (steady.selection rest).bind fun _ => .refl _
  orderTerms tokens := by
    rw [Reader.orderTerms, Reader.orderTerms]
    refine (steady.disjunction tokens).bind fun part => ?_
    dsimp only
    split
    · exact (steady.orderTerms _).map _
    · exact .refl _
  limits := steady.limits_succ
  selection tokens := by
    rw [selection_eq_tail, selection_eq_tail]
    exact (Refines.refl _).bind fun _ => (steady.items _).bind fun part =>
      (steady.tail part.2).map _

end Steady

theorem steady (fuel : Nat) : Steady fuel := by
  induction fuel with
  | zero => constructor <;> intros <;> exact .none _
  | succ fuel inductionHypothesis => exact inductionHypothesis.succ

/-- More fuel changes nothing that has been read. -/
theorem tail_refines
    {fuel more : Nat}
    (enough : fuel ≤ more)
    (tokens : List Token) :
    Refines (tail fuel tokens) (tail more tokens) := by
  induction more, enough using Nat.le_induction with
  | base => exact .refl _
  | succ more _ inductionHypothesis =>
      exact fun result given => (steady more).tail tokens result (inductionHypothesis result given)

end Reader
end Sql
end BlockSearch
