import BlockSearch.Proofs.Sql.Naming

/-!
# Orders

A term of an order names a result by its name or its number, or it is an expression. Where the
results are others, it still means something unless it is the number of a result that is missing.
Where rows may not be counted, neither a condition nor an order counts them.
-/

namespace BlockSearch
namespace Sql

/-! ## Names and numbers of results -/

/-- The number that a term of an order is, with any collations behind it. -/
def Expr.place? : Expr → Option Int
  | .collate body _ => body.place?
  | body => body.orderNumber?

section

variable
  {taken : String → Bool}
  {first second environment : Environment}
  {own aliases : List (String × Typed)}
  {results : List Result}
  {body : Expr}

theorem orderTerm?_collate
    (collation : Collation) :
    orderTerm? environment aliases results (.collate body collation) =
      (orderTerm? environment.inner aliases results body).map fun typed =>
        { typed with collation := some collation } := by
  rw [orderTerm?, orderTerm?, Target.of]
  cases Target.of aliases results body with
  | result typed => rfl
  | outside => rfl
  | expression =>
      dsimp only
      rw [resolveExpr]
      cases resolveExpr environment.inner body <;> rfl

theorem orderTerm?_column
    (name : String)
    (quoted : Bool) :
    orderTerm? environment aliases results (.column none name quoted) =
      ((aliases.find? fun entry => sameName entry.1 name).map (·.2)).or
        (environment.column? none name quoted) := by
  rw [orderTerm?, Target.of]
  cases aliases.find? fun entry => sameName entry.1 name with
  | some entry => rfl
  | none =>
      dsimp only
      rw [resolveExpr]
      rfl

/-- A term of an order that is neither collated nor a name. -/
structure Expr.IsPlain (body : Expr) : Prop where
  /-- It is not collated. -/
  uncollated : ∀ inner collation, body ≠ .collate inner collation
  /-- It is not a name. -/
  unnamed : ∀ name quoted, body ≠ .column none name quoted

theorem Expr.IsPlain.place?_eq
    (plain : body.IsPlain) :
    body.place? = body.orderNumber? := by
  rw [Expr.place?]
  exact plain.uncollated

theorem Expr.IsPlain.orderTerm?_eq
    (plain : body.IsPlain) :
    orderTerm? environment aliases results body =
      match body.orderNumber? with
      | none => resolveExpr environment body
      | some n => if n ≤ 0 then none else (results[n.toNat - 1]?).map Result.typed := by
  rw [orderTerm?, Target.of]
  · cases body.orderNumber? with
    | none => rfl
    | some n =>
        dsimp only
        split_ifs with negative
        · rfl
        · cases results[n.toNat - 1]? <;> rfl
  · exact plain.uncollated
  · exact plain.unnamed

theorem Expr.isPlain_or_named
    (uncollated : ∀ inner collation, body ≠ .collate inner collation) :
    (∃ name quoted, body = .column none name quoted) ∨ body.IsPlain := by
  by_cases named : ∃ name quoted, body = .column none name quoted
  · exact .inl named
  · exact .inr ⟨uncollated, fun name quoted same => named ⟨name, quoted, same⟩⟩

/-- A term of an order means something where the results have other names, unless it is the number
of a result that is missing. -/
theorem exists_orderTerm?
    (carries : Environment.Carries taken first second)
    (clear : body.avoids taken = true)
    (known : ∀ entry ∈ own, ∀ name, sameName entry.1 name = true →
      ∀ quoted, ∃ typed, second.column? none name quoted = some typed)
    {typed : Typed}
    (answered : orderTerm? first own results body = some typed)
    (other : List (String × Typed))
    {few : List Result}
    (inside : ∀ n, body.place? = some n → n ≤ few.length) :
    ∃ again, orderTerm? second other few body = some again := by
  induction body using Expr.place?.induct generalizing first second typed with
  | case1 body collation inductionHypothesis =>
      rw [orderTerm?_collate, Option.map_eq_some_iff] at answered
      obtain ⟨bare, found, -⟩ := answered
      obtain ⟨again, answer⟩ := inductionHypothesis carries.inner clear known found inside
      exact ⟨_, by rw [orderTerm?_collate, answer, Option.map_some]⟩
  | case2 body uncollated =>
      rcases Expr.isPlain_or_named uncollated with ⟨name, quoted, rfl⟩ | plain
      · rw [orderTerm?_column] at answered ⊢
        cases result : other.find? fun entry => sameName entry.1 name with
        | some entry => exact ⟨_, rfl⟩
        | none =>
            rw [Option.map_none, Option.none_or]
            cases alike : own.find? fun entry => sameName entry.1 name with
            | some entry =>
                have same : sameName entry.1 name = true := by simpa using List.find?_some alike
                exact known entry (List.mem_of_find?_eq_some alike) name same quoted
            | none =>
                rw [alike, Option.map_none, Option.none_or] at answered
                exact ⟨typed, carries.column? none name quoted clear typed answered⟩
      · rw [plain.orderTerm?_eq] at answered ⊢
        rw [plain.place?_eq] at inside
        cases number : body.orderNumber? with
        | none =>
            rw [number] at answered
            exact ⟨typed, resolveExpr_refines body carries clear typed answered⟩
        | some n =>
            rw [number] at answered
            dsimp only at answered ⊢
            rw [Option.ite_none_left_eq_some] at answered
            rw [if_neg answered.1]
            have small := inside n number
            have within : n.toNat - 1 < few.length := by omega
            exact ⟨_, by rw [List.getElem?_eq_getElem within, Option.map_some]⟩

/-- A term of an order that is the number of a result that is missing means nothing. -/
theorem orderTerm?_eq_none
    {few : List Result}
    {n : Int}
    (place : body.place? = some n)
    (beyond : few.length < n) :
    orderTerm? environment aliases few body = none := by
  induction body using Expr.place?.induct generalizing environment with
  | case1 body collation inductionHypothesis =>
      rw [orderTerm?_collate, inductionHypothesis place, Option.map_none]
  | case2 body uncollated =>
      rcases Expr.isPlain_or_named uncollated with ⟨name, quoted, rfl⟩ | plain
      · cases place
      · rw [plain.place?_eq] at place
        rw [plain.orderTerm?_eq, place]
        dsimp only
        rw [if_neg (by omega), List.getElem?_eq_none (by omega), Option.map_none]

theorem exists_resolveOrder
    (carries : Environment.Carries taken first second)
    {order : List (Expr × Bool)}
    (clear : orderAvoids taken order = true)
    (known : ∀ entry ∈ own, ∀ name, sameName entry.1 name = true →
      ∀ quoted, ∃ typed, second.column? none name quoted = some typed)
    {terms : List (Term × Collation × Bool)}
    (answered : resolveOrder first own results order = some terms)
    (other : List (String × Typed))
    {few : List Result}
    (inside : ∀ term ∈ order, ∀ n, term.1.place? = some n → n ≤ few.length) :
    ∃ again, resolveOrder second other few order = some again := by
  induction order generalizing terms with
  | nil => exact ⟨[], by rw [resolveOrder]⟩
  | cons term order inductionHypothesis =>
      obtain ⟨body, descending⟩ := term
      obtain ⟨one, others⟩ := Bool.and_eq_true_iff.1 clear
      simp only [resolveOrder_cons, Option.bind_eq_bind, Option.bind_eq_some_iff] at answered
      obtain ⟨typed, found, rest, later, -⟩ := answered
      obtain ⟨term, answer⟩ := exists_orderTerm? carries one known found other
        (inside _ List.mem_cons_self)
      obtain ⟨again, behind⟩ := inductionHypothesis others later
        fun term member => inside term (List.mem_cons_of_mem _ member)
      exact ⟨_, by rw [resolveOrder_cons, answer, behind]; rfl⟩

theorem resolveOrder_eq_none
    {order : List (Expr × Bool)}
    {term : Expr × Bool}
    (member : term ∈ order)
    {few : List Result}
    {n : Int}
    (place : term.1.place? = some n)
    (beyond : few.length < n) :
    resolveOrder environment aliases few order = none := by
  induction order with
  | nil => cases member
  | cons head order inductionHypothesis =>
      obtain ⟨body, descending⟩ := head
      rw [resolveOrder_cons]
      rcases List.mem_cons.1 member with rfl | later
      · rw [orderTerm?_eq_none place beyond]
        rfl
      · rw [inductionHypothesis later]
        cases orderTerm? environment aliases few body <;> rfl

end

/-- Whether all numbers of results in an order are among the first ones. -/
def orderFits (few : Nat) (order : List (Expr × Bool)) : Bool :=
  order.all fun term => (term.1.place?.map fun n : Int => decide (n ≤ few)).getD true

theorem orderFits_iff
    {few : Nat}
    {order : List (Expr × Bool)} :
    orderFits few order = true ↔
      ∀ term ∈ order, ∀ n, term.1.place? = some n → n ≤ few := by
  rw [orderFits, List.all_eq_true]
  refine forall₂_congr fun term _ => ?_
  cases term.1.place? <;> simp

theorem exists_of_not_orderFits
    {few : Nat}
    {order : List (Expr × Bool)}
    (unfit : ¬orderFits few order = true) :
    ∃ term ∈ order, ∃ n, term.1.place? = some n ∧ (few : Int) < n := by
  simpa only [orderFits_iff, not_forall, Int.not_le, exists_prop] using unfit

/-! ## Counting rows -/

/-- What a term is resolved to counts no rows. -/
def Typed.CountsNothing (typed : Typed) : Prop := typed.term.hasAggregate = false

theorem yields_column?
    {environment : Environment}
    (plain : environment.aggregates = false)
    (table : Option String)
    (name : String)
    (quoted : Bool) :
    Yields Typed.CountsNothing (environment.column? table name quoted) := by
  intro typed resolved
  unfold Environment.column? at resolved
  split at resolved
  · rw [plain, Bool.not_false, Bool.and_true, Option.ite_none_left_eq_some] at resolved
    obtain ⟨none, same⟩ := resolved
    cases same
    exact Bool.eq_false_iff.2 none
  · rw [Option.ite_none_right_eq_some] at resolved
    cases resolved.2
    rfl

theorem plain_inner
    {environment : Environment}
    (plain : environment.aggregates = false) :
    environment.inner.aggregates = false := plain

mutual

/-- Where rows may not be counted, no expression counts them. -/
theorem yields_resolveExpr : (expression : Expr) → {environment : Environment} →
    environment.aggregates = false →
      Yields Typed.CountsNothing (resolveExpr environment expression)
  | .value value, _, _ => by
      rw [resolveExpr]
      exact .some rfl
  | .column table name quoted, _, plain => by
      rw [resolveExpr]
      exact yields_column? plain table name quoted
  | .parameter number, _, _ => by
      rw [resolveExpr, Environment.parameter?]
      exact Yields.any.map fun _ _ => rfl
  | .negate body, _, plain => by
      rw [resolveExpr]
      exact (yields_resolveExpr body (plain_inner plain)).bind fun _ inside => .some inside
  | .plus body, _, plain => by
      rw [resolveExpr]
      exact (yields_resolveExpr body (plain_inner plain)).bind fun _ inside => .some inside
  | .not body, _, plain => by
      rw [resolveExpr]
      exact (yields_resolveExpr body (plain_inner plain)).bind fun _ inside => .some inside
  | .and left right, _, plain => by
      rw [resolveExpr]
      exact (yields_resolveExpr left plain).bind fun _ one =>
        (yields_resolveExpr right plain).bind fun _ other =>
          .some (Bool.or_eq_false_iff.2 ⟨one, other⟩)
  | .or left right, _, plain => by
      rw [resolveExpr]
      exact (yields_resolveExpr left (plain_inner plain)).bind fun _ one =>
        (yields_resolveExpr right (plain_inner plain)).bind fun _ other =>
          .some (Bool.or_eq_false_iff.2 ⟨one, other⟩)
  | .concat left right, _, plain => by
      rw [resolveExpr]
      exact (yields_resolveExpr left (plain_inner plain)).bind fun _ one =>
        (yields_resolveExpr right (plain_inner plain)).bind fun _ other =>
          .some (Bool.or_eq_false_iff.2 ⟨one, other⟩)
  | .compare comparison left right, _, plain => by
      rw [resolveExpr]
      exact (yields_resolveExpr left (plain_inner plain)).bind fun _ one =>
        (yields_resolveExpr right (plain_inner plain)).bind fun _ other =>
          .some (Bool.or_eq_false_iff.2 ⟨one, other⟩)
  | .same left right, _, plain => by
      rw [resolveExpr]
      exact (yields_resolveExpr left (plain_inner plain)).bind fun _ one =>
        (yields_resolveExpr right (plain_inner plain)).bind fun _ other =>
          .some (Bool.or_eq_false_iff.2 ⟨one, other⟩)
  | .between body low high, _, plain => by
      rw [resolveExpr]
      exact (yields_resolveExpr body (plain_inner plain)).bind fun _ inside =>
        (yields_resolveExpr low (plain_inner plain)).bind fun _ least =>
          (yields_resolveExpr high (plain_inner plain)).bind fun _ most =>
            .some (Bool.or_eq_false_iff.2
              ⟨Bool.or_eq_false_iff.2 ⟨inside, least⟩, Bool.or_eq_false_iff.2 ⟨inside, most⟩⟩)
  | .among body [], _, _ => by
      rw [resolveExpr]
      exact .some rfl
  | .among body (item :: items), _, plain => by
      rw [resolveExpr]
      · exact (yields_resolveExpr body (plain_inner plain)).bind fun _ inside =>
          (yields_resolveExprs (item :: items) (plain_inner plain)).bind fun _ among =>
            .some (Bool.or_eq_false_iff.2 ⟨inside, among⟩)
      · exact List.cons_ne_nil item items
  | .within body select, _, plain => by
      rw [resolveExpr]
      refine (yields_resolveExpr body (plain_inner plain)).bind fun _ inside => ?_
      refine Yields.any.bind fun selected _ => ?_
      split
      · exact .some inside
      · exact .none
  | .like text pattern, _, plain => by
      rw [resolveExpr]
      exact (yields_resolveExpr text (plain_inner plain)).bind fun _ one =>
        (yields_resolveExpr pattern (plain_inner plain)).bind fun _ other =>
          .some (Bool.or_eq_false_iff.2 ⟨one, other⟩)
  | .likeEscaped text pattern escape, _, plain => by
      rw [resolveExpr]
      exact (yields_resolveExpr text (plain_inner plain)).bind fun _ one =>
        (yields_resolveExpr pattern (plain_inner plain)).bind fun _ other =>
          (yields_resolveExpr escape (plain_inner plain)).bind fun _ last =>
            .some (Bool.or_eq_false_iff.2 ⟨Bool.or_eq_false_iff.2 ⟨one, other⟩, last⟩)
  | .regexp text pattern, _, plain => by
      rw [resolveExpr]
      exact (yields_resolveExpr text (plain_inner plain)).bind fun _ one =>
        (yields_resolveExpr pattern (plain_inner plain)).bind fun _ other =>
          .some (Bool.or_eq_false_iff.2 ⟨one, other⟩)
  | .matching table body, _, _ => by
      rw [resolveExpr]
      exact .ite fun _ => rfl
  | .excerpt shape table column left right, _, _ => by
      rw [resolveExpr, Environment.excerpt?]
      exact Yields.any.bind fun _ _ => .ite fun _ => rfl
  | .choose condition first second, _, plain => by
      rw [resolveExpr]
      exact (yields_resolveExpr condition (plain_inner plain)).bind fun _ one =>
        (yields_resolveExpr first (plain_inner plain)).bind fun _ other =>
          (yields_resolveExpr second (plain_inner plain)).bind fun _ last =>
            .some (Bool.or_eq_false_iff.2 ⟨Bool.or_eq_false_iff.2 ⟨one, other⟩, last⟩)
  | .collate body collation, _, plain => by
      rw [resolveExpr]
      exact (yields_resolveExpr body (plain_inner plain)).bind fun _ inside => .some inside
  | .countRows, _, plain => by
      rw [resolveExpr, plain]
      exact .none
  | .count distinct body, _, plain => by
      rw [resolveExpr, plain]
      exact Yields.any.bind fun _ _ => .none
  | .extreme greatest body, _, plain => by
      rw [resolveExpr, plain]
      exact Yields.any.bind fun _ _ => .none

theorem yields_resolveExprs : (bodies : List Expr) → {environment : Environment} →
    environment.aggregates = false →
      Yields (fun found => Term.anyAggregate (found.map Typed.term) = false)
        (resolveExprs environment bodies)
  | [], _, _ => by
      rw [resolveExprs]
      exact .some rfl
  | body :: bodies, _, plain => by
      rw [resolveExprs]
      exact (yields_resolveExpr body plain).bind fun _ one =>
        (yields_resolveExprs bodies plain).bind fun _ others =>
          .some (Bool.or_eq_false_iff.2 ⟨one, others⟩)

end

/-! ## Orders that count nothing -/

section

variable
  {environment : Environment}
  {aliases : List (String × Typed)}
  {results : List Result}

theorem yields_orderTerm?
    (plain : environment.aggregates = false)
    (named : ∀ entry ∈ aliases, entry.2.CountsNothing)
    (listed : ∀ result ∈ results, result.typed.CountsNothing)
    (body : Expr) :
    Yields Typed.CountsNothing (orderTerm? environment aliases results body) := by
  induction body using Expr.place?.induct generalizing environment with
  | case1 body collation inductionHypothesis =>
      rw [orderTerm?_collate]
      exact (inductionHypothesis (plain_inner plain)).map fun _ inside => inside
  | case2 body uncollated =>
      intro typed answered
      rcases Expr.isPlain_or_named uncollated with ⟨name, quoted, rfl⟩ | apart
      · rw [orderTerm?_column, Option.or_eq_some_iff] at answered
        rcases answered with found | ⟨-, found⟩
        · obtain ⟨entry, same, rfl⟩ := Option.map_eq_some_iff.1 found
          exact named entry (List.mem_of_find?_eq_some same)
        · exact yields_column? plain none name quoted typed found
      · rw [apart.orderTerm?_eq] at answered
        split at answered
        · exact yields_resolveExpr body plain typed answered
        · obtain ⟨-, found⟩ := Option.ite_none_left_eq_some.1 answered
          obtain ⟨result, same, rfl⟩ := Option.map_eq_some_iff.1 found
          exact listed result (List.mem_of_getElem? same)

theorem yields_resolveOrder
    (plain : environment.aggregates = false)
    (named : ∀ entry ∈ aliases, entry.2.CountsNothing)
    (listed : ∀ result ∈ results, result.typed.CountsNothing)
    (order : List (Expr × Bool)) :
    Yields (fun terms => Term.anyAggregate (terms.map (·.1)) = false)
      (resolveOrder environment aliases results order) := by
  induction order with
  | nil =>
      rw [resolveOrder]
      exact .some rfl
  | cons term order inductionHypothesis =>
      obtain ⟨body, descending⟩ := term
      rw [resolveOrder_cons]
      exact (yields_orderTerm? plain named listed body).bind fun _ one =>
        inductionHypothesis.bind fun _ others => .some (Bool.or_eq_false_iff.2 ⟨one, others⟩)

end

end Sql
end BlockSearch
