import BlockSearch.Proofs.Forest.Descent
import BlockSearch.Proofs.Forest.History
import Mathlib.Data.List.Flatten

/-!
# Walks of a forest

A walk keeps the nodes that are still to be visited on a stack. In a forest it makes the visits
of the recursion over the links: a node, then each of its children with all below it, until a
visitor ends the walk. The nodes that wait on the stack are what is left of the lists of
children on the way down. The descendants of a node are such a walk written as a list, in which
a node comes before all below it and the subtree of a child before those of the later children.
-/

namespace BlockSearch
namespace Tree

variable {σ : Type} {tree : Tree}

/-! ## The recursion -/

/-- Visit items in order until a visit ends the walk; with whether the walk goes on. -/
def visitEach (visit : σ → NodeId → σ × Bool) : σ → List NodeId → σ × Bool
  | state, [] => (state, true)
  | state, i :: rest =>
      match visit state i with
      | (state, true) => visitEach visit state rest
      | (state, false) => (state, false)

/-- Visit a node and those below it, at most `depth` levels; with whether the walk goes on. -/
def visitWithin
    (tree : Tree)
    (visit : σ → NodeId → σ × Verdict) : (depth : Nat) → σ → NodeId → σ × Bool
  | 0, state, _ => (state, true)
  | depth + 1, state, i =>
      match visit state i with
      | (state, .stop) => (state, false)
      | (state, .skip) => (state, true)
      | (state, .descend) => visitEach (tree.visitWithin visit depth) state (tree.children i)

/-- Visit a node and those below it; with whether the walk goes on behind them. -/
def visitBelow
    (tree : Tree)
    (visit : σ → NodeId → σ × Verdict) : σ → NodeId → σ × Bool :=
  tree.visitWithin visit tree.size

theorem visitEach_append
    (visit : σ → NodeId → σ × Bool)
    (state : σ)
    (front back : List NodeId) :
    visitEach visit state (front ++ back) =
      match visitEach visit state front with
      | (state, true) => visitEach visit state back
      | (state, false) => (state, false) := by
  induction front generalizing state with
  | nil => rfl
  | cons i front inductionHypothesis =>
      rw [List.cons_append, visitEach, visitEach]
      obtain ⟨state, goesOn⟩ := visit state i
      cases goesOn with
      | true => exact inductionHypothesis state
      | false => rfl

theorem visitEach_congr
    {visit other : σ → NodeId → σ × Bool}
    {list : List NodeId}
    (same : ∀ i ∈ list, ∀ state, visit state i = other state i)
    (state : σ) :
    visitEach visit state list = visitEach other state list := by
  induction list generalizing state with
  | nil => rfl
  | cons i list inductionHypothesis =>
      rw [List.forall_mem_cons] at same
      rw [visitEach, visitEach, same.1]
      obtain ⟨state, goesOn⟩ := other state i
      cases goesOn with
      | true => exact inductionHypothesis same.2 state
      | false => rfl

/-! ## The loop and its rules -/

/-- The nodes that the links to the next node lead over, from a first one to the last. -/
inductive Chain (tree : Tree) : Option NodeId → List NodeId → Prop
  /-- There is no node. -/
  | done : Chain tree none []
  /-- A node, and what its link leads over. -/
  | next
      {i : NodeId}
      {rest : List NodeId}
      (behind : Chain tree (tree.node i).next rest) :
      Chain tree (some i) (i :: rest)

/--
A run of the loop of a walk to its end: from a state and a stack over the nodes that it visits to
the state that it leaves. Every round takes one node off the stack, and no fuel ends a run.
-/
inductive StackRuns (tree : Tree) (visit : σ → NodeId → σ × Verdict) :
    σ → List NodeId → List NodeId → σ → Prop
  /-- The stack is empty. -/
  | done {state : σ} : StackRuns tree visit state [] [] state
  /-- The visitor ends the walk, and the nodes that wait are not visited. -/
  | stop
      {state after : σ}
      {i : NodeId}
      {stack : List NodeId}
      (visited : visit state i = (after, .stop)) :
      StackRuns tree visit state (i :: stack) [i] after
  /-- The visitor leaves out the children of the node. -/
  | skip
      {state next after : σ}
      {i : NodeId}
      {stack visits : List NodeId}
      (visited : visit state i = (next, .skip))
      (rest : StackRuns tree visit next stack visits after) :
      StackRuns tree visit state (i :: stack) (i :: visits) after
  /-- The children of the node are put on the stack, the first on top. -/
  | descend
      {state next after : σ}
      {i : NodeId}
      {children stack visits : List NodeId}
      (visited : visit state i = (next, .descend))
      (linked : tree.Chain (tree.node i).firstChild children)
      (rest : StackRuns tree visit next (children ++ stack) visits after) :
      StackRuns tree visit state (i :: stack) (i :: visits) after

/--
The recursion over a list of siblings: each is visited before those below it, and these before
the siblings behind it. It goes from a state over the nodes that are visited to a state, with
whether the walk goes on behind the siblings.
-/
inductive Traverses (tree : Tree) (visit : σ → NodeId → σ × Verdict) :
    σ → List NodeId → List NodeId → σ → Bool → Prop
  /-- There is no sibling. -/
  | done {state : σ} : Traverses tree visit state [] [] state true
  /-- The visitor ends the walk at the first sibling. -/
  | stop
      {state after : σ}
      {i : NodeId}
      {siblings : List NodeId}
      (visited : visit state i = (after, .stop)) :
      Traverses tree visit state (i :: siblings) [i] after false
  /-- The visitor leaves out the children of the first sibling. -/
  | skip
      {state next after : σ}
      {i : NodeId}
      {siblings visits : List NodeId}
      {goesOn : Bool}
      (visited : visit state i = (next, .skip))
      (behind : Traverses tree visit next siblings visits after goesOn) :
      Traverses tree visit state (i :: siblings) (i :: visits) after goesOn
  /-- The visitor ends the walk below the first sibling. -/
  | stopBelow
      {state next after : σ}
      {i : NodeId}
      {siblings visits : List NodeId}
      (visited : visit state i = (next, .descend))
      (below : Traverses tree visit next (tree.children i) visits after false) :
      Traverses tree visit state (i :: siblings) (i :: visits) after false
  /-- All below the first sibling is traversed, and the siblings behind it follow. -/
  | descend
      {state next middle after : σ}
      {i : NodeId}
      {siblings visits others : List NodeId}
      {goesOn : Bool}
      (visited : visit state i = (next, .descend))
      (below : Traverses tree visit next (tree.children i) visits middle true)
      (behind : Traverses tree visit middle siblings others after goesOn) :
      Traverses tree visit state (i :: siblings) (i :: (visits ++ others)) after goesOn

/--
How a run of the loop continues behind a traversal: with the nodes that wait on the stack, or not
at all when the traversal has ended the walk.
-/
def Resumes
    (tree : Tree)
    (visit : σ → NodeId → σ × Verdict)
    (stack visits : List NodeId)
    (after : σ) : σ → Bool → Prop
  | state, true => tree.StackRuns visit state stack visits after
  | state, false => visits = [] ∧ after = state

/-- The visitor that lists all it sees. -/
def listing (found : List NodeId) (i : NodeId) : List NodeId × Verdict :=
  (found ++ [i], .descend)

/-- A linked list is what its links lead over. -/
theorem Linked.chain
    {before : Option NodeId}
    {list : List NodeId}
    (linked : tree.Linked before list none) :
    tree.Chain list.head? list := by
  induction list generalizing before with
  | nil => exact .done
  | cons i rest inductionHypothesis =>
      obtain ⟨_, next, restLinked⟩ := linked
      rw [Option.or_none] at next
      apply Chain.next
      rw [next]
      exact inductionHypothesis restLinked

/-- The links lead over one list of nodes. -/
theorem Chain.unique
    {first : Option NodeId}
    {list other : List NodeId}
    (chain : tree.Chain first list)
    (otherChain : tree.Chain first other) :
    list = other := by
  induction chain generalizing other with
  | done =>
      cases otherChain
      rfl
  | next _ inductionHypothesis =>
      cases otherChain with
      | next behind => rw [inductionHypothesis behind]

/-- The loop has one run from a state and a stack. -/
theorem StackRuns.unique
    {visit : σ → NodeId → σ × Verdict}
    {state after otherAfter : σ}
    {stack visits otherVisits : List NodeId}
    (runs : tree.StackRuns visit state stack visits after)
    (otherRuns : tree.StackRuns visit state stack otherVisits otherAfter) :
    visits = otherVisits ∧ after = otherAfter := by
  induction runs generalizing otherVisits otherAfter with
  | done =>
      cases otherRuns
      exact ⟨rfl, rfl⟩
  | stop visited =>
      cases otherRuns with
      | stop again =>
          cases visited.symm.trans again
          exact ⟨rfl, rfl⟩
      | skip again | descend again => cases visited.symm.trans again
  | skip visited _ inductionHypothesis =>
      cases otherRuns with
      | skip again rest =>
          cases visited.symm.trans again
          obtain ⟨rfl, rfl⟩ := inductionHypothesis rest
          exact ⟨rfl, rfl⟩
      | stop again | descend again => cases visited.symm.trans again
  | descend visited linked _ inductionHypothesis =>
      cases otherRuns with
      | descend again otherLinked rest =>
          cases visited.symm.trans again
          rw [← linked.unique otherLinked] at rest
          obtain ⟨rfl, rfl⟩ := inductionHypothesis rest
          exact ⟨rfl, rfl⟩
      | stop again | skip again => cases visited.symm.trans again

/-- A run that lists all it sees leaves the list of its visits. -/
theorem StackRuns.listed
    {found after : List NodeId}
    {stack visits : List NodeId}
    (runs : tree.StackRuns listing found stack visits after) :
    after = found ++ visits := by
  induction runs with
  | done => rw [List.append_nil]
  | stop visited => cases visited
  | skip visited => cases visited
  | descend visited _ _ inductionHypothesis =>
      cases visited
      rw [inductionHypothesis, List.append_assoc, List.singleton_append]

/-! ## The order of a document -/

/--
Document order: a node comes before all below it, and the subtree of a child before the subtrees
of the later children.
-/
inductive ComesBefore (tree : Tree) : NodeId → NodeId → Prop
  /-- The first node lies above the second. -/
  | above
      {i j : NodeId}
      (path : Relation.TransGen tree.IsParent i j) :
      ComesBefore tree i j
  /-- The nodes lie in the subtrees of two children of a node, in the order of these children. -/
  | beside
      {parent earlier later i j : NodeId}
      (ordered : [earlier, later].Sublist (tree.children parent))
      (earlierHolds : tree.Holds earlier i)
      (laterHolds : tree.Holds later j) :
      ComesBefore tree i j

namespace IsForest

/-! ## Depth -/

/-- Every depth beyond the height of a node makes the same visits. -/
theorem visitWithin_eq
    (forest : tree.IsForest)
    (visit : σ → NodeId → σ × Verdict)
    {i : NodeId}
    {depth other : Nat}
    (deep : tree.height i < depth)
    (otherDeep : tree.height i < other)
    (state : σ) :
    tree.visitWithin visit depth state i = tree.visitWithin visit other state i := by
  revert depth other state
  induction i using forest.induction with
  | step i inductionHypothesis =>
      intro depth other deep otherDeep state
      obtain ⟨depth, rfl⟩ := Nat.exists_eq_add_one_of_ne_zero (Nat.ne_zero_of_lt deep)
      obtain ⟨other, rfl⟩ := Nat.exists_eq_add_one_of_ne_zero (Nat.ne_zero_of_lt otherDeep)
      have below : ∀ state,
          visitEach (tree.visitWithin visit depth) state (tree.children i) =
            visitEach (tree.visitWithin visit other) state (tree.children i) := by
        refine visitEach_congr fun j member state => ?_
        have lower := forest.height_lt member
        exact inductionHypothesis j member (by omega) (by omega) state
      simp only [visitWithin, below]

/-- The visits of a subtree: its top, and those of the subtrees of its children in order. -/
theorem visitBelow_eq
    (forest : tree.IsForest)
    (visit : σ → NodeId → σ × Verdict)
    {i : NodeId}
    (inside : i < tree.size)
    (state : σ) :
    tree.visitBelow visit state i =
      match visit state i with
      | (state, .stop) => (state, false)
      | (state, .skip) => (state, true)
      | (state, .descend) => visitEach (tree.visitBelow visit) state (tree.children i) := by
  have deep := forest.height_lt_size inside
  obtain ⟨depth, size⟩ := Nat.exists_eq_add_one_of_ne_zero (Nat.ne_zero_of_lt deep)
  have below : ∀ state,
      visitEach (tree.visitWithin visit depth) state (tree.children i) =
        visitEach (tree.visitWithin visit (depth + 1)) state (tree.children i) := by
    refine visitEach_congr fun j member state => ?_
    have lower := forest.height_lt member
    exact forest.visitWithin_eq visit (by omega) (by omega) state
  simp only [visitBelow, size, visitWithin, below]

/-! ## The stack -/

/-- With fuel for all nodes below those of its stack, a walk visits each of them in order. -/
theorem walkStack_eq
    (forest : tree.IsForest)
    (visit : σ → NodeId → σ × Verdict)
    {fuel : Nat}
    {stack : List NodeId}
    (inside : ∀ i ∈ stack, i < tree.size)
    (enough : (stack.flatMap tree.descendants).length ≤ fuel)
    (state : σ) :
    tree.walkStack visit fuel state stack = (visitEach (tree.visitBelow visit) state stack).1 := by
  induction fuel generalizing state stack with
  | zero =>
      cases stack with
      | nil => rfl
      | cons i stack =>
          rw [List.flatMap_cons, forest.descendants_eq (inside i List.mem_cons_self)] at enough
          simp at enough
  | succ fuel inductionHypothesis =>
      cases stack with
      | nil => rfl
      | cons i stack =>
          rw [List.forall_mem_cons] at inside
          rw [List.flatMap_cons, forest.descendants_eq inside.1, List.cons_append,
            List.length_cons, Nat.add_le_add_iff_right] at enough
          rw [walkStack, visitEach, forest.visitBelow_eq visit inside.1]
          obtain ⟨state, verdict⟩ := visit state i
          cases verdict with
          | stop => rfl
          | skip =>
              refine inductionHypothesis inside.2 ?_ state
              rw [List.length_append] at enough
              omega
          | descend =>
              have entered : ∀ j ∈ tree.children i ++ stack, j < tree.size := by
                intro j member
                rcases List.mem_append.1 member with child | later
                · exact forest.lt_of_mem_children child
                · exact inside.2 j later
              rw [← List.flatMap_append] at enough
              have rest := inductionHypothesis entered enough state
              rw [visitEach_append] at rest
              exact rest

/-- A walk from a node makes the visits of the recursion over the links. -/
theorem walk_eq
    (forest : tree.IsForest)
    (visit : σ → NodeId → σ × Verdict)
    {start : NodeId}
    (inside : start < tree.size)
    (state : σ) :
    tree.walk visit state start = (tree.visitBelow visit state start).1 := by
  rw [walk, forest.walkStack_eq visit (by simpa using inside) (by simp), visitEach]
  obtain ⟨state, goesOn⟩ := tree.visitBelow visit state start
  cases goesOn <;> rfl

/-! ## Runs of the loop -/

/-- The children of a node are what the links from its first child lead over. -/
theorem chain_children
    (forest : tree.IsForest)
    (i : NodeId) :
    tree.Chain (tree.node i).firstChild (tree.children i) := by
  rw [forest.first]
  exact (forest.linked i).chain

/-- The recursion over nodes of a forest comes to an end. -/
theorem exists_traverses
    (forest : tree.IsForest)
    (visit : σ → NodeId → σ × Verdict)
    {siblings : List NodeId}
    (inside : ∀ i ∈ siblings, i < tree.size)
    (state : σ) :
    ∃ visits, tree.Traverses visit state siblings visits
      (visitEach (tree.visitBelow visit) state siblings).1
      (visitEach (tree.visitBelow visit) state siblings).2 := by
  -- The induction is on the number of nodes that a traversal can still reach.
  induction bound : (siblings.flatMap tree.descendants).length using Nat.strong_induction_on
    generalizing siblings state with
  | _ bound inductionHypothesis =>
      cases siblings with
      | nil => exact ⟨[], .done⟩
      | cons i siblings =>
          rw [List.forall_mem_cons] at inside
          rw [List.flatMap_cons, forest.descendants_eq inside.1, List.cons_append,
            List.length_cons, List.length_append] at bound
          have behind := fun state => inductionHypothesis _ (by omega) inside.2 state rfl
          have below := fun state => inductionHypothesis _ (by omega)
            (fun j member => forest.lt_of_mem_children (i := i) member) state rfl
          rw [visitEach, forest.visitBelow_eq visit inside.1]
          cases visited : visit state i with
          | mk next verdict =>
              cases verdict with
              | stop => exact ⟨[i], .stop visited⟩
              | skip =>
                  obtain ⟨visits, behind⟩ := behind next
                  exact ⟨i :: visits, .skip visited behind⟩
              | descend =>
                  obtain ⟨visits, below⟩ := below next
                  dsimp only
                  cases result : visitEach (tree.visitBelow visit) next (tree.children i) with
                  | mk middle goesOn =>
                      rw [result] at below
                      cases goesOn with
                      | false => exact ⟨i :: visits, .stopBelow visited below⟩
                      | true =>
                          obtain ⟨others, behind⟩ := behind middle
                          exact ⟨i :: (visits ++ others), .descend visited below behind⟩

/-- The loop makes the visits of a traversal of the nodes on top of its stack. -/
theorem stackRuns_append
    (forest : tree.IsForest)
    {visit : σ → NodeId → σ × Verdict}
    {state middle after : σ}
    {siblings stack visits others : List NodeId}
    {goesOn : Bool}
    (traverses : tree.Traverses visit state siblings visits middle goesOn)
    (resumes : tree.Resumes visit stack others after middle goesOn) :
    tree.StackRuns visit state (siblings ++ stack) (visits ++ others) after := by
  induction traverses generalizing stack others after with
  | done => exact resumes
  | stop visited =>
      obtain ⟨rfl, rfl⟩ := resumes
      exact .stop visited
  | skip visited _ behind => exact .skip visited (behind resumes)
  | stopBelow visited _ below =>
      exact .descend visited (forest.chain_children _) (below resumes)
  | descend visited _ _ below behind =>
      rw [List.cons_append, List.cons_append, List.append_assoc]
      exact .descend visited (forest.chain_children _) (below (behind resumes))

/-- The loop makes exactly the visits of the recursion. -/
theorem stackRuns_iff
    (forest : tree.IsForest)
    (visit : σ → NodeId → σ × Verdict)
    {stack : List NodeId}
    (inside : ∀ i ∈ stack, i < tree.size)
    (state : σ)
    (visits : List NodeId)
    (after : σ) :
    tree.StackRuns visit state stack visits after ↔
      ∃ goesOn, tree.Traverses visit state stack visits after goesOn := by
  have runs : ∀ {visits after goesOn}, tree.Traverses visit state stack visits after goesOn →
      tree.StackRuns visit state stack visits after := by
    intro visits after goesOn traverses
    have resumes : tree.Resumes visit [] [] after after goesOn := by
      cases goesOn with
      | false => exact ⟨rfl, rfl⟩
      | true => exact .done
    simpa using forest.stackRuns_append traverses resumes
  constructor
  · intro otherRuns
    obtain ⟨found, traverses⟩ := forest.exists_traverses visit inside state
    obtain ⟨rfl, rfl⟩ := otherRuns.unique (runs traverses)
    exact ⟨_, traverses⟩
  · rintro ⟨goesOn, traverses⟩
    exact runs traverses

/-- The loop of a walk comes to an end, and leaves the state that the walk gives. -/
theorem exists_stackRuns
    (forest : tree.IsForest)
    (visit : σ → NodeId → σ × Verdict)
    {start : NodeId}
    (inside : start < tree.size)
    (state : σ) :
    ∃ visits, tree.StackRuns visit state [start] visits (tree.walk visit state start) := by
  have single : ∀ i ∈ [start], i < tree.size := by simpa using inside
  obtain ⟨visits, traverses⟩ := forest.exists_traverses visit single state
  refine ⟨visits, ?_⟩
  rw [walk, forest.walkStack_eq visit single (by simp), forest.stackRuns_iff visit single]
  exact ⟨_, traverses⟩

/-- A visitor that leaves nothing out and never ends the walk sees all nodes of the subtrees. -/
theorem visits_of_descend
    (forest : tree.IsForest)
    {visit : σ → NodeId → σ × Verdict}
    (descends : ∀ state i, (visit state i).2 = .descend)
    {state after : σ}
    {siblings visits : List NodeId}
    {goesOn : Bool}
    (inside : ∀ i ∈ siblings, i < tree.size)
    (traverses : tree.Traverses visit state siblings visits after goesOn) :
    visits = siblings.flatMap tree.descendants ∧ goesOn = true := by
  have refused : ∀ {state next i verdict}, visit state i = (next, verdict) →
      verdict = .descend := by
    intro state next i verdict visited
    rw [← descends state i, visited]
  induction traverses with
  | done => exact ⟨rfl, rfl⟩
  | stop visited => cases refused visited
  | skip visited => cases refused visited
  | stopBelow _ _ below =>
      have goesOn := (below fun j member => forest.lt_of_mem_children member).2
      cases goesOn
  | descend _ _ _ below behind =>
      rw [List.forall_mem_cons] at inside
      obtain ⟨rfl, _⟩ := below fun j member => forest.lt_of_mem_children member
      obtain ⟨rfl, goesOn⟩ := behind inside.2
      rw [List.flatMap_cons, forest.descendants_eq inside.1, List.cons_append]
      exact ⟨rfl, goesOn⟩

/-- The loop runs over all nodes of a subtree when its visitor leaves nothing out. -/
theorem stackRuns_descendants
    (forest : tree.IsForest)
    {visit : σ → NodeId → σ × Verdict}
    (descends : ∀ state i, (visit state i).2 = .descend)
    {start : NodeId}
    (inside : start < tree.size)
    (state : σ) :
    tree.StackRuns visit state [start] (tree.descendants start)
      (tree.walk visit state start) := by
  have single : ∀ i ∈ [start], i < tree.size := by simpa using inside
  obtain ⟨visits, runs⟩ := forest.exists_stackRuns visit inside state
  obtain ⟨_, traverses⟩ := (forest.stackRuns_iff visit single state _ _).1 runs
  have all := (forest.visits_of_descend descends single traverses).1
  rw [List.flatMap_singleton] at all
  rw [← all]
  exact runs

/-- The walk that lists all it sees lists the descendants of a node. -/
theorem walk_listing
    (forest : tree.IsForest)
    {start : NodeId}
    (inside : start < tree.size) :
    tree.walk listing [] start = tree.descendants start :=
  (forest.stackRuns_descendants (fun _ _ => rfl) inside []).listed

/-! ## Document order -/

/-- A subtree is listed as one stretch of every subtree that holds its top. -/
theorem descendants_infix
    (forest : tree.IsForest)
    {top i : NodeId}
    (inside : top < tree.size)
    (holds : tree.Holds top i) :
    tree.descendants i <:+: tree.descendants top := by
  revert inside
  induction holds using Relation.ReflTransGen.head_induction_on with
  | refl => exact fun _ => List.infix_rfl
  | head edge _ inductionHypothesis =>
      intro inside
      have member := forest.mem_children_of_parent edge
      have below := inductionHypothesis (forest.lt_of_mem_children member)
      rw [forest.descendants_eq inside]
      exact List.infix_cons (below.trans (List.infix_flatMap_of_mem member _))

/-- Children of a node in their order are two different children. -/
theorem mem_and_ne_of_ordered
    (forest : tree.IsForest)
    {parent earlier later : NodeId}
    (ordered : [earlier, later].Sublist (tree.children parent)) :
    earlier ∈ tree.children parent ∧ later ∈ tree.children parent ∧ earlier ≠ later := by
  have different := (forest.nodup_children parent).sublist ordered
  exact ⟨ordered.subset (by simp), ordered.subset (by simp), by simpa using different⟩

/-- The descendants of a node are listed in document order. -/
theorem pairwise_comesBefore
    (forest : tree.IsForest)
    {i : NodeId}
    (inside : i < tree.size) :
    (tree.descendants i).Pairwise tree.ComesBefore := by
  revert inside
  induction i using forest.induction with
  | step i inductionHypothesis =>
      intro inside
      rw [forest.descendants_eq inside, List.pairwise_cons, List.pairwise_flatMap]
      refine ⟨?_, ?_, ?_⟩
      · intro j member
        obtain ⟨child, childOf, below⟩ := List.mem_flatMap.1 member
        rw [forest.mem_descendants (forest.lt_of_mem_children childOf)] at below
        exact .above (.head' (forest.isParent_of_mem_children childOf) below)
      · intro child childOf
        exact inductionHypothesis child childOf (forest.lt_of_mem_children childOf)
      · rw [List.pairwise_iff_forall_sublist]
        intro earlier later ordered first firstBelow second secondBelow
        obtain ⟨earlierChild, laterChild, _⟩ := forest.mem_and_ne_of_ordered ordered
        rw [forest.mem_descendants (forest.lt_of_mem_children earlierChild)] at firstBelow
        rw [forest.mem_descendants (forest.lt_of_mem_children laterChild)] at secondBelow
        exact .beside ordered firstBelow secondBelow

/-- A node does not come before one whose subtree holds it. -/
theorem not_holds_of_comesBefore
    (forest : tree.IsForest)
    {i j : NodeId}
    (order : tree.ComesBefore i j) :
    ¬ tree.Holds j i := by
  intro around
  cases order with
  | above path => exact forest.acyclic i (path.trans_left around)
  | beside ordered earlierHolds laterHolds =>
      obtain ⟨earlierChild, laterChild, different⟩ := forest.mem_and_ne_of_ordered ordered
      exact different
        (forest.eq_of_holds earlierChild laterChild earlierHolds (laterHolds.trans around))

/-- Of the descendants of a node, none stands behind one that lies below it. -/
theorem pairwise_descendants
    (forest : tree.IsForest)
    {i : NodeId}
    (inside : i < tree.size) :
    (tree.descendants i).Pairwise fun first second => ¬ tree.Holds second first :=
  (forest.pairwise_comesBefore inside).imp forest.not_holds_of_comesBefore

/-- In document order the nodes above a node come before it. -/
theorem mem_front_of_holds
    (forest : tree.IsForest)
    {top i j : NodeId}
    (inside : top < tree.size)
    {list front back : List NodeId}
    (ordered : list.Sublist (tree.descendants top))
    (split : list = front ++ i :: back)
    (member : j ∈ list)
    (above : tree.Holds j i)
    (different : j ≠ i) :
    j ∈ front := by
  have order := (forest.pairwise_descendants inside).sublist ordered
  rw [split] at order member
  rcases List.mem_append.1 member with early | late
  · exact early
  · rw [List.pairwise_append, List.pairwise_cons] at order
    rcases List.mem_cons.1 late with same | behind
    · exact absurd same different
    · exact absurd above (order.2.1.1 j behind)

/-- A subtree that holds nodes below two children of a node holds that node. -/
theorem holds_parent_of_beside
    (forest : tree.IsForest)
    {top parent earlier later i j : NodeId}
    (ordered : [earlier, later].Sublist (tree.children parent))
    (earlierHolds : tree.Holds earlier i)
    (laterHolds : tree.Holds later j)
    (holdsFirst : tree.Holds top i)
    (holdsSecond : tree.Holds top j) :
    tree.Holds top parent := by
  obtain ⟨earlierChild, laterChild, different⟩ := forest.mem_and_ne_of_ordered ordered
  have parentHolds : tree.Holds parent i :=
    .head (forest.isParent_of_mem_children earlierChild) earlierHolds
  rcases holds_or_holds holdsFirst parentHolds with above | inner
  · exact above
  rcases Relation.ReflTransGen.cases_head inner with rfl | ⟨child, edge, path⟩
  · exact .refl
  · -- The child on the way down to the top would be both children.
    have childOf := forest.mem_children_of_parent edge
    have sameEarlier :=
      forest.eq_of_holds childOf earlierChild (path.trans holdsFirst) earlierHolds
    have sameLater :=
      forest.eq_of_holds childOf laterChild (path.trans holdsSecond) laterHolds
    exact absurd (sameEarlier.symm.trans sameLater) different

/-- A node is listed before those below it. -/
theorem above_sublist_descendants
    (forest : tree.IsForest)
    {top i j : NodeId}
    (inside : top < tree.size)
    (holds : tree.Holds top i)
    (path : Relation.TransGen tree.IsParent i j) :
    [i, j].Sublist (tree.descendants top) := by
  have placed := lt_of_holds inside holds
  have different : j ≠ i := by
    rintro rfl
    exact forest.acyclic j path
  have member := (forest.mem_descendants placed).2 path.to_reflTransGen
  rw [forest.descendants_eq placed, List.mem_cons] at member
  have listed : [i, j].Sublist (tree.descendants i) := by
    rw [forest.descendants_eq placed]
    exact (List.singleton_sublist.2 (member.resolve_left different)).cons_cons i
  exact listed.trans (forest.descendants_infix inside holds).sublist

/-- The subtree of a child is listed before those of the later children. -/
theorem beside_sublist_descendants
    (forest : tree.IsForest)
    {top parent earlier later i j : NodeId}
    (inside : top < tree.size)
    (holds : tree.Holds top parent)
    (ordered : [earlier, later].Sublist (tree.children parent))
    (earlierHolds : tree.Holds earlier i)
    (laterHolds : tree.Holds later j) :
    [i, j].Sublist (tree.descendants top) := by
  obtain ⟨earlierChild, laterChild, _⟩ := forest.mem_and_ne_of_ordered ordered
  rw [← forest.mem_descendants (forest.lt_of_mem_children earlierChild)] at earlierHolds
  rw [← forest.mem_descendants (forest.lt_of_mem_children laterChild)] at laterHolds
  have listed : [i, j].Sublist ([earlier, later].flatMap tree.descendants) := by
    rw [List.flatMap_cons, List.flatMap_singleton]
    exact (List.singleton_sublist.2 earlierHolds).append (List.singleton_sublist.2 laterHolds)
  refine List.Sublist.trans ?_ (forest.descendants_infix inside holds).sublist
  rw [forest.descendants_eq (lt_of_holds inside holds)]
  exact (listed.trans (ordered.flatMap tree.descendants)).cons parent

/-- Two nodes of a subtree are listed one before the other exactly in document order. -/
theorem sublist_descendants_iff
    (forest : tree.IsForest)
    {top i j : NodeId}
    (inside : top < tree.size) :
    [i, j].Sublist (tree.descendants top) ↔
      tree.Holds top i ∧ tree.Holds top j ∧ tree.ComesBefore i j := by
  constructor
  · intro listed
    refine ⟨?_, ?_, ?_⟩
    · exact (forest.mem_descendants inside).1 (listed.subset (by simp))
    · exact (forest.mem_descendants inside).1 (listed.subset (by simp))
    · exact List.pairwise_iff_forall_sublist.1 (forest.pairwise_comesBefore inside) listed
  · rintro ⟨holdsFirst, holdsSecond, order⟩
    cases order with
    | above path => exact forest.above_sublist_descendants inside holdsFirst path
    | beside ordered earlierHolds laterHolds =>
        have holds := forest.holds_parent_of_beside ordered earlierHolds laterHolds
          holdsFirst holdsSecond
        exact forest.beside_sublist_descendants inside holds ordered earlierHolds laterHolds

/-! ## Ancestors -/

/-- A node lies below its parent and below what its parent lies below. -/
theorem transGen_isParent_iff
    {i j : NodeId} :
    Relation.TransGen tree.IsParent j i ↔
      ∃ parent, (tree.node i).parent = some parent ∧
        (j = parent ∨ Relation.TransGen tree.IsParent j parent) := by
  rw [Relation.TransGen.tail'_iff]
  refine exists_congr fun parent => ?_
  rw [Relation.reflTransGen_iff_eq_or_transGen, and_comm, eq_comm, IsParent]

/-- With fuel for all levels above a node, the chain of its parents has all nodes above it. -/
theorem mem_parentsFrom
    (forest : tree.IsForest)
    {i j : NodeId}
    {fuel : Nat}
    (enough : tree.size ≤ tree.height i + fuel) :
    j ∈ tree.parentsFrom fuel (tree.node i).parent ↔
      Relation.TransGen tree.IsParent j i := by
  induction fuel generalizing i with
  | zero =>
      rw [transGen_isParent_iff]
      cases parentOf : (tree.node i).parent with
      | none => simp [parentsFrom]
      | some parent =>
          -- A parent would be higher than its child, and no node is higher than the array.
          have lower := forest.height_lt (forest.mem_children_of_parent parentOf)
          have below := forest.height_lt_size (forest.parent_lt parentOf)
          omega
  | succ fuel inductionHypothesis =>
      rw [transGen_isParent_iff]
      cases parentOf : (tree.node i).parent with
      | none => simp [parentsFrom]
      | some parent =>
          have lower := forest.height_lt (forest.mem_children_of_parent parentOf)
          rw [parentsFrom, List.mem_cons, inductionHypothesis (by omega)]
          simp

/-- The ancestors of a node are the nodes that it lies below. -/
theorem mem_ancestors
    (forest : tree.IsForest)
    {i j : NodeId} :
    j ∈ tree.ancestors i ↔ Relation.TransGen tree.IsParent j i := by
  rw [ancestors, List.mem_reverse]
  exact forest.mem_parentsFrom (by omega)

/-! ## Walks in document order -/

/--
The loop of a walk comes to an end in every forest, with every visitor, and makes exactly the
visits of the recursion. When nothing is left out it visits the descendants of its start: the
nodes of the subtree, each once, in document order.
-/
theorem walk_in_document_order
    (forest : tree.IsForest)
    {start : NodeId}
    (inside : start < tree.size) :
    (∀ {σ : Type} (visit : σ → NodeId → σ × Verdict) (state : σ),
      (∃ visits, tree.StackRuns visit state [start] visits (tree.walk visit state start)) ∧
      (∀ visits after, tree.StackRuns visit state [start] visits after ↔
        ∃ goesOn, tree.Traverses visit state [start] visits after goesOn) ∧
      ((∀ state i, (visit state i).2 = .descend) →
        tree.StackRuns visit state [start] (tree.descendants start)
          (tree.walk visit state start))) ∧
    tree.walk listing [] start = tree.descendants start ∧
    (tree.descendants start).Nodup ∧
    (∀ i, i ∈ tree.descendants start ↔ tree.Holds start i) ∧
    ∀ i j, [i, j].Sublist (tree.descendants start) ↔
      tree.Holds start i ∧ tree.Holds start j ∧ tree.ComesBefore i j := by
  have single : ∀ i ∈ [start], i < tree.size := by simpa using inside
  refine ⟨fun visit state => ⟨?_, ?_, ?_⟩, ?_, ?_, ?_, ?_⟩
  · exact forest.exists_stackRuns visit inside state
  · exact forest.stackRuns_iff visit single state
  · exact fun descends => forest.stackRuns_descendants descends inside state
  · exact forest.walk_listing inside
  · exact forest.nodup_descendants inside
  · exact fun i => forest.mem_descendants inside
  · exact fun i j => forest.sublist_descendants_iff inside

/-- A walk that leaves out what is in one list and ends at the second item of another. -/
theorem walk_in_document_order_of_skip_and_stop :
    let tree := ((((((Tree.new "d" "b" "/d.sy" "/D").appendNew 0 .list (some "l")).appendNew 1
      .listItem (some "i")).appendNew 0 .list (some "m")).appendNew 3 .listItem
        (some "j")).appendNew 3 .listItem (some "k")).appendNew 0 .paragraph (some "p")
    let visit := fun (seen : List NodeId) (i : NodeId) =>
      (i :: seen, if i = 1 then Verdict.skip else if i = 5 then .stop else .descend)
    tree.IsForest ∧ 0 < tree.size ∧
      tree.Traverses visit [] [0] [0, 1, 3, 4, 5] [5, 4, 3, 1, 0] false ∧
      tree.StackRuns visit [] [0] [0, 1, 3, 4, 5] (tree.walk visit [] 0) ∧
      tree.walk listing [] 0 = [0, 1, 2, 3, 4, 5, 6] ∧ tree.ComesBefore 2 4 := by
  intro tree visit
  have forest : tree.IsForest :=
    (((((((Built.new "d" "b" "/d.sy" "/D").appendNew (by decide) .list (some "l")).appendNew
      (by decide) .listItem (some "i")).appendNew (by decide) .list (some "m")).appendNew
        (by decide) .listItem (some "j")).appendNew (by decide) .listItem (some "k")).appendNew
          (by decide) .paragraph (some "p")).isForest
  have inside : 0 < tree.size := by decide
  have traverses : tree.Traverses visit [] [0] [0, 1, 3, 4, 5] [5, 4, 3, 1, 0] false := by
    have leaf : tree.Traverses visit [4, 3, 1, 0] (tree.children 4) [] [4, 3, 1, 0] true := by
      rw [show tree.children 4 = [] by decide]
      exact .done
    have items : tree.Traverses visit [3, 1, 0] (tree.children 3) (4 :: ([] ++ [5]))
        [5, 4, 3, 1, 0] false := by
      rw [show tree.children 3 = [4, 5] by decide]
      exact .descend rfl leaf (.stop rfl)
    apply Traverses.stopBelow rfl
    rw [show tree.children 0 = [1, 3, 6] by decide]
    exact .skip rfl (.stopBelow rfl items)
  have left : tree.walk visit [] 0 = [5, 4, 3, 1, 0] := by decide
  obtain ⟨visiting, listed, _, _, order⟩ := forest.walk_in_document_order inside
  refine ⟨forest, inside, traverses, ?_, ?_, ?_⟩
  · rw [left]
    exact ((visiting visit []).2.1 _ _).2 ⟨false, traverses⟩
  · rw [listed]
    decide
  · exact ((order 2 4).1 (by decide)).2.2

end IsForest
end Tree
end BlockSearch
