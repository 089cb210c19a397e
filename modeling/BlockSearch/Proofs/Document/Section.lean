import BlockSearch.Document.Content
import BlockSearch.Proofs.Forest.Descent
import BlockSearch.Proofs.Forest.History
import BlockSearch.Proofs.Lists
import BlockSearch.Search.Embed

/-!
# Sections of headings

The section of a heading is the longest run of siblings right behind it without a heading of its
level or a higher one. Of two headings with the same parent, the first one may have the other one
in its section. Then the section of the other one ends where that of the first one does, or before,
and otherwise the first section ends before the other heading. So what is shown for them lies apart,
or one within the other.
-/

namespace BlockSearch
namespace Tree

variable {tree : Tree}

/-! ## Siblings -/

/-- The children of the parent of a node, with the node. A node without a parent stands alone. -/
def siblings (tree : Tree) (i : NodeId) : List NodeId :=
  match (tree.node i).parent with
  | some parent => tree.children parent
  | none => [i]

theorem siblings_congr
    {i j : NodeId}
    (same : (tree.node j).parent = (tree.node i).parent)
    (hasParent : (tree.node i).parent ≠ none) :
    tree.siblings j = tree.siblings i := by
  rw [siblings, siblings, same]
  cases parent : (tree.node i).parent with
  | some parent => rfl
  | none => contradiction

namespace IsForest

theorem parent_of_mem_siblings
    (forest : tree.IsForest)
    {i j : NodeId}
    (member : j ∈ tree.siblings i) :
    (tree.node j).parent = (tree.node i).parent := by
  rw [siblings] at member
  cases parent : (tree.node i).parent with
  | some above =>
      rw [parent] at member
      exact forest.parent_of_mem_children member
  | none =>
      rw [parent, List.mem_singleton] at member
      rw [member, parent]

theorem mem_siblings
    (forest : tree.IsForest)
    (i : NodeId) :
    i ∈ tree.siblings i := by
  rw [siblings]
  cases parent : (tree.node i).parent with
  | some parent => exact forest.mem_children_of_parent ‹_›
  | none => exact List.mem_singleton_self i

theorem nodup_siblings
    (forest : tree.IsForest)
    (i : NodeId) :
    (tree.siblings i).Nodup := by
  rw [siblings]
  split
  · apply forest.nodup_children
  · apply List.nodup_singleton

theorem linked_siblings
    (forest : tree.IsForest)
    (i : NodeId) :
    tree.Linked none (tree.siblings i) none := by
  rw [siblings]
  cases parent : (tree.node i).parent with
  | some above => exact forest.linked above
  | none =>
      obtain ⟨previous, next⟩ := forest.detached i parent
      exact ⟨previous, next, trivial⟩

/-- Only nodes of the array are headings, and so are their siblings. -/
theorem lt_of_mem_siblings
    (forest : tree.IsForest)
    {i j : NodeId}
    {level : UInt8}
    (heading : (tree.kind i).headingLevel? = some level)
    (member : j ∈ tree.siblings i) :
    j < tree.size := by
  rw [siblings] at member
  cases parent : (tree.node i).parent with
  | some above =>
      rw [parent] at member
      exact forest.lt_of_mem_children member
  | none =>
      rw [parent, List.mem_singleton] at member
      by_contra outside
      rw [member] at outside
      rw [kind, node_of_size_le (Nat.le_of_not_lt outside)] at heading
      contradiction

/-- The siblings behind a node are found along the links. -/
theorem followingSiblings_eq
    (forest : tree.IsForest)
    {i : NodeId}
    {before behind : List NodeId}
    (split : tree.siblings i = before ++ i :: behind) :
    tree.followingSiblings i = behind := by
  have linked := forest.linked_siblings i
  rw [split, linked_append, linked_cons] at linked
  obtain ⟨-, -, next, behindLinked⟩ := linked
  have enough : behind.length ≤ tree.size := by
    have nodup := forest.nodup_siblings i
    rw [split, List.nodup_append, List.nodup_cons] at nodup
    apply length_le_size nodup.2.1.2
    intro j member
    have sibling : j ∈ tree.siblings i := by
      rw [split]
      exact List.mem_append_right _ (List.mem_cons_of_mem _ member)
    rw [siblings] at sibling
    cases parent : (tree.node i).parent with
    | some parent =>
        rw [parent] at sibling
        exact forest.lt_of_mem_children sibling
    | none =>
        rw [parent, List.mem_singleton] at sibling
        exact absurd (sibling ▸ member) nodup.2.1.1
  rw [Option.or_none] at next
  rw [followingSiblings, next]
  exact behindLinked.chainFrom_head? enough

/-- The subtrees of different nodes with the same parent hold different nodes. -/
theorem eq_of_holds_of_same_parent
    (forest : tree.IsForest)
    {i j k : NodeId}
    (same : (tree.node j).parent = (tree.node i).parent)
    (left : tree.Holds i k)
    (right : tree.Holds j k) :
    i = j := by
  cases parent : (tree.node i).parent with
  | some parent =>
      rw [parent] at same
      exact forest.eq_of_holds (forest.mem_children_of_parent ‹_›)
        (forest.mem_children_of_parent same) left right
  | none =>
      -- A node without a parent lies in no subtree but its own.
      have top {above node : NodeId} (detached : (tree.node node).parent = none)
          (path : tree.Holds above node) : above = node := by
        rcases Relation.ReflTransGen.cases_tail path with itself | ⟨_, _, edge⟩
        · exact itself.symm
        · rw [IsParent, detached] at edge
          contradiction
      rcases holds_or_holds left right with path | path
      · exact top (same.trans parent) path
      · exact (top parent path).symm

end IsForest

/-! ## Sections -/

/-- A node is no heading of a level or a higher one; the highest headings have level one. -/
def Under (tree : Tree) (level : UInt8) (i : NodeId) : Prop :=
  ∀ other, (tree.kind i).headingLevel? = some other → level < other

theorem endsSection_eq_false_iff
    {level : UInt8}
    {i : NodeId} :
    tree.endsSection level i = false ↔ tree.Under level i := by
  rw [endsSection, Under]
  cases (tree.kind i).headingLevel? with
  | none => simp
  | some other => simp

theorem Under.trans
    {level other : UInt8}
    {i : NodeId}
    (under : tree.Under other i)
    (lower : level < other) :
    tree.Under level i := by
  intro inner heading
  exact UInt8.lt_trans lower (under inner heading)

/-- Some siblings are the longest run in front of others in which all are under a level. -/
structure IsSection
    (tree : Tree)
    (level : UInt8)
    (behind run : List NodeId) : Prop where
  /-- The run stands in front. -/
  front : run <+: behind
  /-- It has no heading of the level or a higher one. -/
  under : ∀ i ∈ run, tree.Under level i
  /-- Every such run is the front of it. -/
  longest : ∀ other, other <+: behind → (∀ i ∈ other, tree.Under level i) → other <+: run

theorem isSection_takeWhile
    (tree : Tree)
    (level : UInt8)
    (behind : List NodeId) :
    tree.IsSection level behind (behind.takeWhile fun i => !tree.endsSection level i) where
  front := List.takeWhile_prefix _
  under i member := by
    have passed := List.mem_takeWhile_imp member
    rwa [Bool.not_eq_true', endsSection_eq_false_iff] at passed
  longest other begins under := by
    obtain ⟨rest, rfl⟩ := begins
    rw [List.takeWhile_append_of_pos]
    · exact List.prefix_append _ _
    · intro i member
      rw [Bool.not_eq_true', endsSection_eq_false_iff]
      exact under i member

/-- The section of a heading is the longest run behind it. -/
theorem IsForest.isSection
    (forest : tree.IsForest)
    {i : NodeId}
    {level : UInt8}
    (heading : (tree.kind i).headingLevel? = some level)
    {before behind : List NodeId}
    (split : tree.siblings i = before ++ i :: behind) :
    tree.IsSection level behind (tree.headingSection i) := by
  rw [headingSection, heading]
  dsimp only
  rw [forest.followingSiblings_eq split]
  exact tree.isSection_takeWhile level behind

namespace IsSection

variable {level other : UInt8} {front behind run inner : List NodeId}

/-- What a run has behind some of its nodes is the longest run there. -/
theorem of_append
    (whole : tree.IsSection level (front ++ behind) (front ++ run)) :
    tree.IsSection level behind run where
  front := (List.prefix_append_right_inj front).1 whole.front
  under i member := whole.under i (List.mem_append_right _ member)
  longest longer begins under := by
    apply (List.prefix_append_right_inj front).1
    apply whole.longest
    · exact (List.prefix_append_right_inj front).2 begins
    · intro i member
      rcases List.mem_append.1 member with early | late
      · exact whole.under i (List.mem_append_left _ early)
      · exact under i late

/-- From one place on, the run for a lower heading does not go further. -/
theorem prefix_of_lt
    (whole : tree.IsSection level behind run)
    (part : tree.IsSection other behind inner)
    (lower : level < other) :
    inner <+: run := by
  apply whole.longest inner part.front
  intro i member
  exact (part.under i member).trans lower

/-- A run that goes beyond a lower heading holds that heading and the run behind it. -/
theorem prefix_or_infix
    {between : List NodeId}
    {j : NodeId}
    (whole : tree.IsSection level (between ++ j :: behind) run)
    (heading : (tree.kind j).headingLevel? = some other)
    (part : tree.IsSection other behind inner) :
    run <+: between ∨ j :: inner <:+: run := by
  rcases List.prefix_or_prefix_of_prefix whole.front (List.prefix_append between _) with
    early | ⟨tail, rfl⟩
  · exact .inl early
  · have begins := whole.of_append.front
    cases tail with
    | nil => simp
    | cons k tail =>
        obtain ⟨rfl, -⟩ := List.cons_prefix_cons.1 begins
        have lower : level < other := whole.of_append.under k List.mem_cons_self other heading
        have rest : tree.IsSection level ([k] ++ behind) ([k] ++ tail) := whole.of_append
        right
        apply List.IsInfix.trans _ (List.suffix_append between _).isInfix
        exact (List.cons_prefix_cons.2 ⟨rfl, rest.of_append.prefix_of_lt part lower⟩).isInfix

end IsSection

/-! ## Stretches -/

/-- Two lists lie apart, or one is a stretch of the other. -/
def Nested {α : Type} (first second : List α) : Prop :=
  first.Disjoint second ∨ first <:+: second ∨ second <:+: first

/-- The section of a heading ends before a later one, or holds it with its section. -/
theorem IsForest.disjoint_or_infix_section
    (forest : tree.IsForest)
    {i j : NodeId}
    {level other : UInt8}
    (heading : (tree.kind i).headingLevel? = some level)
    (otherHeading : (tree.kind j).headingLevel? = some other)
    {before between behind : List NodeId}
    (split : tree.siblings i = before ++ i :: (between ++ j :: behind))
    (same : tree.siblings j = tree.siblings i) :
    (i :: tree.headingSection i).Disjoint (j :: tree.headingSection j) ∨
      j :: tree.headingSection j <:+: tree.headingSection i := by
  have outer := forest.isSection heading split
  have otherSplit : tree.siblings j = (before ++ i :: between) ++ j :: behind := by
    rw [same, split, List.append_assoc, List.cons_append]
  have inner := forest.isSection otherHeading otherSplit
  apply (outer.prefix_or_infix otherHeading inner).imp_left
  intro early
  have nodup := forest.nodup_siblings i
  rw [split, ← List.cons_append, List.nodup_append'] at nodup
  have apart := List.disjoint_of_nodup_append nodup.2.1
  have first : i :: tree.headingSection i ⊆ i :: between := List.cons_subset_cons i early.subset
  have second : j :: tree.headingSection j ⊆ j :: behind :=
    List.cons_subset_cons j inner.front.subset
  exact fun k left right => apart (first left) (second right)

end Tree

/-! ## What is shown -/

namespace Embedded

variable {tree : Tree}

/-- The nodes that are shown for a heading, with all below them. -/
def shownNodes (tree : Tree) (mode : HeadingMode) (i : NodeId) : List NodeId :=
  (headingNodes tree mode i).flatMap tree.descendants

/-- What is shown for some nodes. -/
def shownText (tree : Tree) (nodes : List NodeId) : List Char :=
  ['\n'].intercalate (nodes.map fun i => Html.escape (tree.text i).toList)

theorem headingContent?_eq
    {i : NodeId}
    {level : UInt8}
    (heading : (tree.kind i).headingLevel? = some level)
    (mode : HeadingMode) :
    headingContent? tree mode i = some (String.ofList (shownText tree (headingNodes tree mode i))) := by
  rw [headingContent?, heading]
  rfl

theorem shownText_infix
    {nodes others : List NodeId}
    (within : nodes <:+: others) :
    shownText tree nodes <:+: shownText tree others :=
  Lists.intercalate_infix _ (within.map _)

theorem shownNodes_infix
    {mode : HeadingMode}
    {i j : NodeId}
    (within : headingNodes tree mode i <:+: headingNodes tree mode j) :
    shownNodes tree mode i <:+: shownNodes tree mode j := by
  obtain ⟨front, back, whole⟩ := within
  rw [shownNodes, shownNodes, ← whole, List.flatMap_append, List.flatMap_append]
  exact List.infix_append _ _ _

/-- A heading that is shown brings only siblings of its own. -/
theorem headingNodes_subset_siblings
    (forest : tree.IsForest)
    {i : NodeId}
    {level : UInt8}
    (heading : (tree.kind i).headingLevel? = some level)
    (mode : HeadingMode) :
    headingNodes tree mode i ⊆ tree.siblings i := by
  obtain ⟨before, behind, split⟩ := List.append_of_mem (forest.mem_siblings i)
  have run := (forest.isSection heading split).front.subset
  have all : i :: tree.headingSection i ⊆ tree.siblings i := by
    rw [split]
    exact List.subset_append_of_subset_right _ (List.cons_subset_cons i run)
  cases mode with
  | withSection => exact all
  | headingOnly => exact fun j member => all (List.mem_cons.2 (.inl (List.mem_singleton.1 member)))
  | sectionOnly => exact fun j member => all (List.mem_cons_of_mem _ member)

/-- Of two headings, what is shown for the second one lies apart or within the first one. -/
theorem disjoint_or_infix_headingNodes
    (forest : tree.IsForest)
    {i j : NodeId}
    {level other : UInt8}
    (heading : (tree.kind i).headingLevel? = some level)
    (otherHeading : (tree.kind j).headingLevel? = some other)
    {before between behind : List NodeId}
    (split : tree.siblings i = before ++ i :: (between ++ j :: behind))
    (same : tree.siblings j = tree.siblings i)
    (mode : HeadingMode) :
    (headingNodes tree mode i).Disjoint (headingNodes tree mode j) ∨
      headingNodes tree mode j <:+: headingNodes tree mode i := by
  have stretches := forest.disjoint_or_infix_section heading otherHeading split same
  cases mode with
  | withSection => exact stretches.imp_right fun within => List.infix_cons within
  | headingOnly =>
      have nodup := forest.nodup_siblings i
      rw [split, List.nodup_append, List.nodup_cons] at nodup
      have different : i ≠ j := by
        rintro rfl
        exact nodup.2.1.1 (List.mem_append_right _ List.mem_cons_self)
      left
      exact List.disjoint_singleton.2 fun same => different (List.mem_singleton.1 same).symm
  | sectionOnly =>
      apply stretches.imp
      · exact fun apart k left right =>
          apart (List.mem_cons_of_mem _ left) (List.mem_cons_of_mem _ right)
      · exact fun within => (List.suffix_cons j _).isInfix.trans within

theorem nested_headingNodes
    (forest : tree.IsForest)
    {i j : NodeId}
    {level other : UInt8}
    (heading : (tree.kind i).headingLevel? = some level)
    (otherHeading : (tree.kind j).headingLevel? = some other)
    (sameParent : (tree.node j).parent = (tree.node i).parent)
    (different : j ≠ i)
    (mode : HeadingMode) :
    Tree.Nested (headingNodes tree mode i) (headingNodes tree mode j) := by
  cases parent : (tree.node i).parent with
  | none =>
      -- Both stand alone.
      have alone {k l : NodeId} (detached : (tree.node k).parent = none)
          (member : l ∈ tree.siblings k) : l = k := by
        rw [Tree.siblings, detached] at member
        exact List.mem_singleton.1 member
      left
      intro k left right
      have first := headingNodes_subset_siblings forest heading mode left
      have second := headingNodes_subset_siblings forest otherHeading mode right
      exact different ((alone (sameParent.trans parent) second).symm.trans (alone parent first))
  | some above =>
      have same : tree.siblings j = tree.siblings i :=
        Tree.siblings_congr sameParent (by rw [parent]; simp)
      have sibling : j ∈ tree.siblings i := same ▸ forest.mem_siblings j
      obtain ⟨before, behind, split⟩ := List.append_of_mem (forest.mem_siblings i)
      rw [split, List.mem_append, List.mem_cons] at sibling
      rcases sibling with early | itself | late
      · obtain ⟨front, between, rfl⟩ := List.append_of_mem early
        have reverse : tree.siblings j = front ++ j :: (between ++ i :: behind) := by
          rw [same, split, List.append_assoc, List.cons_append]
        rcases disjoint_or_infix_headingNodes forest otherHeading heading reverse same.symm mode with
          apart | within
        · exact .inl apart.symm
        · exact .inr (.inl within)
      · contradiction
      · obtain ⟨between, rest, rfl⟩ := List.append_of_mem late
        apply (disjoint_or_infix_headingNodes forest heading otherHeading split same mode).imp_right
        exact Or.inr

/-- Nodes that are shown for different siblings have different nodes below them. -/
theorem disjoint_shownNodes
    (forest : tree.IsForest)
    {i j : NodeId}
    {level other : UInt8}
    (heading : (tree.kind i).headingLevel? = some level)
    (otherHeading : (tree.kind j).headingLevel? = some other)
    (sameParent : (tree.node j).parent = (tree.node i).parent)
    {mode : HeadingMode}
    (apart : (headingNodes tree mode i).Disjoint (headingNodes tree mode j)) :
    (shownNodes tree mode i).Disjoint (shownNodes tree mode j) := by
  intro k left right
  obtain ⟨first, firstShown, firstBelow⟩ := List.mem_flatMap.1 left
  obtain ⟨second, secondShown, secondBelow⟩ := List.mem_flatMap.1 right
  have firstSibling := headingNodes_subset_siblings forest heading mode firstShown
  have secondSibling := headingNodes_subset_siblings forest otherHeading mode secondShown
  have same : (tree.node second).parent = (tree.node first).parent := by
    rw [forest.parent_of_mem_siblings firstSibling, forest.parent_of_mem_siblings secondSibling,
      sameParent]
  have inside := forest.lt_of_mem_siblings heading firstSibling
  have otherInside := forest.lt_of_mem_siblings otherHeading secondSibling
  rw [forest.mem_descendants inside] at firstBelow
  rw [forest.mem_descendants otherInside] at secondBelow
  obtain rfl := forest.eq_of_holds_of_same_parent same firstBelow secondBelow
  exact apart firstShown secondShown

end Embedded

/-! ## Embedded headings -/

/--
The section of a heading is the longest run of siblings right behind it without a heading of its
level or a higher one. The stretches of two headings with the same parent lie apart, or one within
the other. What an embed shows for them are different nodes, or the nodes and the text for one
stand together in those for the other.
-/
theorem Tree.IsForest.sections_nested
    {tree : Tree}
    (forest : tree.IsForest)
    {i : NodeId}
    {level : UInt8}
    (heading : (tree.kind i).headingLevel? = some level) :
    (∃ before behind, tree.siblings i = before ++ i :: behind ∧
      tree.IsSection level behind (tree.headingSection i)) ∧
    ∀ j other, (tree.kind j).headingLevel? = some other →
      (tree.node j).parent = (tree.node i).parent → j ≠ i →
        Tree.Nested (i :: tree.headingSection i) (j :: tree.headingSection j) ∧
        ∀ mode, ∃ shown otherShown,
          Embedded.headingContent? tree mode i = some shown ∧
          Embedded.headingContent? tree mode j = some otherShown ∧
          ((Embedded.shownNodes tree mode i).Disjoint (Embedded.shownNodes tree mode j) ∨
            (Embedded.shownNodes tree mode i <:+: Embedded.shownNodes tree mode j ∧
              shown.toList <:+: otherShown.toList) ∨
            (Embedded.shownNodes tree mode j <:+: Embedded.shownNodes tree mode i ∧
              otherShown.toList <:+: shown.toList)) := by
  constructor
  · obtain ⟨before, behind, split⟩ := List.append_of_mem (forest.mem_siblings i)
    exact ⟨before, behind, split, forest.isSection heading split⟩
  · intro j other otherHeading sameParent different
    have nested := Embedded.nested_headingNodes forest heading otherHeading sameParent different
    refine ⟨nested .withSection, fun mode => ?_⟩
    refine ⟨_, _, Embedded.headingContent?_eq heading mode,
      Embedded.headingContent?_eq otherHeading mode, ?_⟩
    rw [String.toList_ofList, String.toList_ofList]
    rcases nested mode with apart | within | around
    · left
      exact Embedded.disjoint_shownNodes forest heading otherHeading sameParent apart
    · right; left
      exact ⟨Embedded.shownNodes_infix within, Embedded.shownText_infix within⟩
    · right; right
      exact ⟨Embedded.shownNodes_infix around, Embedded.shownText_infix around⟩

/-- A section with a skipped level holds the section of a heading in it, and ends before its peer. -/
theorem Tree.IsForest.sections_nested_of_skipped_level :
    let tree := (((((Tree.new "d" "b" "/d.sy" "/D").appendNew 0 (.heading 2) (some "a")).appendNew 0
      .paragraph (some "p")).appendNew 0 (.heading 4) (some "b")).appendNew 0
        (.heading 3) (some "c")).appendNew 0 (.heading 2) (some "e")
    tree.IsForest ∧ (tree.kind 1).headingLevel? = some 2 ∧
      (tree.kind 4).headingLevel? = some 3 ∧ (tree.node 4).parent = (tree.node 1).parent ∧
      tree.headingSection 1 = [2, 3, 4] ∧
      (∃ before behind, tree.siblings 1 = before ++ 1 :: behind ∧
        tree.IsSection 2 behind (tree.headingSection 1)) ∧
      Tree.Nested (1 :: tree.headingSection 1) (4 :: tree.headingSection 4) := by
  intro tree
  have forest : tree.IsForest :=
    ((((((Built.new "d" "b" "/d.sy" "/D").appendNew (by decide) (.heading 2) (some "a")).appendNew
      (by decide) .paragraph (some "p")).appendNew (by decide) (.heading 4) (some "b")).appendNew
        (by decide) (.heading 3) (some "c")).appendNew (by decide) (.heading 2)
          (some "e")).isForest
  have heading : (tree.kind 1).headingLevel? = some 2 := by decide
  have otherHeading : (tree.kind 4).headingLevel? = some 3 := by decide
  have sameParent : (tree.node 4).parent = (tree.node 1).parent := by decide
  obtain ⟨longest, nested⟩ := forest.sections_nested heading
  exact ⟨forest, heading, otherHeading, sameParent, by decide, longest,
    (nested 4 3 otherHeading sameParent (by decide)).1⟩

end BlockSearch
