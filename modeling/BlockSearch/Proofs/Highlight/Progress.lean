import BlockSearch.Proofs.Forest.Splicing

/-!
# Highlighting one text after the other

Whether a text or mark is replaced depends on what it holds, and not on what has been put
into its document before. Its stretches are put beside it, and only text, marks and attributes
of marks are to be taken out.
-/

namespace BlockSearch
namespace Tree

/-- Whether a keyword is to be highlighted in a node. -/
def hasMatch (tree : Tree) (highlight : Highlight) (i : NodeId) : Bool :=
  (tree.splitAtKeywords? highlight i).isSome

/-- Only the kind of a node decides whether a keyword is to be highlighted in it. -/
theorem hasMatch_congr
    {tree other : Tree}
    {i : NodeId}
    (same : other.kind i = tree.kind i)
    (highlight : Highlight) :
    other.hasMatch highlight i = tree.hasMatch highlight i := by
  unfold hasMatch splitAtKeywords?
  rw [same]
  split
  · simp only
    split_ifs <;> rfl
  · simp only
    split_ifs <;> rfl
  · rfl

/-- Texts and marks are spans. -/
theorem isSpan_of_isInlineText
    {tree : Tree}
    {i : NodeId}
    (isText : tree.isInlineText i = true) :
    (tree.kind i).isSpan = true := by
  unfold isInlineText at isText
  generalize tree.kind i = kind at isText ⊢
  cases kind with
  | text | textMark => rfl
  | _ => contradiction

/-- What is no text or mark with new nodes around it was none before. -/
theorem Interspersed.isInlineText_eq_false
    {tree other : Tree}
    (interspersed : Interspersed tree other)
    {i : NodeId}
    (noText : other.isInlineText i = false) :
    tree.isInlineText i = false := by
  by_cases old : i < tree.size
  · rwa [isInlineText, ← interspersed.kind old]
  · rw [isInlineText, Tree.kind, node_of_size_le (Nat.le_of_not_lt old)]

/-! ## Stretches -/

/-- Steps that each put new nodes beside a node put them all beside it. -/
theorem interspersed_foldl
    {α : Type}
    {step : Tree → α → Tree}
    {target : NodeId}
    (each : ∀ {tree : Tree} (item : α), tree.IsForest → (tree.node target).parent ≠ none →
      Interspersed tree (step tree item))
    {tree : Tree}
    (forest : tree.IsForest)
    (lies : (tree.node target).parent ≠ none)
    (items : List α) :
    Interspersed tree (items.foldl step tree) := by
  induction items generalizing tree with
  | nil => exact .refl forest
  | cons item items inductionHypothesis =>
      have first := each item forest lies
      obtain ⟨parent, parentOf⟩ := Option.ne_none_iff_exists'.1 lies
      have stillLies := first.parent forest (IsForest.lt_of_parent parentOf)
      exact first.trans (inductionHypothesis first.forest (stillLies ▸ lies))

/-- Every stretch is text or a mark. -/
theorem isSpan_kind (stretch : Inline) : stretch.kind.isSpan = true := by
  cases stretch <;> rfl

/-- A stretch of a mark, with a copy of its span attributes, is put beside the mark. -/
theorem interspersed_insertPiece
    {tree : Tree}
    (forest : tree.IsForest)
    {i : NodeId}
    (lies : (tree.node i).parent ≠ none)
    {trailing : Option Node}
    (span : ∀ node ∈ trailing, node.kind.isSpan = true)
    (mark : TextMark)
    (attributes : List (String × String))
    (stretch : Inline) :
    Interspersed tree (insertPiece i mark attributes trailing tree stretch) := by
  have first := Interspersed.insertNew forest lies
    (rfl : (Kind.textMark (piece mark stretch)).isSpan = true) attributes
  unfold insertPiece
  cases trailing with
  | none => exact first
  | some node =>
      obtain ⟨parent, parentOf⟩ := Option.ne_none_iff_exists'.1 lies
      have stillLies := first.parent forest (IsForest.lt_of_parent parentOf)
      exact first.trans
        (.insertNew first.forest (stillLies ▸ lies) (span node rfl) node.attributes)

/-- What is found behind a mark are the attributes of one. -/
theorem spanAttributes?_eq_some
    {tree : Tree}
    {i j : NodeId}
    (found : tree.spanAttributes? i = some j) :
    j < tree.size ∧ (tree.kind j).isSpan = true ∧ tree.isInlineText j = false := by
  unfold spanAttributes? at found
  split at found
  · split at found
    · rename_i next _ tokens kindOf
      cases found
      refine ⟨?_, by rw [kindOf]; rfl, by rw [isInlineText, kindOf]⟩
      by_contra outside
      rw [kind, node_of_size_le (Nat.le_of_not_lt outside)] at kindOf
      contradiction
    · contradiction
  · contradiction

/--
A node in which keywords are highlighted gets its stretches beside it, and is to be taken out
with the attributes behind it, if there are any.
-/
theorem splitAtKeywords?_eq_some
    {tree next : Tree}
    (forest : tree.IsForest)
    {highlight : Highlight}
    {i : NodeId}
    (lies : (tree.node i).parent ≠ none)
    {unlinks : List NodeId}
    (split : tree.splitAtKeywords? highlight i = some (next, unlinks)) :
    Interspersed tree next ∧ tree.isInlineText i = true ∧
      ∃ trailing, unlinks = i :: trailing ∧
        ∀ j ∈ trailing, j < tree.size ∧ (tree.kind j).isSpan = true ∧
          tree.isInlineText j = false := by
  unfold splitAtKeywords? at split
  split at split
  · rename_i text kindOf
    simp only at split
    split_ifs at split
    cases split
    refine ⟨?_, by rw [isInlineText, kindOf], [], rfl, by simp⟩
    exact interspersed_foldl
      (fun stretch forest lies => .insertNew forest lies (isSpan_kind stretch) []) forest lies _
  · rename_i mark kindOf
    simp only at split
    split_ifs at split
    cases split
    refine ⟨?_, by rw [isInlineText, kindOf], _, rfl, fun j member => ?_⟩
    · refine interspersed_foldl (fun stretch forest lies =>
        interspersed_insertPiece forest lies (fun node member => ?_) mark _ stretch) forest lies _
      obtain ⟨j, found, rfl⟩ := Option.map_eq_some_iff.1 member
      exact (spanAttributes?_eq_some found).2.1
    · exact spanAttributes?_eq_some (Option.mem_toList.1 member)
  · contradiction

/-! ## Documents -/

/--
A document in which some texts and marks have been highlighted. They are still in it, with
their stretches beside them; those in which a keyword occurs have been counted, and they are
the texts and marks that are to be taken out.
-/
structure Progress
    (tree : Tree)
    (highlight : Highlight)
    (done : List NodeId)
    (state : Highlighted) : Prop where
  /-- The stretches stand beside the nodes. -/
  interspersed : Interspersed tree state.tree
  /-- Only nodes of the document are to be taken out. -/
  inside : ∀ i ∈ state.unlinks, i < state.tree.size
  /-- Only text, marks and attributes of marks are to be taken out. -/
  span : ∀ i ∈ state.unlinks, (state.tree.kind i).isSpan = true
  /-- The texts and marks to be taken out are those in which a keyword occurs. -/
  replaced : state.unlinks.filter tree.isInlineText = done.filter (tree.hasMatch highlight)
  /-- They have been counted. -/
  count : state.count = (done.filter (tree.hasMatch highlight)).length

namespace Progress

variable {tree : Tree} {highlight : Highlight} {done : List NodeId} {state : Highlighted}

/-- One more text or mark. -/
theorem highlightNode
    (progress : Progress tree highlight done state)
    (forest : tree.IsForest)
    {i : NodeId}
    (lies : (tree.node i).parent ≠ none) :
    Progress tree highlight (done ++ [i]) (Tree.highlightNode highlight state i) := by
  obtain ⟨interspersed, inside, span, replaced, count⟩ := progress
  obtain ⟨parent, parentOf⟩ := Option.ne_none_iff_exists'.1 lies
  have old : i < tree.size := IsForest.lt_of_parent parentOf
  have same := hasMatch_congr (interspersed.kind old) highlight
  unfold Tree.highlightNode
  cases split : state.tree.splitAtKeywords? highlight i with
  | none =>
      have without : tree.hasMatch highlight i = false := by
        rw [← same, hasMatch, split]
        rfl
      refine ⟨interspersed, inside, span, ?_, ?_⟩
      · rw [replaced, List.filter_append]
        simp [without]
      · rw [count, List.filter_append]
        simp [without]
  | some result =>
      obtain ⟨next, unlinks⟩ := result
      have found : tree.hasMatch highlight i = true := by
        rw [← same, hasMatch, split]
        rfl
      have stillLies : (state.tree.node i).parent ≠ none :=
        interspersed.parent forest old ▸ lies
      obtain ⟨grown, isText, trailing, rfl, behind⟩ :=
        splitAtKeywords?_eq_some interspersed.forest stillLies split
      -- What is to be unlinked next is the node itself and pieces that this step has put in.
      have all : ∀ j ∈ state.unlinks ++ i :: trailing,
          j < state.tree.size ∧ (state.tree.kind j).isSpan = true := by
        intro j member
        rcases List.mem_append.1 member with earlier | here
        · exact ⟨inside j earlier, span j earlier⟩
        · rcases List.mem_cons.1 here with rfl | later
          · exact ⟨Nat.lt_of_lt_of_le old interspersed.larger, isSpan_of_isInlineText isText⟩
          · exact ⟨(behind j later).1, (behind j later).2.1⟩
      have isTarget : tree.isInlineText i = true := by
        rw [isInlineText, ← interspersed.kind old]
        exact isText
      have noTargets : trailing.filter tree.isInlineText = [] := by
        rw [List.filter_eq_nil_iff]
        intro j later
        simp [interspersed.isInlineText_eq_false (behind j later).2.2]
      refine ⟨interspersed.trans grown, fun j member => ?_, fun j member => ?_, ?_, ?_⟩
      · exact Nat.lt_of_lt_of_le (all j member).1 grown.larger
      · rw [grown.kind (all j member).1]
        exact (all j member).2
      · rw [List.filter_append, replaced, List.filter_append, List.filter_cons_of_pos isTarget,
          noTargets]
        simp [found]
      · rw [count, List.filter_append]
        simp [found]

/-- All texts and marks, one after the other. -/
theorem foldl_highlightNode
    (progress : Progress tree highlight done state)
    (forest : tree.IsForest)
    {targets : List NodeId}
    (lie : ∀ i ∈ targets, (tree.node i).parent ≠ none) :
    Progress tree highlight (done ++ targets)
      (targets.foldl (Tree.highlightNode highlight) state) := by
  induction targets generalizing done state with
  | nil => simpa using progress
  | cons i targets inductionHypothesis =>
      rw [List.forall_mem_cons] at lie
      have later := inductionHypothesis (progress.highlightNode forest lie.1) lie.2
      rwa [List.append_assoc, List.singleton_append] at later

end Progress
end Tree
end BlockSearch
