import BlockSearch.Proofs.Highlight.Blocks
import BlockSearch.Proofs.Highlight.Splitting

/-!
# Texts of a highlighted document

Every text of a document in which a keyword occurs is replaced by what its marked text is read as.
These are the segments of the text, with marks for the hits, exactly when the spans around the hits
are all that carry the type of the marks of a search. A text that does not name this type is read
so, unless a hit holds a closing tag.
-/

namespace BlockSearch
namespace Tree

variable {tree next : Tree} {highlight : Highlight} {done : List NodeId} {state : Highlighted}
  {new : NodeId → List NodeId} {i : NodeId}

/-- A node that is split has a text in which a keyword occurs. -/
theorem exists_text_of_splitAtKeywords?
    {unlinks : List NodeId}
    (split : tree.splitAtKeywords? highlight i = some (next, unlinks)) :
    ∃ text, (tree.kind i).markable? = some text ∧
      Mark.Occurs highlight.mode (highlight.keywords.map String.toList) text ∧
      unlinks = i :: tree.trailing i ∧
      next = tree.insertAll i ((highlight.stretches
        (highlight.enclose (highlight.typesIn (tree.kind i)) text)).flatMap (tree.entries i)) := by
  cases markable : (tree.kind i).markable? with
  | none =>
      unfold splitAtKeywords? at split
      unfold Kind.markable? at markable
      generalize tree.kind i = kind at split markable
      cases kind with
      | text => contradiction
      | textMark mark =>
          dsimp only at split markable
          split_ifs at split markable
      | _ => contradiction
  | some text =>
      obtain ⟨unchanged, changed⟩ := splitAtKeywords?_of_occurs markable highlight
      by_cases occurs : Mark.Occurs highlight.mode (highlight.keywords.map String.toList) text
      · rw [changed occurs] at split
        cases split
        exact ⟨text, rfl, occurs, rfl, rfl⟩
      · rw [unchanged occurs] at split
        contradiction

/--
A document in which some texts and marks have been highlighted, and the new nodes that stand right
before each node. Those before a text are what its marked text is read as.
-/
structure Highlighting
    (tree : Tree)
    (highlight : Highlight)
    (done : List NodeId)
    (state : Highlighted)
    (new : NodeId → List NodeId) : Prop where
  /-- The nodes still form a forest. -/
  forest : state.tree.IsForest
  /-- No node is lost. -/
  larger : tree.size ≤ state.tree.size
  /-- Every old node holds what it held. -/
  payload : ∀ i, i < tree.size → (state.tree.node i).payload = (tree.node i).payload
  /-- The new nodes stand before the old ones. -/
  children : ∀ i, state.tree.children i = (tree.children i).flatMap fun j => new j ++ [j]
  /-- The new nodes are behind the old ones in the array. -/
  fresh : ∀ i, ∀ j ∈ new i, tree.size ≤ j ∧ j < state.tree.size
  /-- Texts and marks of the document have been highlighted. -/
  old : ∀ i ∈ done, i < tree.size
  /-- Nothing stands before the others. -/
  untouched : ∀ i, i ∉ done → new i = []
  /-- A text in which no keyword occurs stays, and any other is replaced. -/
  texts : ∀ i ∈ done, ∀ value, tree.kind i = .text value →
    (¬ Mark.Occurs highlight.mode (highlight.keywords.map String.toList) value.toList →
      new i = [] ∧ i ∉ state.unlinks) ∧
    (Mark.Occurs highlight.mode (highlight.keywords.map String.toList) value.toList →
      (new i).map state.tree.kind = (highlight.stretches
        (highlight.enclose highlight.spanType.toList value.toList)).map Inline.kind ∧
      i ∈ state.unlinks)
  /-- Only nodes of the document are to be taken out. -/
  inside : ∀ i ∈ state.unlinks, i < state.tree.size
  /-- No text or mark is to be taken out that has not been highlighted. -/
  unlinks : ∀ i ∈ state.unlinks, state.tree.isInlineText i = true → i ∈ done

namespace Highlighting

theorem start
    (forest : tree.IsForest)
    (highlight : Highlight) :
    Highlighting tree highlight [] ⟨tree, [], 0⟩ fun _ => [] where
  forest := forest
  larger := Nat.le_refl _
  payload _ _ := rfl
  children i := by simp
  fresh := by simp
  old := by simp
  untouched _ _ := rfl
  texts := by simp
  inside := by simp
  unlinks := by simp

theorem kind
    (highlighting : Highlighting tree highlight done state new)
    {i : NodeId}
    (inside : i < tree.size) :
    state.tree.kind i = tree.kind i := congrArg (·.1) (highlighting.payload i inside)

/-- A node that has not been highlighted is not to be taken out, if it is a text. -/
theorem not_mem_unlinks
    (highlighting : Highlighting tree highlight done state new)
    (waiting : i ∉ done)
    (inside : i < tree.size)
    {value : String}
    (kindOf : tree.kind i = .text value) :
    i ∉ state.unlinks := by
  intro member
  refine waiting (highlighting.unlinks i member ?_)
  rw [isInlineText, highlighting.kind inside, kindOf]

/-- A node that lies in another one still does. -/
theorem parent_ne_none
    (highlighting : Highlighting tree highlight done state new)
    (forest : tree.IsForest)
    (lies : (tree.node i).parent ≠ none) :
    (state.tree.node i).parent ≠ none := by
  obtain ⟨parent, parentOf⟩ := Option.ne_none_iff_exists'.1 lies
  have member : i ∈ state.tree.children parent := by
    rw [highlighting.children]
    exact List.mem_flatMap.2 ⟨i, forest.mem_children_of_parent parentOf, by simp⟩
  rw [highlighting.forest.parent_of_mem_children member]
  exact Option.some_ne_none parent

/-- A text or mark that is left alone. -/
theorem leave
    (highlighting : Highlighting tree highlight done state new)
    (inside : i < tree.size)
    (waiting : i ∉ done)
    (unchanged : state.tree.splitAtKeywords? highlight i = none) :
    Highlighting tree highlight (done ++ [i]) state new := by
  refine { highlighting with old := ?_, untouched := ?_, texts := ?_, unlinks := ?_ }
  · rw [List.forall_mem_append, List.forall_mem_singleton]
    exact ⟨highlighting.old, inside⟩
  · exact fun j other => highlighting.untouched j fun member =>
      other (List.mem_append_left _ member)
  · rw [List.forall_mem_append, List.forall_mem_singleton]
    refine ⟨highlighting.texts, fun value kindOf => ?_⟩
    have markable : (state.tree.kind i).markable? = some value.toList := by
      rw [highlighting.kind inside, kindOf, Kind.markable?]
    refine ⟨fun _ => ⟨highlighting.untouched i waiting,
      highlighting.not_mem_unlinks waiting inside kindOf⟩, fun occurs => ?_⟩
    rw [(splitAtKeywords?_of_occurs markable highlight).2 occurs] at unchanged
    contradiction
  · exact fun j member isText => List.mem_append_left _ (highlighting.unlinks j member isText)

/-! ### A text or mark that is replaced -/

section Preceded

variable {grown : Tree} {entries : List Entry}

theorem isInlineText_of_preceded
    (highlighting : Highlighting tree highlight done state new)
    (preceded : Preceded state.tree grown i entries)
    {j : NodeId}
    (inside : j < tree.size)
    {value : String}
    (kindOf : tree.kind j = .text value) :
    grown.isInlineText j = true := by
  rw [isInlineText, preceded.kind (Nat.lt_of_lt_of_le inside highlighting.larger),
    highlighting.kind inside, kindOf]

/-- What is to be taken out with the node is neither text nor a mark. -/
theorem isInlineText_trailing_of_preceded
    (preceded : Preceded state.tree grown i entries)
    {j : NodeId}
    (member : j ∈ state.tree.trailing i) :
    grown.isInlineText j = false := by
  obtain ⟨old, noText⟩ := isInlineText_of_mem_trailing member
  rwa [isInlineText, preceded.kind old]

/-- The nodes that have been put before one stand beside those that were put in before. -/
theorem children_of_preceded
    (highlighting : Highlighting tree highlight done state new)
    (preceded : Preceded state.tree grown i entries)
    (inside : i < tree.size)
    (waiting : i ∉ done)
    (parent : NodeId) :
    grown.children parent = (tree.children parent).flatMap fun j =>
      Function.update new i (List.range' state.tree.size entries.length) j ++ [j] := by
  rw [preceded.children, highlighting.children, List.flatMap_assoc]
  refine List.flatMap_congr fun j _ => ?_
  by_cases here : j = i
  · rw [here, highlighting.untouched i waiting, List.nil_append, List.flatMap_singleton,
      putBefore, if_pos rfl, Function.update_self]
  · have absent : i ∉ new j ++ [j] := by
      rw [List.mem_append, List.mem_singleton, not_or]
      exact ⟨fun member => Nat.not_lt.2 (highlighting.fresh j i member).1 inside,
        fun same => here same.symm⟩
    rw [flatMap_putBefore_of_not_mem absent, Function.update_of_ne here]

theorem fresh_of_preceded
    (highlighting : Highlighting tree highlight done state new)
    (preceded : Preceded state.tree grown i entries)
    (j : NodeId) :
    ∀ k ∈ Function.update new i (List.range' state.tree.size entries.length) j,
      tree.size ≤ k ∧ k < grown.size := by
  by_cases here : j = i
  · rw [here, Function.update_self]
    intro k member
    obtain ⟨low, high⟩ := List.mem_range'_1.1 member
    exact ⟨highlighting.larger.trans low, preceded.size ▸ high⟩
  · rw [Function.update_of_ne here]
    exact fun k member => (highlighting.fresh j k member).imp_right
      fun high => Nat.lt_of_lt_of_le high preceded.size_le

/-- What has been said of the texts before this one still holds. -/
theorem texts_of_preceded
    (highlighting : Highlighting tree highlight done state new)
    (preceded : Preceded state.tree grown i entries)
    (waiting : i ∉ done)
    {j : NodeId}
    (member : j ∈ done)
    {value : String}
    (kindOf : tree.kind j = .text value) :
    let nodes := Function.update new i (List.range' state.tree.size entries.length) j
    let unlinks := state.unlinks ++ i :: state.tree.trailing i
    (¬ Mark.Occurs highlight.mode (highlight.keywords.map String.toList) value.toList →
      nodes = [] ∧ j ∉ unlinks) ∧
    (Mark.Occurs highlight.mode (highlight.keywords.map String.toList) value.toList →
      nodes.map grown.kind = (highlight.stretches
        (highlight.enclose highlight.spanType.toList value.toList)).map Inline.kind ∧
      j ∈ unlinks) := by
  intro nodes unlinks
  obtain ⟨kept, replaced⟩ := highlighting.texts j member value kindOf
  have other : j ≠ i := ne_of_mem_of_not_mem member waiting
  have nodesEq : nodes = new j := Function.update_of_ne other ..
  have apart : j ∉ i :: state.tree.trailing i := by
    rw [List.mem_cons, not_or]
    refine ⟨other, fun later => ?_⟩
    have isText := highlighting.isInlineText_of_preceded preceded (highlighting.old j member) kindOf
    rw [isInlineText_trailing_of_preceded preceded later] at isText
    contradiction
  have sameKinds : (new j).map grown.kind = (new j).map state.tree.kind :=
    List.map_congr_left fun k listed => preceded.kind (highlighting.fresh j k listed).2
  rw [nodesEq, sameKinds, List.mem_append]
  exact ⟨fun absent => (kept absent).imp_right fun gone => not_or.2 ⟨gone, apart⟩,
    fun found => (replaced found).imp_right .inl⟩

end Preceded

/-- A text or mark that is replaced. -/
theorem replace
    (highlighting : Highlighting tree highlight done state new)
    (forest : tree.IsForest)
    (lies : (tree.node i).parent ≠ none)
    (waiting : i ∉ done)
    {unlinks : List NodeId}
    (split : state.tree.splitAtKeywords? highlight i = some (next, unlinks)) :
    ∃ new, Highlighting tree highlight (done ++ [i])
      ⟨next, state.unlinks ++ unlinks, state.count + 1⟩ new := by
  obtain ⟨text, markable, occurs, rfl, rfl⟩ := exists_text_of_splitAtKeywords? split
  obtain ⟨parent, parentOf⟩ := Option.ne_none_iff_exists'.1 lies
  have inside : i < tree.size := IsForest.lt_of_parent parentOf
  generalize entriesOf : (highlight.stretches (highlight.enclose
    (highlight.typesIn (state.tree.kind i)) text)).flatMap (state.tree.entries i) = entries
  have preceded := highlighting.forest.preceded_insertAll
    (highlighting.parent_ne_none forest lies) entries
  generalize state.tree.insertAll i entries = grown at preceded
  have larger : tree.size ≤ grown.size := highlighting.larger.trans preceded.size_le
  refine ⟨Function.update new i (List.range' state.tree.size entries.length), {
    forest := preceded.forest
    larger
    payload := fun j old => (preceded.payload j (Nat.lt_of_lt_of_le old highlighting.larger)).trans
      (highlighting.payload j old)
    children := highlighting.children_of_preceded preceded inside waiting
    fresh := highlighting.fresh_of_preceded preceded
    old := ?_
    untouched := fun j other => ?_
    texts := ?_
    inside := ?_
    unlinks := ?_ }⟩
  · rw [List.forall_mem_append, List.forall_mem_singleton]
    exact ⟨highlighting.old, inside⟩
  · rw [List.mem_append, List.mem_singleton, not_or] at other
    rw [Function.update_of_ne other.2]
    exact highlighting.untouched j other.1
  · rw [List.forall_mem_append, List.forall_mem_singleton]
    refine ⟨fun j member value => highlighting.texts_of_preceded preceded waiting member,
      fun value kindOf => ?_⟩
    have same := highlighting.kind inside
    rw [kindOf] at same
    rw [same, Kind.markable?, Option.some.injEq] at markable
    subst markable
    refine ⟨fun absent => absurd occurs absent, fun _ => ⟨?_, ?_⟩⟩
    · have added := congrArg (List.map (·.1)) preceded.added
      rw [List.map_map, List.map_map] at added
      rw [Function.update_self]
      refine added.trans ?_
      rw [← entriesOf, entries_of_text same, List.map_map, same]
      rfl
    · exact List.mem_append_right _ List.mem_cons_self
  · rw [List.forall_mem_append, List.forall_mem_cons]
    refine ⟨fun j member => ?_, Nat.lt_of_lt_of_le inside larger, fun j member =>
      Nat.lt_of_lt_of_le (isInlineText_of_mem_trailing member).1 preceded.size_le⟩
    exact Nat.lt_of_lt_of_le (highlighting.inside j member) preceded.size_le
  · rw [List.forall_mem_append, List.forall_mem_cons]
    refine ⟨fun j member isText => ?_, fun _ => by simp, fun j member isText => ?_⟩
    · rw [isInlineText, preceded.kind (highlighting.inside j member)] at isText
      exact List.mem_append_left _ (highlighting.unlinks j member isText)
    · rw [isInlineText_trailing_of_preceded preceded member] at isText
      contradiction

/-- One more text or mark. -/
theorem highlightNode
    (highlighting : Highlighting tree highlight done state new)
    (forest : tree.IsForest)
    (lies : (tree.node i).parent ≠ none)
    (waiting : i ∉ done) :
    ∃ new,
      Highlighting tree highlight (done ++ [i]) (Tree.highlightNode highlight state i) new := by
  obtain ⟨parent, parentOf⟩ := Option.ne_none_iff_exists'.1 lies
  unfold Tree.highlightNode
  cases split : state.tree.splitAtKeywords? highlight i with
  | none => exact ⟨new, highlighting.leave (IsForest.lt_of_parent parentOf) waiting split⟩
  | some result => exact highlighting.replace forest lies waiting split

/-- All texts and marks, one after the other. -/
theorem foldl_highlightNode
    {targets : List NodeId}
    (highlighting : Highlighting tree highlight done state new)
    (forest : tree.IsForest)
    (lie : ∀ i ∈ targets, (tree.node i).parent ≠ none)
    (nodup : (done ++ targets).Nodup) :
    ∃ new, Highlighting tree highlight (done ++ targets)
      (targets.foldl (Tree.highlightNode highlight) state) new := by
  induction targets generalizing done state new with
  | nil => exact ⟨new, by rwa [List.append_nil]⟩
  | cons i targets inductionHypothesis =>
      rw [List.forall_mem_cons] at lie
      have waiting : i ∉ done := fun member =>
        (List.nodup_append.1 nodup).2.2 i member i List.mem_cons_self rfl
      obtain ⟨next, later⟩ := highlighting.highlightNode forest lie.1 waiting
      rw [List.append_cons] at nodup ⊢
      exact inductionHypothesis later lie.2 nodup

end Highlighting

/-- Highlighting a document puts new nodes beside its texts and marks, and then takes these out. -/
theorem IsForest.exists_highlighting
    (forest : tree.IsForest)
    (rooted : root < tree.size)
    (document : tree.isBlockAt root = true)
    (highlight : Highlight) :
    ∃ state new,
      Highlighting tree highlight ((tree.descendants root).filter tree.isInlineText) state new ∧
        Pruned state.tree (tree.highlight highlight).1 state.unlinks := by
  have lie : ∀ i ∈ (tree.descendants root).filter tree.isInlineText,
      (tree.node i).parent ≠ none := fun i member =>
    parent_ne_none_of_isInlineText forest rooted document (List.mem_filter.1 member).1
      (List.mem_filter.1 member).2
  obtain ⟨new, highlighting⟩ := (Highlighting.start forest highlight).foldl_highlightNode forest lie
    ((forest.nodup_descendants rooted).filter _)
  exact ⟨_, new, highlighting, highlighting.forest.pruned_foldl_unlink highlighting.inside⟩

/-! ## What takes the place of a text -/

namespace Highlighting

/-- What stands in the place of a node when the nodes in which keywords occur are taken out. -/
def placed (unlinks : List NodeId) (new : NodeId → List NodeId) (i : NodeId) : List NodeId :=
  (new i ++ [i]).filter fun j => decide (j ∉ unlinks)

variable {result : Tree}

theorem children_pruned
    (highlighting : Highlighting tree highlight done state new)
    (pruned : Pruned state.tree result state.unlinks)
    (i : NodeId) :
    result.children i = (tree.children i).flatMap (placed state.unlinks new) := by
  rw [pruned.children, highlighting.children, List.filter_flatMap]
  rfl

/-- A text in which no keyword occurs stays where it is. -/
theorem placed_of_not_occurs
    (highlighting : Highlighting tree highlight done state new)
    (member : i ∈ done)
    {value : String}
    (kindOf : tree.kind i = .text value)
    (absent : ¬ Mark.Occurs highlight.mode (highlight.keywords.map String.toList) value.toList) :
    placed state.unlinks new i = [i] := by
  obtain ⟨none, kept⟩ := (highlighting.texts i member value kindOf).1 absent
  rw [placed, none, List.nil_append, List.filter_singleton, decide_eq_true kept]
  rfl

/-- A text in which a keyword occurs is replaced by the stretches that are read. -/
theorem map_kind_placed
    (highlighting : Highlighting tree highlight done state new)
    (pruned : Pruned state.tree result state.unlinks)
    (member : i ∈ done)
    {value : String}
    (kindOf : tree.kind i = .text value)
    (occurs : Mark.Occurs highlight.mode (highlight.keywords.map String.toList) value.toList) :
    (placed state.unlinks new i).map result.kind = (highlight.stretches
      (highlight.enclose highlight.spanType.toList value.toList)).map Inline.kind := by
  obtain ⟨kinds, gone⟩ := (highlighting.texts i member value kindOf).2 occurs
  -- The new nodes are texts and marks, and those that are taken out are old.
  have kept : ∀ j ∈ new i, decide (j ∉ state.unlinks) = true := by
    intro j listed
    rw [decide_eq_true_eq]
    intro taken
    have isText : state.tree.isInlineText j = true := by
      have stretch := List.mem_map_of_mem (f := state.tree.kind) listed
      rw [kinds] at stretch
      obtain ⟨stretch, _, same⟩ := List.mem_map.1 stretch
      rw [isInlineText, ← same]
      cases stretch <;> rfl
    exact Nat.not_lt.2 (highlighting.fresh i j listed).1
      (highlighting.old j (highlighting.unlinks j taken isText))
  rw [placed, List.filter_append, List.filter_eq_self.2 kept, List.filter_singleton,
    decide_eq_false (not_not.2 gone), ← kinds]
  simp only [List.append_nil, cond_false]
  exact List.map_congr_left fun j _ => pruned.kind j

end Highlighting

/-! ## Texts that are kept -/

/-- Nodes spell a text, and the marks among them are hits for the marks of a search. -/
structure Spells
    (tree : Tree)
    (nodes : List NodeId)
    (mode : CaseMode)
    (keywords : List (List Char))
    (text : List Char) : Prop where
  /-- The texts of the nodes make up the text. -/
  text : nodes.flatMap (fun i => (tree.kind i).markText) = text
  /-- Every mark encloses an occurrence of a keyword. -/
  marks : ∀ i ∈ nodes, ∀ mark, tree.kind i = .textMark mark →
    mark.types = Highlight.searchType ∧ ∃ behind, Mark.IsHit mode keywords mark.text.toList behind

/-- The nodes for the segments of a text spell it. -/
theorem spells_of_map_kind_eq
    {nodes : List NodeId}
    {mode : CaseMode}
    {keywords : List (List Char)}
    {text : List Char}
    {segments : List Mark.Segment}
    (segmented : Mark.Segmented mode keywords text segments)
    (kinds : nodes.map tree.kind =
      (segments.map (·.stretch Highlight.searchType.toList)).map Inline.kind) :
    tree.Spells nodes mode keywords text := by
  rw [List.map_map] at kinds
  refine ⟨?_, fun i member mark kindOf => ?_⟩
  · rw [← List.flatMap_map, kinds, List.flatMap_map, ← segmented.flatMap_text]
    refine List.flatMap_congr fun segment _ => ?_
    cases segment <;> exact String.toList_ofList
  · have listed : Kind.textMark mark ∈ nodes.map tree.kind := kindOf ▸ List.mem_map_of_mem member
    rw [kinds] at listed
    obtain ⟨segment, segmentMember, same⟩ := List.mem_map.1 listed
    cases segment with
    | plain => contradiction
    | hit hit =>
        obtain rfl := (Kind.textMark.inj same).symm
        refine ⟨String.ofList_toList, ?_⟩
        rw [String.toList_ofList]
        exact segmented.exists_isHit segmentMember

/--
Every text of a document stays if no keyword occurs in it, and else it is replaced by what its
marked text is read as. That is one node for every segment exactly when the marked text is read
as its segments, and then the nodes spell the text. A text that does not name the type of the
marks is read so, unless a hit holds a closing tag.
-/
theorem IsForest.highlight_texts
    (forest : tree.IsForest)
    (rooted : root < tree.size)
    (document : tree.isBlockAt root = true)
    (keywords : List String)
    (mode : CaseMode) :
    let highlight : Highlight := ⟨keywords, mode, Highlight.searchType⟩
    let words := keywords.map String.toList
    let type := Highlight.searchType.toList
    let result := (tree.highlight highlight).1
    ∃ place : NodeId → List NodeId,
      (∀ i, result.children i = (tree.children i).flatMap place) ∧
      ∀ i ∈ tree.descendants root, ∀ value, tree.kind i = .text value →
        let segments := Mark.segments mode words value.toList
        let stretches := highlight.stretches (highlight.enclose type value.toList)
        (¬ Mark.Occurs mode words value.toList → place i = [i] ∧ result.kind i = .text value) ∧
        (Mark.Occurs mode words value.toList →
          (place i).map result.kind = stretches.map Inline.kind) ∧
        (stretches = segments.map (·.stretch type) ↔
          Inline.Reading type (segments.map (·.stretch type))) ∧
        (¬ type <:+: value.toList →
          (∀ segment ∈ segments, segment.isHit = true → ¬ Inline.spanClose <:+: segment.text) →
          Inline.Reading type (segments.map (·.stretch type))) ∧
        (¬ Mark.Occurs mode words value.toList ∨
            Inline.Reading type (segments.map (·.stretch type)) →
          result.Spells (place i) mode words value.toList) := by
  intro highlight words type result
  obtain ⟨state, new, highlighting, pruned⟩ :=
    forest.exists_highlighting rooted document highlight
  refine ⟨Highlighting.placed state.unlinks new, highlighting.children_pruned pruned, ?_⟩
  intro i below value kindOf segments stretches
  have segmented := Mark.segmented_segments mode words value.toList
  have member : i ∈ (tree.descendants root).filter tree.isInlineText :=
    List.mem_filter.2 ⟨below, by rw [isInlineText, kindOf]⟩
  have sameKind : result.kind i = .text value := by
    rw [pruned.kind, highlighting.kind (highlighting.old i member), kindOf]
  have readAgain : stretches = segments.map (·.stretch type) ↔ _ :=
    Highlight.stretches_enclose_eq_iff segmented
  have kept : ¬ Mark.Occurs mode words value.toList →
      Highlighting.placed state.unlinks new i = [i] := fun absent =>
    highlighting.placed_of_not_occurs member kindOf absent
  have replaced : Mark.Occurs mode words value.toList →
      (Highlighting.placed state.unlinks new i).map result.kind = stretches.map Inline.kind :=
    fun occurs => highlighting.map_kind_placed pruned member kindOf occurs
  refine ⟨fun absent => ⟨kept absent, sameKind⟩, replaced, readAgain,
    Highlight.reading_stretch_searchType segmented, fun clean => ?_⟩
  by_cases occurs : Mark.Occurs mode words value.toList
  · have asSegments := readAgain.2 (clean.resolve_left (not_not.2 occurs))
    refine spells_of_map_kind_eq segmented ?_
    rw [replaced occurs, asSegments]
  · rw [kept occurs]
    refine ⟨?_, fun j listed mark markOf => ?_⟩
    · rw [List.flatMap_singleton, sameKind, Kind.markText]
    · rw [List.mem_singleton.1 listed, sameKind] at markOf
      contradiction

/-- A hit that holds a closing tag ends there, and the text is not spelled any more. -/
theorem IsForest.highlight_texts_of_closing_tag :
    let text := "x</span>y"
    let tree := ((Tree.new "d" "b" "/d.sy" "/D").appendNew 0 .paragraph (some "p")).appendNew 1
      (.text text) none
    let result := (tree.highlight ⟨[text], .sensitive, Highlight.searchType⟩).1
    tree.IsForest ∧ root < tree.size ∧ tree.isBlockAt root = true ∧ tree.children 1 = [2] ∧
      tree.kind 2 = .text text ∧
      (result.children 1).map result.kind =
        [.textMark { types := Highlight.searchType, text := "x" }, .text "y</span>"] ∧
      ¬ result.Spells (result.children 1) .sensitive [text.toList] text.toList := by
  intro text tree result
  have forest : tree.IsForest :=
    (((Built.new "d" "b" "/d.sy" "/D").appendNew (by decide) .paragraph (some "p")).appendNew
      (by decide) (.text text) none).isForest
  have rooted : root < tree.size := by decide +kernel
  have document : tree.isBlockAt root = true := by decide +kernel
  have child : tree.children 1 = [2] := by decide +kernel
  have kindOf : tree.kind 2 = .text text := by decide +kernel
  have below : 2 ∈ tree.descendants root := by decide +kernel
  have occurs : Mark.Occurs .sensitive ([text].map String.toList) text.toList :=
    ⟨text.toList, List.suffix_rfl, text.toList, by decide, by decide, by decide⟩
  obtain ⟨place, children, places⟩ := forest.highlight_texts rooted document [text] .sensitive
  obtain ⟨_, replaced, _⟩ := places 2 below text kindOf
  have placed : result.children 1 = place 2 := by
    rw [children, child, List.flatMap_singleton]
  have kinds : (result.children 1).map result.kind =
      [.textMark { types := Highlight.searchType, text := "x" }, .text "y</span>"] := by
    rw [placed, replaced occurs]
    decide +kernel
  refine ⟨forest, rooted, document, child, kindOf, kinds, fun spells => ?_⟩
  have spelled := spells.text
  rw [← List.flatMap_map, kinds] at spelled
  exact absurd spelled (by decide)

end Tree
end BlockSearch
