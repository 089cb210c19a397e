import BlockSearch.Proofs.Forest.History
import BlockSearch.Proofs.Library.History
import BlockSearch.Proofs.Replace.Batch
import BlockSearch.Proofs.Replace.Walks

/-!
# Blocks inside other blocks

A replacement that ends well has rewritten every node once for every named block that the
node lies in. Nodes outside all of them keep their texts. A node that lies in several named
blocks is rewritten several times, so its texts are those of a single replacement only when
the replacement changes nothing in its own result.
-/

namespace BlockSearch

/-! ## Texts -/

namespace Kind

/-- The texts that a node holds outside of inline code. -/
def texts : Kind → List String
  | .text value => [value]
  | .linkText value => [value]
  | .linkDest dest => [dest]
  | .linkTitle title => [title]
  | .codeBlock _ code => [code]
  | .mathBlock content => [content]
  | .textMark mark =>
      (if mark.hasType "code" then [] else [mark.text]) ++
        [mark.formula, mark.memo, mark.title, mark.href]
  | _ => []

theorem texts_rewrite
    (replacer : Replacer)
    (kind : Kind) :
    (replacer.rewrite kind).texts = kind.texts.map replacer.apply := by
  cases kind with
  | textMark mark =>
      have sameType : (replacer.rewriteMark mark).hasType "code" = mark.hasType "code" := rfl
      rw [Replacer.rewrite, texts, texts, sameType]
      by_cases code : mark.hasType "code" <;> simp [Replacer.rewriteMark, code]
  | _ => rfl

theorem texts_iterate_rewrite
    (replacer : Replacer)
    (times : Nat)
    (kind : Kind) :
    (replacer.rewrite^[times] kind).texts = kind.texts.map replacer.apply^[times] := by
  induction times generalizing kind with
  | zero => exact (List.map_id _).symm
  | succ times inductionHypothesis =>
      rw [Function.iterate_succ_apply, inductionHypothesis, texts_rewrite, List.map_map]
      rfl

end Kind

/-! ## Named blocks -/

namespace Engine

/-- The document that a block is rewritten in. -/
def treeOf? (engine : Engine) (id : String) : Option Tree :=
  (engine.store.rootOf? id).bind fun rootId => (engine.library.load rootId).toOption

/-- The node of a document that an identifier names. -/
def nodeIn? (engine : Engine) (tree : Tree) (id : String) : Option NodeId :=
  if engine.treeOf? id = some tree then tree.findBlock? id else none

/-- The nodes of a document that some identifiers name. -/
def namedIn (engine : Engine) (ids : List String) (tree : Tree) : List NodeId :=
  (distinct ids).filterMap (engine.nodeIn? tree)

/-- How many of the named nodes of a document have a node in their subtree. -/
def timesNamed (engine : Engine) (ids : List String) (tree : Tree) (i : NodeId) : Nat :=
  (engine.namedIn ids tree).countP fun block => decide (i ∈ tree.descendants block)

/-- Two identifiers do not name the same node. -/
theorem nodup_namedIn
    (engine : Engine)
    (ids : List String)
    (tree : Tree) :
    (engine.namedIn ids tree).Nodup := by
  have own : ∀ id block, engine.nodeIn? tree id = some block →
      (tree.node block).id = some id := by
    intro id block named
    rw [nodeIn?] at named
    split_ifs at named
    simpa using List.find?_some named
  apply (nodup_distinct ids).filterMap
  intro id other block left right
  have same := (own id block left).symm.trans (own other block right)
  exact Option.some.inj same

/-- The named nodes of a document are nodes of it. -/
theorem lt_of_mem_namedIn
    {engine : Engine}
    {ids : List String}
    {tree : Tree}
    (forest : tree.IsForest)
    {block : NodeId}
    (named : block ∈ engine.namedIn ids tree) :
    block < tree.size := by
  obtain ⟨id, _, found⟩ := List.mem_filterMap.1 named
  rw [nodeIn?] at found
  split_ifs at found
  have below := List.mem_of_find?_eq_some found
  by_cases empty : 0 < tree.size
  · exact forest.lt_of_mem_descendants empty below
  · rw [Tree.descendants, Nat.eq_zero_of_not_pos empty] at below
    contradiction

/-- The walks of a group over its document are the walks over the blocks that it names. -/
theorem walked_membersOf
    {engine : Engine}
    (sound : engine.library.Sound)
    {id : String}
    {tree : Tree}
    (loaded : engine.library.load id = .ok tree)
    (ids : List String)
    (rootId : String) :
    (if engine.library.idOf? rootId = some tree.id then
        tree.walked (engine.store.membersOf ids rootId) else []) =
      ((engine.store.membersOf ids rootId).filterMap (engine.nodeIn? tree)).flatMap
        tree.descendants := by
  have root : ∀ id ∈ engine.store.membersOf ids rootId,
      engine.treeOf? id = (engine.library.load rootId).toOption := by
    intro id member
    have same : engine.store.rootOf? id = some rootId := by
      simpa using (List.mem_filter.1 member).2
    rw [treeOf?, same, Option.bind_some]
  split_ifs with here
  · rw [Tree.walked]
    congr 1
    apply List.filterMap_congr
    intro id member
    obtain ⟨other, found, same⟩ := Option.map_eq_some_iff.1 here
    cases otherLoaded : engine.library.load rootId with
    | error error =>
        rw [otherLoaded] at found
        cases found
    | ok third =>
        rw [otherLoaded] at found
        cases found
        rw [nodeIn?, root id member, otherLoaded, ← sound.eq_of_id otherLoaded loaded same]
        exact (if_pos rfl).symm
  · symm
    rw [List.flatMap_eq_nil_iff]
    intro block named
    obtain ⟨id, member, found⟩ := List.mem_filterMap.1 named
    rw [nodeIn?] at found
    split_ifs at found with same
    rw [root id member] at same
    exact absurd (by rw [Library.idOf?, same]; rfl) here

/-- A node is walked over once for every named block that it lies in. -/
theorem count_walkedIn
    {engine : Engine}
    (sound : engine.library.Sound)
    {ids : List String}
    (recorded : ∀ id ∈ ids, engine.store.find? id ≠ none)
    {id : String}
    {tree : Tree}
    (loaded : engine.library.load id = .ok tree)
    (i : NodeId) :
    (walkedIn engine.library (engine.store.membersOf (distinct ids)) (engine.store.rootsOf ids)
      tree).count i = engine.timesNamed ids tree i := by
  have recordedDistinct : ∀ id ∈ distinct ids, engine.store.find? id ≠ none :=
    fun id member => recorded id (mem_distinct.1 member)
  have groups := Store.flatMap_membersOf_perm recordedDistinct
  rw [Store.rootsOf_distinct] at groups
  have walks : walkedIn engine.library (engine.store.membersOf (distinct ids))
      (engine.store.rootsOf ids) tree =
        (((engine.store.rootsOf ids).flatMap (engine.store.membersOf (distinct ids))).filterMap
          (engine.nodeIn? tree)).flatMap tree.descendants := by
    rw [walkedIn, List.filterMap_flatMap, List.flatMap_assoc]
    exact List.flatMap_congr fun rootId _ => walked_membersOf sound loaded _ rootId
  have forest := sound.isForest loaded
  rw [walks, ((groups.filterMap _).flatMap_right _).count_eq]
  apply Lists.count_flatMap
  intro block named
  exact forest.nodup_descendants (lt_of_mem_namedIn forest named)

/-- A node is rewritten at all when a named block holds it. -/
theorem timesNamed_pos_iff
    {engine : Engine}
    {ids : List String}
    {tree : Tree}
    (forest : tree.IsForest)
    {i : NodeId} :
    0 < engine.timesNamed ids tree i ↔ ∃ block ∈ engine.namedIn ids tree, tree.Holds block i := by
  rw [timesNamed, List.countP_pos_iff]
  refine exists_congr fun block => and_congr_right fun named => ?_
  rw [decide_eq_true_iff, forest.mem_descendants (lt_of_mem_namedIn forest named)]

/-- A node that is rewritten more than once lies in a named block within another one. -/
theorem timesNamed_le_one
    {engine : Engine}
    {ids : List String}
    {tree : Tree}
    (forest : tree.IsForest)
    (apart : ∀ block ∈ engine.namedIn ids tree, ∀ other ∈ engine.namedIn ids tree,
      tree.Holds block other → block = other)
    (i : NodeId) :
    engine.timesNamed ids tree i ≤ 1 := by
  by_contra several
  rw [Nat.not_le, timesNamed] at several
  obtain ⟨block, named, other, otherNamed, different, left, right⟩ :=
    Lists.exists_two_of_one_lt_countP (engine.nodup_namedIn ids tree) several
  rw [decide_eq_true_iff, forest.mem_descendants (lt_of_mem_namedIn forest named)] at left
  rw [decide_eq_true_iff, forest.mem_descendants (lt_of_mem_namedIn forest otherNamed)] at right
  rcases Tree.IsForest.holds_or_holds left right with path | path
  · exact different (apart block named other otherNamed path)
  · exact different (apart other otherNamed block named path).symm

/-! ## Replacements -/

/-- Every text in the named blocks is what a single replacement makes of it. -/
def ReplacedOnce
    (engine : Engine)
    (replacer : Replacer)
    (ids : List String)
    (tree after : Tree) : Prop :=
  ∀ i, (∃ block ∈ engine.namedIn ids tree, tree.Holds block i) →
    (after.kind i).texts = (tree.kind i).texts.map replacer.apply

/--
A replacement that ends well rewrites every node of a document once for every named block
that holds it. So the nodes outside of all named blocks stay what they are, and the texts in
these are replaced once exactly when replacing them as often as their nodes are held leads
no further. When no named block holds another one, that is the case.
-/
theorem replace_once_per_named_block
    {engine final : Engine}
    {request : Replacement}
    {replacer : Replacer}
    {summary : ReplacementSummary}
    (sound : engine.library.Sound)
    (supported :
      Replacer.ofMethod? request.keyword request.replacement request.method = some replacer)
    (different : request.keyword ≠ request.replacement)
    (done : engine.replace request = (.ok summary, final))
    {rootId : String}
    {tree : Tree}
    (loaded : engine.library.load rootId = .ok tree) :
    ∃ after, final.library.load rootId = .ok after ∧
      Tree.SameLinks tree after ∧
      (∀ i, (after.node i).id = (tree.node i).id) ∧
      (∀ i, after.kind i =
        replacer.rewrite^[engine.timesNamed request.ids tree i] (tree.kind i)) ∧
      (∀ i, (after.kind i).texts =
        (tree.kind i).texts.map replacer.apply^[engine.timesNamed request.ids tree i]) ∧
      (∀ i, (¬ ∃ block ∈ engine.namedIn request.ids tree, tree.Holds block i) →
        after.kind i = tree.kind i) ∧
      (engine.ReplacedOnce replacer request.ids tree after ↔
        ∀ i, 2 ≤ engine.timesNamed request.ids tree i → ∀ text ∈ (tree.kind i).texts,
          replacer.apply^[engine.timesNamed request.ids tree i] text = replacer.apply text) ∧
      ((∀ block ∈ engine.namedIn request.ids tree, ∀ other ∈ engine.namedIn request.ids tree,
          tree.Holds block other → block = other) →
        engine.ReplacedOnce replacer request.ids tree after) := by
  have recorded := recorded_of_replace supported different done
  obtain ⟨after, loadedAfter, retitled⟩ := replace_loads sound supported different done loaded
  have forest := sound.isForest loaded
  have reworded := Tree.reworded_foldl_rewriteNode replacer tree
    (walkedIn engine.library (engine.store.membersOf (distinct request.ids))
      (engine.store.rootsOf request.ids) tree)
  have kinds : ∀ i, after.kind i =
      replacer.rewrite^[engine.timesNamed request.ids tree i] (tree.kind i) := by
    intro i
    rw [retitled.kind, Tree.kind_foldl_rewriteNode, count_walkedIn sound recorded loaded]
  have texts : ∀ i, (after.kind i).texts =
      (tree.kind i).texts.map replacer.apply^[engine.timesNamed request.ids tree i] := by
    intro i
    rw [kinds, Kind.texts_iterate_rewrite]
  have exact : engine.ReplacedOnce replacer request.ids tree after ↔
      ∀ i, 2 ≤ engine.timesNamed request.ids tree i → ∀ text ∈ (tree.kind i).texts,
        replacer.apply^[engine.timesNamed request.ids tree i] text = replacer.apply text := by
    refine forall_congr' fun i => ?_
    rw [← timesNamed_pos_iff forest, texts, List.map_inj_left]
    -- Being rewritten once is being replaced once, so only the nodes held twice matter.
    generalize engine.timesNamed request.ids tree i = times
    match times with
    | 0 => simp
    | 1 => simp
    | times + 2 => simp
  refine ⟨after, loadedAfter, reworded.links.trans retitled.links,
    fun i => (retitled.ids i).trans (reworded.ids i), kinds, texts, fun i outside => ?_, exact,
    fun apart => exact.2 fun i several => ?_⟩
  · rw [← timesNamed_pos_iff forest, Nat.not_lt, Nat.le_zero] at outside
    rw [kinds, outside, Function.iterate_zero, id]
  · exact absurd (timesNamed_le_one forest apart i) (Nat.not_le_of_lt several)

/-- A list item and its paragraph are both named, and the text of the paragraph is doubled twice. -/
theorem replace_once_per_named_block_in_list_item :
    let tree := (((Tree.new "d" "b" "/d.sy" "/D").appendNew 0 .listItem (some "i")).appendNew 1
      .paragraph (some "p")).appendNew 2 (.text "a") none
    let engine : Engine :=
      { store := { blocks := [{ id := "i", rootId := "d" }, { id := "p", rootId := "d" }] }
        library := .memory { trees := [tree] } }
    let request : Replacement := { keyword := "a", replacement := "aa", ids := ["i", "p"] }
    let replacer : Replacer := .literal "a".toList "aa".toList
    engine.library.Sound ∧
      Replacer.ofMethod? request.keyword request.replacement request.method = some replacer ∧
      request.keyword ≠ request.replacement ∧
      engine.library.load "d" = .ok tree ∧
      ∃ summary final after, engine.replace request = (.ok summary, final) ∧
        final.library.load "d" = .ok after ∧
        (after.kind 3).texts = ["aaaa"] ∧
        ¬ engine.ReplacedOnce replacer request.ids tree after := by
  intro tree engine request replacer
  have forest : tree.IsForest :=
    ((((Tree.Built.new "d" "b" "/d.sy" "/D").appendNew (by decide) .listItem (some "i")).appendNew
      (by decide) .paragraph (some "p")).appendNew (by decide) (.text "a") none).isForest
  have sound : engine.library.Sound := (Library.Written.put (.memory [] []) forest).sound
  have different : request.keyword ≠ request.replacement := by decide
  have loaded : engine.library.load "d" = .ok tree := by rfl
  have recorded : ∀ id ∈ request.ids, engine.store.find? id ≠ none := by decide
  have roots : engine.store.rootsOf request.ids = ["d"] := by decide
  have accepts : ∀ rootId ∈ engine.store.rootsOf request.ids,
      Shelf.Accepts { trees := [tree] } rootId := by
    intro rootId member
    rw [roots, List.mem_singleton] at member
    rw [member]
    exact ⟨by decide, by decide⟩
  obtain ⟨summary, final, result, _⟩ := replaceGroups_of_accepts (rfl : engine.wait.library = _)
    replacer (engine.store.nodup_rootsOf request.ids) accepts
    (engine.store.membersOf (distinct request.ids)) (1 < (distinct request.ids).length)
  have done := (replace_of_recorded rfl different recorded).trans result
  have twice : engine.timesNamed request.ids tree 3 = 2 := by decide
  have doubled : replacer.apply^[2] "a" = "aaaa" := by decide +kernel
  have once : replacer.apply "a" = "aa" := by decide +kernel
  obtain ⟨after, loadedAfter, _, _, _, texts, _, exact, _⟩ :=
    replace_once_per_named_block sound rfl different done loaded
  refine ⟨sound, rfl, different, loaded, summary, final, after, done, loadedAfter, ?_,
    fun replaced => ?_⟩
  · rw [texts, twice]
    exact congrArg (fun text => [text]) doubled
  · have same := exact.1 replaced 3 (Nat.le_of_eq twice.symm) "a" (by decide)
    rw [twice, doubled, once] at same
    exact absurd same (by decide)

end Engine
end BlockSearch
