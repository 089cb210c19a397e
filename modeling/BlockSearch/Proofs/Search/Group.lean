import BlockSearch.Proofs.Library.Cache
import BlockSearch.Search.Group
import Mathlib.Data.List.Induction
import Mathlib.Data.String.Basic

/-!
# Documents with the blocks found in them

Every block lies under the entry of its document, once, if the document has a record, and nothing
else lies there. The documents come in the order in which they are first met, and then, like the
blocks under each of them, in the order that is asked for, those with equal keys as before. In
content order the blocks come as a walk of their document meets them. All this is so as long as the
documents can be looked up at once.
-/

namespace BlockSearch

/-! ## Parts -/

namespace Lists

variable {α : Type}

/-- The items with one of several different keys are those with each of them. -/
theorem flatMap_filter_perm
    (key : α → String)
    {names : List String}
    (nodup : names.Nodup)
    (items : List α) :
    (names.flatMap fun name => items.filter (key · == name)).Perm
      (items.filter (key · ∈ names)) := by
  induction names with
  | nil => simp
  | cons name names inductionHypothesis =>
      rw [List.nodup_cons] at nodup
      have split := List.filter_append_perm (key · == name) (items.filter (key · ∈ name :: names))
      rw [List.filter_filter, List.filter_filter] at split
      have front : items.filter (fun item => key item == name && decide (key item ∈ name :: names)) =
          items.filter (key · == name) := by
        refine List.filter_congr fun item _ => ?_
        by_cases here : key item = name <;> simp [here]
      have behind : items.filter
            (fun item => !(key item == name) && decide (key item ∈ name :: names)) =
          items.filter (key · ∈ names) := by
        refine List.filter_congr fun item _ => ?_
        by_cases here : key item = name <;> simp [here, nodup.1]
      rw [front, behind] at split
      rw [List.flatMap_cons]
      exact ((inductionHypothesis nodup.2).append_left _).trans split

end Lists

/-! ## Stable sorts -/

namespace Order

/-- The key of a block comes strictly before that of another; a relevance has no keys. -/
def PrecedesBlock (order : Order) (first second : Block) : Prop :=
  match order with
  | .createdAsc => first.created < second.created
  | .createdDesc => second.created < first.created
  | .updatedAsc => first.updated < second.updated
  | .updatedDesc => second.updated < first.updated
  | .type | .contentOrder => first.sort < second.sort
  | .relevanceAsc | .relevanceDesc => False

instance (order : Order) : DecidableRel order.PrecedesBlock := fun first second =>
  match order with
  | .createdAsc => inferInstanceAs (Decidable (first.created < second.created))
  | .createdDesc => inferInstanceAs (Decidable (second.created < first.created))
  | .updatedAsc => inferInstanceAs (Decidable (first.updated < second.updated))
  | .updatedDesc => inferInstanceAs (Decidable (second.updated < first.updated))
  | .type | .contentOrder => inferInstanceAs (Decidable (first.sort < second.sort))
  | .relevanceAsc | .relevanceDesc => inferInstanceAs (Decidable False)

/-- The keys of two blocks are equal. -/
def Ties (order : Order) (first second : Block) : Prop :=
  ¬ order.PrecedesBlock first second ∧ ¬ order.PrecedesBlock second first

instance (order : Order) : DecidableRel order.Ties := fun _ _ => instDecidableAnd

/-- Some blocks are others in order, and those with equal keys come as before. -/
structure Sorts (order : Order) (blocks sorted : List Block) : Prop where
  /-- They are the same blocks. -/
  perm : sorted.Perm blocks
  /-- No block strictly precedes one that comes before it. -/
  ordered : sorted.Pairwise fun first second => ¬ order.PrecedesBlock second first
  /-- The blocks with the key of a given one come as before. -/
  stable : ∀ block, sorted.filter (order.Ties block ·) = blocks.filter (order.Ties block ·)

variable {order : Order} {first second third : Block}

theorem allowsBlocks_iff :
    order.allowsBlocks first second = true ↔ ¬ order.PrecedesBlock second first := by
  cases order <;> simp [allowsBlocks, PrecedesBlock]

theorem PrecedesBlock.asymm
    (before : order.PrecedesBlock first second) :
    ¬ order.PrecedesBlock second first := by
  cases order
  case relevanceAsc | relevanceDesc => exact id
  all_goals exact lt_asymm before

theorem allowsBlocks_trans
    (early : order.allowsBlocks first second = true)
    (late : order.allowsBlocks second third = true) :
    order.allowsBlocks first third = true := by
  rw [allowsBlocks_iff] at *
  cases order <;> simp only [PrecedesBlock, not_lt, not_false_eq_true] at * <;>
    first
    | exact le_trans early late
    | exact le_trans late early

theorem allowsBlocks_total (order : Order) (first second : Block) :
    (order.allowsBlocks first second || order.allowsBlocks second first) = true := by
  rw [Bool.or_eq_true, allowsBlocks_iff, allowsBlocks_iff, ← not_and_or]
  exact fun ⟨behind, before⟩ => before.asymm behind

theorem Ties.trans_allowsBlocks
    (left : order.Ties third first)
    (right : order.Ties third second) :
    order.allowsBlocks first second = true :=
  allowsBlocks_trans (allowsBlocks_iff.2 left.1) (allowsBlocks_iff.2 right.2)

theorem sorts_sortBlocks (order : Order) (blocks : List Block) :
    order.Sorts blocks (order.sortBlocks blocks) := by
  have perm : (order.sortBlocks blocks).Perm blocks := List.mergeSort_perm _ _
  refine ⟨perm, ?_, fun block => ?_⟩
  · have sorted : (order.sortBlocks blocks).Pairwise
        fun first second => order.allowsBlocks first second = true := by
      apply List.pairwise_mergeSort
      · exact fun _ _ _ => allowsBlocks_trans
      · exact allowsBlocks_total order
    exact sorted.imp allowsBlocks_iff.1
  · -- The blocks with one key are in order as they are, so sorting all blocks keeps them so.
    have tied : (blocks.filter (order.Ties block ·)).Pairwise
        fun first second => order.allowsBlocks first second = true := by
      refine List.pairwise_of_forall_mem_list fun first left second right => ?_
      rw [List.mem_filter, decide_eq_true_iff] at left right
      exact left.2.trans_allowsBlocks right.2
    have kept : (blocks.filter (order.Ties block ·)).Sublist (order.sortBlocks blocks) := by
      apply List.sublist_mergeSort
      · exact fun _ _ _ => allowsBlocks_trans
      · exact allowsBlocks_total order
      · exact tied
      · exact List.filter_sublist
    have among := kept.filter (order.Ties block ·)
    rw [List.filter_filter] at among
    simp only [Bool.and_self] at among
    exact (among.eq_of_length (perm.filter _).length_eq.symm).symm

/-- A relevance leaves all blocks as they are. -/
theorem Sorts.eq_of_isRelevance
    {blocks sorted : List Block}
    (sorts : order.Sorts blocks sorted)
    (relevance : order.isRelevance = true) :
    sorted = blocks := by
  have ties (left right : Block) : order.Ties left right := by
    cases order <;> first | exact ⟨id, id⟩ | cases relevance
  simpa [ties] using sorts.stable default

end Order

/-! ## Places in documents -/

namespace Tree

/-- Of different blocks each has its place in document order. -/
theorem position?_of_nodup
    {tree : Tree}
    (once : tree.blockIds.Nodup)
    {id : String}
    (here : id ∈ tree.blockIds) :
    tree.position? id = some (tree.blockIds.idxOf id) := by
  have place := List.idxOf_lt_length_iff.2 here
  have keys : (tree.contentOrder.reverse.map (·.1)).Nodup := by
    rw [List.map_reverse, List.nodup_reverse, contentOrder, List.zipIdx_map_fst]
    exact once
  have found : tree.contentOrder.reverse.find? (·.1 == id) =
      some (id, tree.blockIds.idxOf id) := by
    rw [Lists.find?_eq_some_iff_of_nodup keys, List.mem_reverse, contentOrder,
      List.mk_mem_zipIdx_iff_getElem?, List.getElem?_eq_getElem place, List.getElem_idxOf]
    exact ⟨rfl, rfl⟩
  rw [position?, found]
  rfl

end Tree

namespace Group

variable
  {load : String → Except TreeError Tree}
  {order : Order}
  {blocks : List Block}

/-- The document that one request is given when it asks for some documents in their order. -/
def tree? (load : String → Except TreeError Tree) (asked : List String) (id : String) :
    Option Tree :=
  if id ∈ TreeCache.admitted load TreeCache.requestCapacity asked then (load id).toOption else none

/-- The blocks as they are sorted: in content order the rank of each is its place. -/
def ranked
    (load : String → Except TreeError Tree)
    (order : Order)
    (blocks : List Block) : List Block :=
  if order = .contentOrder then
    blocks.map fun block => withPosition (tree? load (rootIds blocks) block.rootId) block
  else blocks

/-- The documents that have a record, in the order in which the blocks meet them first. -/
def documents (store : Store) (mode : CaseMode) (blocks : List Block) : List Block :=
  (store.findAll (rootIds blocks)).map (Block.ofRecord mode [])

theorem loadAll_eq
    {cache : TreeCache}
    {asked : List String}
    (serves : cache.Serves load asked)
    (ids : List String) :
    loadAll load cache ids =
      ids.map fun id => (id,
        if id ∈ TreeCache.admitted load cache.capacity (asked ++ ids) then
          (load id).toOption else none) := by
  induction ids generalizing cache asked with
  | nil => rfl
  | cons id ids inductionHypothesis =>
      obtain ⟨servesNext, capacity, answer⟩ := serves.get id
      have others := inductionHypothesis servesNext
      have behind : asked ++ [id] ++ ids = asked ++ id :: ids := by simp
      have known : id ∈ TreeCache.admitted load cache.capacity (asked ++ [id] ++ ids) ↔
          id ∈ TreeCache.admitted load cache.capacity (asked ++ [id]) :=
        TreeCache.mem_admitted_append (List.mem_append_right _ List.mem_cons_self) _
      rw [capacity, behind] at others
      rw [behind] at known
      rw [loadAll, List.map_cons]
      simp only [others, answer, known]

theorem withPositions_eq
    (answer : String → Option Tree)
    (ids : List String)
    (blocks : List Block) :
    withPositions (ids.map fun id => (id, answer id)) blocks =
      blocks.map fun block =>
        if block.rootId ∈ ids then withPosition (answer block.rootId) block else block := by
  refine List.map_congr_left fun block _ => ?_
  rw [List.find?_map]
  cases found : ids.find? ((fun entry : String × Option Tree => entry.1 == block.rootId) ∘
      fun id => (id, answer id)) with
  | none =>
      have absent : block.rootId ∉ ids := fun member =>
        List.find?_eq_none.1 found _ member (by simp)
      simp [absent]
  | some id =>
      have same : id = block.rootId := by simpa using List.find?_some found
      have member : block.rootId ∈ ids := same ▸ List.mem_of_find?_eq_some found
      simp [same, member]

theorem mem_rootIds
    {block : Block}
    (member : block ∈ blocks) :
    block.rootId ∈ rootIds blocks :=
  mem_distinct.2 (List.mem_map_of_mem member)

/-- The entries of documents that are in the order in which they are first met. -/
def entries
    (load : String → Except TreeError Tree)
    (order : Order)
    (blocks documents : List Block) : List Entry :=
  (if order = .contentOrder then documents else order.sortBlocks documents).map
    (entry order (ranked load order blocks))

/-- Every document is given the ranked blocks that lie in it, if the documents are looked up. -/
theorem byDocument_eq
    (store : Store)
    (load : String → Except TreeError Tree)
    (mode : CaseMode)
    (order : Order)
    (blocks : List Block) :
    byDocument store load mode order blocks =
      if (rootIds blocks).length ≤ Store.lookUpLimit then
        .ok (entries load order blocks (documents store mode blocks))
      else .error .statement := by
  have places : withPositions (loadAll load .forRequest (rootIds blocks)) blocks =
      blocks.map fun block => withPosition (tree? load (rootIds blocks) block.rootId) block := by
    rw [loadAll_eq (.forRequest load), withPositions_eq]
    refine List.map_congr_left fun block member => ?_
    rw [if_pos (mem_rootIds member)]
    rfl
  rw [byDocument, places, Store.lookUp?]
  by_cases few : (rootIds blocks).length ≤ Store.lookUpLimit
  · rw [if_pos few, if_pos few, entries, ranked]
    split_ifs <;> rfl
  · rw [if_neg few, if_neg few]

/-! ## Ranks -/

theorem rootId_mem_of_mem_ranked
    {block : Block}
    (member : block ∈ ranked load order blocks) :
    block.rootId ∈ rootIds blocks := by
  rw [ranked] at member
  split_ifs at member
  · obtain ⟨block, here, rfl⟩ := List.mem_map.1 member
    exact (mem_rootIds here : block.rootId ∈ rootIds blocks)
  · exact mem_rootIds member

/-- In content order the rank of a block is its place in the document that the cache gives. -/
theorem sort_of_mem_ranked
    {block : Block}
    (member : block ∈ ranked load .contentOrder blocks) :
    block.sort = (((tree? load (rootIds blocks) block.rootId).bind fun tree =>
      tree.position? block.id).getD 0 : Nat) := by
  obtain ⟨block, -, rfl⟩ := List.mem_map.1 (by simpa [ranked] using member)
  rfl

/-! ## Documents -/

variable {store : Store} {mode : CaseMode}

theorem documents_map_id :
    (documents store mode blocks).map Block.id =
      (rootIds blocks).filter (· ∈ store.blocks.map Record.id) := by
  have once : distinct (rootIds blocks) = rootIds blocks := by
    simpa [rootIds] using distinct_filterMap_distinct some (blocks.map Block.rootId)
  rw [documents, Store.findAll, once, List.map_map, List.map_filterMap, ← List.filterMap_eq_filter]
  refine List.filterMap_congr fun id _ => ?_
  cases found : store.find? id with
  | none =>
      have absent : id ∉ store.blocks.map Record.id := by
        simpa [Store.find?] using found
      simp [absent, Option.guard]
  | some record =>
      have same : record.id = id := by simpa using List.find?_some found
      have here : id ∈ store.blocks.map Record.id :=
        same ▸ List.mem_map_of_mem (List.mem_of_find?_eq_some found)
      simp only [Option.guard, here]
      simp [Block.ofRecord, same]

/-! ## Entries -/

/-- Some entries are the documents that some blocks lie in, with these blocks below them. -/
structure Groups
    (store : Store)
    (load : String → Except TreeError Tree)
    (mode : CaseMode)
    (order : Order)
    (blocks : List Block)
    (entries : List Entry) : Prop where
  /-- No two entries are for one document. -/
  nodup : (entries.map (·.block.id)).Nodup
  /-- There is an entry for a document that has a record and that some block lies in. -/
  mem_iff : ∀ id, id ∈ entries.map (·.block.id) ↔
    id ∈ blocks.map Block.rootId ∧ id ∈ store.blocks.map Record.id
  /-- The documents come in the order in which they are first met, -/
  firstMet : ((documents store mode blocks).map Block.id).Pairwise fun first second =>
    (blocks.map Block.rootId).idxOf first < (blocks.map Block.rootId).idxOf second
  /-- and then in the order that is asked for, -/
  sorted : order ≠ .contentOrder →
    order.Sorts (documents store mode blocks) (entries.map Entry.block)
  /-- which changes nothing in content order or with a relevance. -/
  unsorted : order = .contentOrder ∨ order.isRelevance = true →
    entries.map Entry.block = documents store mode blocks
  /-- Below a document its blocks come in the order that is asked for, -/
  children : ∀ entry ∈ entries,
    order.Sorts ((ranked load order blocks).filter (·.rootId = entry.block.id)) entry.children
  /-- and with a relevance as they were. -/
  unsortedChildren : order.isRelevance = true → ∀ entry ∈ entries,
    entry.children = blocks.filter (·.rootId = entry.block.id)
  /-- Every block of a document that has a record lies below one entry, once, and no other does. -/
  complete : (entries.flatMap Entry.children).Perm
    ((ranked load order blocks).filter (·.rootId ∈ store.blocks.map Record.id))
  /-- In content order the blocks that are in a document come as they are met there. -/
  inDocument : order = .contentOrder → ∀ entry ∈ entries, ∀ tree,
    tree? load (rootIds blocks) entry.block.id = some tree → tree.blockIds.Nodup →
      (entry.children.filter (·.id ∈ tree.blockIds)).Pairwise fun first second =>
        tree.blockIds.idxOf first.id ≤ tree.blockIds.idxOf second.id

/-- In content order blocks in order of their ranks come as their document has them. -/
theorem pairwise_of_sorts_ranked
    {id : String}
    {tree : Tree}
    (given : tree? load (rootIds blocks) id = some tree)
    (once : tree.blockIds.Nodup)
    {children : List Block}
    (sorts : Order.contentOrder.Sorts
      ((ranked load .contentOrder blocks).filter (·.rootId = id)) children) :
    (children.filter (·.id ∈ tree.blockIds)).Pairwise fun first second =>
      tree.blockIds.idxOf first.id ≤ tree.blockIds.idxOf second.id := by
  have place (child : Block) (member : child ∈ children.filter (·.id ∈ tree.blockIds)) :
      child.sort = (tree.blockIds.idxOf child.id : Nat) := by
    rw [List.mem_filter, sorts.perm.mem_iff, List.mem_filter, decide_eq_true_iff,
      decide_eq_true_iff] at member
    obtain ⟨⟨here, rfl⟩, found⟩ := member
    rw [sort_of_mem_ranked here, given, Option.bind_some, Tree.position?_of_nodup once found,
      Option.getD_some]
  refine (sorts.ordered.filter _).imp_of_mem fun {first second} left right ordered => ?_
  have ranks : first.sort ≤ second.sort := Int.not_lt.1 ordered
  rw [place first left, place second right] at ranks
  exact Int.ofNat_le.1 ranks

/-- The blocks below the entries for some documents are those that lie in them. -/
theorem flatMap_children_perm
    (order : Order)
    (blocks : List Block)
    {roots : List Block}
    (nodup : (roots.map Block.id).Nodup) :
    ((roots.map (entry order blocks)).flatMap Entry.children).Perm
      (blocks.filter (·.rootId ∈ roots.map Block.id)) := by
  have parts := Lists.flatMap_filter_perm Block.rootId nodup blocks
  rw [List.flatMap_map] at parts ⊢
  refine (List.Perm.flatMap_left roots fun root _ => ?_).trans parts
  exact (order.sorts_sortBlocks _).perm

/-- The entries of the documents that have a record are these documents with their blocks. -/
theorem groups_entries
    (store : Store)
    (load : String → Except TreeError Tree)
    (mode : CaseMode)
    (order : Order)
    (blocks : List Block) :
    Groups store load mode order blocks
      (entries load order blocks (documents store mode blocks)) := by
  let roots := if order = .contentOrder then documents store mode blocks
    else order.sortBlocks (documents store mode blocks)
  have perm : roots.Perm (documents store mode blocks) := by
    simp only [roots]
    split_ifs
    · exact .refl _
    · exact (order.sorts_sortBlocks _).perm
  have names : (roots.map Block.id).Perm
      ((rootIds blocks).filter (· ∈ store.blocks.map Record.id)) :=
    documents_map_id ▸ perm.map Block.id
  have nodup : (roots.map Block.id).Nodup :=
    names.nodup_iff.2 ((nodup_distinct _).filter _)
  have shown : (entries load order blocks (documents store mode blocks)).map Entry.block =
      roots := by
    rw [entries, List.map_map]
    exact List.map_id roots
  have ids : (entries load order blocks (documents store mode blocks)).map (·.block.id) =
      roots.map Block.id := by
    rw [← shown, List.map_map]
    rfl
  have sorted : order ≠ .contentOrder →
      order.Sorts (documents store mode blocks) roots := fun other => by
    simp only [roots, if_neg other]
    exact order.sorts_sortBlocks _
  have children : ∀ entry ∈ entries load order blocks (documents store mode blocks), order.Sorts
      ((ranked load order blocks).filter (·.rootId = entry.block.id)) entry.children := by
    rw [entries, List.forall_mem_map]
    intro root _
    simp only [entry, beq_eq_decide]
    exact order.sorts_sortBlocks _
  refine ⟨ids ▸ nodup, fun id => ?_, ?_, fun other => shown ▸ sorted other, ?_, children, ?_, ?_, ?_⟩
  · rw [ids, names.mem_iff, List.mem_filter, rootIds, mem_distinct, decide_eq_true_iff]
  · rw [documents_map_id]
    exact (pairwise_idxOf_distinct _).filter _
  · rw [shown]
    rintro (rfl | relevance)
    · rfl
    · refine (sorted ?_).eq_of_isRelevance relevance
      rintro rfl
      cases relevance
  · intro relevance entry member
    have unranked : ranked load order blocks = blocks := by
      refine if_neg ?_
      rintro rfl
      cases relevance
    rw [(children entry member).eq_of_isRelevance relevance, unranked]
  · rw [entries]
    refine (flatMap_children_perm order _ nodup).trans (.of_eq (List.filter_congr ?_))
    intro block member
    rw [decide_eq_decide, names.mem_iff, List.mem_filter, decide_eq_true_iff]
    exact and_iff_right (rootId_mem_of_mem_ranked member)
  · rintro rfl entry member tree given once
    exact pairwise_of_sorts_ranked given once (children entry member)

/--
Blocks are put under their documents, unless they lie in more documents than can be looked up at
once: then grouping fails.
-/
theorem byDocument_groups
    (store : Store)
    (load : String → Except TreeError Tree)
    (mode : CaseMode)
    (order : Order)
    (blocks : List Block) :
    ((rootIds blocks).length ≤ Store.lookUpLimit →
      ∃ entries, byDocument store load mode order blocks = .ok entries ∧
        Groups store load mode order blocks entries) ∧
    (Store.lookUpLimit < (rootIds blocks).length →
      byDocument store load mode order blocks = .error .statement) := by
  rw [byDocument_eq]
  refine ⟨fun few => ⟨_, if_pos few, groups_entries ..⟩, fun many => if_neg ?_⟩
  exact not_le_of_gt many

/-- Blocks come as in their document, and the block of a document without a record is left out. -/
theorem byDocument_groups_with_missing_document :
    let tree := ((Tree.new "d" "b" "/d.sy" "/D").appendNew 0 .paragraph (some "p")).appendNew 0
      .paragraph (some "q")
    let library : Library := .memory { trees := [tree] }
    let store : Store := ⟨[{ id := "d", rootId := "d" }], []⟩
    let blocks : List Block :=
      [{ id := "q", rootId := "d" }, { id := "x", rootId := "e" }, { id := "p", rootId := "d" }]
    ∃ entries, byDocument store library.load .sensitive .contentOrder blocks = .ok entries ∧
      ∃ entry ∈ entries,
        entry.block.id = "d" ∧ (entry.children.map Block.id).Perm ["q", "p"] ∧
          tree.blockIds = ["d", "p", "q"] ∧
          (entry.children.filter (·.id ∈ tree.blockIds)).Pairwise fun first second =>
            tree.blockIds.idxOf first.id ≤ tree.blockIds.idxOf second.id := by
  intro tree library store blocks
  obtain ⟨entries, grouped, groups⟩ :=
    (byDocument_groups store library.load .sensitive .contentOrder blocks).1 (by decide)
  have there : "d" ∈ entries.map (·.block.id) := (groups.mem_iff "d").2 (by decide)
  obtain ⟨entry, member, name⟩ := List.mem_map.1 there
  have ids : tree.blockIds = ["d", "p", "q"] := by decide +kernel
  have given : tree? library.load (rootIds blocks) "d" = some tree := by decide +kernel
  refine ⟨entries, grouped, entry, member, name, ?_, ids,
    groups.inDocument rfl entry member tree (name.symm ▸ given) (by rw [ids]; decide)⟩
  have same := (groups.children entry member).perm.map Block.id
  rw [name] at same
  exact same.trans (.of_eq (by decide +kernel))

/-- Blocks of one document each, the names of which are of all lengths below a number. -/
def scattered (count : Nat) : List Block :=
  (List.range count).map fun length => { rootId := String.ofList (List.replicate length 'r') }

theorem length_rootIds_scattered (count : Nat) : (rootIds (scattered count)).length = count := by
  let names := (List.range count).map fun length => String.ofList (List.replicate length 'r')
  have once : names.Nodup := by
    refine List.nodup_range.map fun first second same => ?_
    simpa using congrArg (fun name => name.toList.length) same
  have ids : (scattered count).map Block.rootId = names := by
    rw [scattered, List.map_map]
    rfl
  rw [rootIds, ids, length_distinct_of_nodup once fun _ => Iff.rfl, List.length_map,
    List.length_range]

/-- Blocks of one document more than can be looked up at once are not put under the one known. -/
theorem not_groups_of_scattered :
    let store : Store := ⟨[{ id := "r", rootId := "r" }], []⟩
    let load := (Library.memory {}).load
    ¬ ∃ entries,
      byDocument store load .sensitive .relevanceDesc (scattered 32767) = .ok entries ∧
        Groups store load .sensitive .relevanceDesc (scattered 32767) entries := by
  rintro store load ⟨entries, grouped, -⟩
  rw [byDocument_eq, length_rootIds_scattered, if_neg (by decide)] at grouped
  cases grouped

end Group
end BlockSearch
