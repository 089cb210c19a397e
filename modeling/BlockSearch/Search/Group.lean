import BlockSearch.Distinct
import BlockSearch.Index.Store
import BlockSearch.Library.Cache
import BlockSearch.Search.Block
import BlockSearch.Search.Error
import BlockSearch.Search.Request

/-!
# Groups of results

Blocks are put under the documents that they lie in. The documents come in the order in
which they are first met, and then, like the blocks under each of them, in the order that the
request asks for. Grouping fails if the blocks lie in more documents than can be looked up at once.
-/

namespace BlockSearch

/-- A result of a search, with the blocks found under it. -/
structure Entry where
  /-- The block. -/
  block : Block
  /-- The blocks under it. -/
  children : List Block := []
  deriving Repr, Inhabited

namespace Order

/-- Whether a block may stand before another in an order; a relevance leaves all as they are. -/
def allowsBlocks (order : Order) (first second : Block) : Bool :=
  match order with
  | .createdAsc => !(second.created < first.created)
  | .createdDesc => !(first.created < second.created)
  | .updatedAsc => !(second.updated < first.updated)
  | .updatedDesc => !(first.updated < second.updated)
  | .type | .contentOrder => first.sort ≤ second.sort
  | .relevanceAsc | .relevanceDesc => true

/-- Blocks in an order; equal ones stay as they are. -/
def sortBlocks (order : Order) (blocks : List Block) : List Block :=
  blocks.mergeSort order.allowsBlocks

end Order

namespace Group

/-- The documents that some blocks lie in, in the order in which they are first met. -/
def rootIds (blocks : List Block) : List String := distinct (blocks.map Block.rootId)

/-- The block with its place in a document as its rank; zero if it is not there. -/
def withPosition (tree : Option Tree) (block : Block) : Block :=
  { block with sort := ((tree.bind fun tree => tree.position? block.id).getD 0 : Nat) }

/-- The documents with some identifiers, as far as the cache gives them. -/
def loadAll
    (load : String → Except TreeError Tree)
    (cache : TreeCache) : List String → List (String × Option Tree)
  | [] => []
  | id :: ids =>
      let (tree, cache) := cache.get load id
      (id, tree) :: loadAll load cache ids

/-- The blocks with their places in their documents as their ranks. -/
def withPositions (trees : List (String × Option Tree)) (blocks : List Block) : List Block :=
  blocks.map fun block =>
    match trees.find? (·.1 == block.rootId) with
    | some (_, tree) => withPosition tree block
    | none => block

/-- The entry of a document with the blocks that lie in it. -/
def entry (order : Order) (blocks : List Block) (root : Block) : Entry where
  block := root
  children := order.sortBlocks (blocks.filter (·.rootId == root.id))

/-- The blocks under their documents; a document that is not in the store is left out. -/
def byDocument
    (store : Store)
    (load : String → Except TreeError Tree)
    (mode : CaseMode)
    (order : Order)
    (blocks : List Block) : Except SearchError (List Entry) :=
  let ids := rootIds blocks
  let blocks :=
    if order = .contentOrder then withPositions (loadAll load .forRequest ids) blocks else blocks
  match store.lookUp? ids with
  | none => .error .statement
  | some records =>
      let roots := records.map (Block.ofRecord mode [])
      let roots := if order = .contentOrder then roots else order.sortBlocks roots
      .ok (roots.map (entry order blocks))

end Group
end BlockSearch
