import BlockSearch.Index.Derivation

/-!
# The store of blocks

The store holds the records of blocks, in the order in which they came in, and the
references between blocks. An identifier belongs to one record.
-/

namespace BlockSearch

/-- What is known about blocks and references. -/
structure Store where
  /-- The records, the latest last. -/
  blocks : List Record := []
  /-- The references, the latest last. -/
  references : List Reference := []
  deriving DecidableEq, Repr, Inhabited

namespace Store

/-- Put in a record, which takes the place of the one with its identifier. -/
def insert (store : Store) (record : Record) : Store :=
  { store with blocks := store.blocks.filter (·.id != record.id) ++ [record] }

/-- Put in a reference. -/
def insertReference (store : Store) (reference : Reference) : Store :=
  { store with references := store.references ++ [reference] }

/-- Take out all records of a document. -/
def removeDocument (store : Store) (rootId : String) : Store :=
  { store with blocks := store.blocks.filter (·.rootId != rootId) }

/--
Replace the records of a document by those of its tree, and count these. There is no result
when an identifier has no creation time.
-/
def index? (store : Store) (tree : Tree) : Option (Store × Nat) :=
  tree.records?.map fun records =>
    (records.foldl insert (store.removeDocument tree.id), records.length)

/-- The record with an identifier. -/
def find? (store : Store) (id : String) : Option Record := store.blocks.find? (·.id == id)

/-- The records with some identifiers, in the order in which the identifiers come first. -/
def findAll (store : Store) (ids : List String) : List Record :=
  (distinct ids).filterMap store.find?

/-- Most identifiers that can be looked up at once. -/
def lookUpLimit : Nat := 32766

/-- The records with some identifiers, which are looked up at once unless there are too many. -/
def lookUp? (store : Store) (ids : List String) : Option (List Record) :=
  if ids.length ≤ lookUpLimit then some (store.findAll ids) else none

/-- Most blocks that are offered as targets of recent references. -/
def recentLimit : Nat := 32

/-- The references with their row numbers, which are given from one on as references come in. -/
def numberedReferences (store : Store) : List (Reference × Nat) := store.references.zipIdx 1

/-- The greatest row number among the references to a target. -/
def latestNumber (store : Store) (target : String) : Nat :=
  ((store.numberedReferences.filter (·.1.defBlockId == target)).map Prod.snd).foldl max 0

/-- The references grouped by target, every target with the greatest row number of its group. -/
def targetGroups (store : Store) : List (String × Nat) :=
  (distinct (store.references.map Reference.defBlockId)).map fun target =>
    (target, store.latestNumber target)

/-- The targets of references, the one with the greatest row number first. -/
def recentTargets (store : Store) : List String :=
  ((store.targetGroups.mergeSort fun first second => second.2 ≤ first.2).take recentLimit).map
    Prod.fst

/-- The text of a reference to a block: the name of the block, or else its content. -/
def anchorText (store : Store) (id : String) : String :=
  match store.find? id with
  | some record => if record.name.isEmpty then record.content else record.name
  | none => ""

/-- Whether a notebook has a document with a path made of titles. -/
def hasDocument (store : Store) (box hpath : String) : Bool :=
  store.blocks.any fun record =>
    record.type == "d" && record.box == box && record.hpath == hpath

end Store
end BlockSearch
