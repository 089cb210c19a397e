import BlockSearch.Library.Basic

/-!
# Cached documents

A cache keeps the first documents that could be loaded, up to its capacity. When it is full
it loads nothing more, and it never gives up a document.
-/

namespace BlockSearch

/-- Documents that are kept for further use. -/
structure TreeCache where
  /-- Most documents kept. -/
  capacity : Nat
  /-- The documents, by the identifier that was asked for, the latest first. -/
  trees : List (String × Tree) := []
  deriving DecidableEq, Repr, Inhabited

namespace TreeCache

/-- Most documents kept while one request is answered. -/
def requestCapacity : Nat := 128

/-- The empty cache for one request. -/
def forRequest : TreeCache := ⟨requestCapacity, []⟩

/-- The document kept for an identifier. -/
def kept? (cache : TreeCache) (id : String) : Option Tree :=
  (cache.trees.find? (·.1 == id)).map (·.2)

/-- Whether a document would be loaded: it is not kept, and there is room for it. -/
def wouldLoad (cache : TreeCache) (id : String) : Bool :=
  (cache.kept? id).isNone && cache.trees.length < cache.capacity

/-- The document for an identifier, and the cache afterwards; a failure is not kept. -/
def get
    (cache : TreeCache)
    (load : String → Except TreeError Tree)
    (id : String) : Option Tree × TreeCache :=
  match cache.kept? id with
  | some tree => (some tree, cache)
  | none =>
      if cache.trees.length < cache.capacity then
        match load id with
        | .ok tree => (some tree, { cache with trees := (id, tree) :: cache.trees })
        | .error _ => (none, cache)
      else (none, cache)

end TreeCache
end BlockSearch
