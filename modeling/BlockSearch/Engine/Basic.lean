import BlockSearch.Edit.Highlight
import BlockSearch.Edit.Mention
import BlockSearch.Index.Store
import BlockSearch.Library.Basic
import BlockSearch.Mark.Truncate
import BlockSearch.Search.Error
import BlockSearch.Search.Settings

/-!
# The engine

The engine answers requests over a store, a library and settings. It waits for pending writes
before it reads, and it leaves tasks for later. A request that fails keeps what it has
changed before.

A document is indexed, or shown with the keywords of a search highlighted, or by the blocks
that mention them. The stored document stays as it is.
-/

namespace BlockSearch

/-- Something to do later. -/
inductive Task
  /-- Index the blocks that an embed shows. -/
  | indexEmbed (id : String) (blocks : List String)
  /-- Show everything anew after some time. -/
  | reload (milliseconds : Nat)
  deriving DecidableEq, Repr

/-- The state of the engine. -/
structure Engine where
  /-- The store. -/
  store : Store := {}
  /-- The library. -/
  library : Library := .memory {}
  /-- The settings. -/
  settings : SearchSettings := {}
  /-- The names of notebooks. -/
  notebooks : List (String × String) := []
  /-- How often the engine has waited for writes. -/
  waits : Nat := 0
  /-- What is left to do, in order. -/
  tasks : List Task := []

/-- An answer, or a failure, and the state afterwards. -/
abbrev Engine.Outcome (α : Type) := Except SearchError α × Engine

namespace Engine

/-- Wait for pending writes. -/
def wait (engine : Engine) : Engine := { engine with waits := engine.waits + 1 }

/-- Leave a task for later. -/
def addTask (engine : Engine) (task : Task) : Engine :=
  { engine with tasks := engine.tasks ++ [task] }

/-- How letters are compared. -/
def mode (engine : Engine) : CaseMode := engine.settings.mode

/-- The text of a reference to a block, not longer than the settings allow. -/
def referenceText (engine : Engine) (id : String) : String :=
  String.ofList <|
    Mark.bound engine.settings.referenceTextLimit (engine.store.anchorText id).toList

/-! ## Documents -/

/-- A document of the library. -/
def document (engine : Engine) (id : String) : Except SearchError Tree :=
  match engine.library.load id with
  | .ok tree => .ok tree
  | .error error => .error (.tree error)

/-- A document with keywords highlighted. -/
def highlight (engine : Engine) (id : String) (keywords : List String) : Outcome Tree :=
  ((engine.document id).map fun tree =>
      (tree.highlight ⟨keywords, engine.mode, Highlight.searchType⟩).1,
    engine.wait)

/-- The blocks of a document that mention keywords. -/
def mentions (engine : Engine) (id : String) (keywords : List String) :
    Outcome (List Mention) :=
  ((engine.document id).map fun tree => tree.mentions engine.mode keywords, engine.wait)

/-- Index a document. -/
def index (engine : Engine) (tree : Tree) : Outcome Nat :=
  match engine.store.index? tree with
  | some (store, count) => (.ok count, { engine with store })
  | none => (.error .stamp, engine)

end Engine
end BlockSearch
