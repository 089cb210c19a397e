import BlockSearch.Distinct
import BlockSearch.Edit.Replacer
import BlockSearch.Engine.Basic

/-!
# Replacing text

Text is replaced in blocks and all below them. Every document is written once, in the order
in which the blocks name it; documents with a new title are renamed when all are written. A
document that cannot be loaded or written ends the replacement.
-/

namespace BlockSearch

/-- A replacement of text. -/
structure Replacement where
  /-- The text to find. -/
  keyword : String
  /-- What to put in its place. -/
  replacement : String
  /-- The blocks to look in. -/
  ids : List String
  /-- How the text to find is read. -/
  method : Method := .keyword
  deriving Repr

/-- What a replacement has done. -/
structure ReplacementSummary where
  /-- The number of documents written. -/
  written : Nat := 0
  /-- The number of documents renamed. -/
  renamed : Nat := 0
  deriving DecidableEq, Repr, Inhabited

/-- A document to be renamed. -/
structure Renaming where
  /-- The notebook. -/
  box : String
  /-- The path of the document. -/
  path : String
  /-- The new title. -/
  title : String
  deriving DecidableEq, Repr

namespace Store

/-- Put a block under its document in a list of groups. -/
def addToGroup (rootId id : String) : List (String × List String) → List (String × List String)
  | [] => [(rootId, [id])]
  | group :: groups =>
      if group.1 = rootId then (rootId, group.2 ++ [id]) :: groups
      else group :: addToGroup rootId id groups

/-- The blocks under their documents, in the order in which these are first met. -/
def groupByRoot
    (store : Store)
    (ids : List String) : Except SearchError (List (String × List String)) :=
  ids.foldlM
    (fun groups id =>
      match store.find? id with
      | some record => .ok (addToGroup record.rootId id groups)
      | none => .error (.tree (.notFound id)))
    []

end Store

namespace Tree

/-- A document in which text is being replaced, and the new titles found so far. -/
structure Rewriting where
  /-- The document. -/
  tree : Tree
  /-- The new titles, the latest first. -/
  titles : List String := []

/-- Replace text in a block; a block that is not in the document is left out. -/
def rewriteBlock (replacer : Replacer) (state : Rewriting) (id : String) : Rewriting :=
  match state.tree.findBlock? id with
  | some i =>
      ⟨state.tree.replaceBelow replacer i,
        (state.tree.newTitle? replacer i).toList ++ state.titles⟩
  | none => state

/-- Replace text in some blocks of a document. -/
def rewriteBlocks (tree : Tree) (replacer : Replacer) (ids : List String) : Rewriting :=
  ids.foldl (rewriteBlock replacer) ⟨tree, []⟩

end Tree

namespace Engine

/-- Rewrite one document, and tell which renaming it needs. -/
def rewriteDocument
    (replacer : Replacer)
    (library : Library)
    (rootId : String)
    (ids : List String) : Except SearchError (Library × List Renaming) :=
  match library.load rootId with
  | .error error => .error (.tree error)
  | .ok tree =>
      let state := tree.rewriteBlocks replacer ids
      match library.write state.tree with
      | .error error => .error (.persist rootId error)
      | .ok library =>
          .ok (library, state.titles.reverse.map fun title => ⟨tree.box, tree.path, title⟩)

/-- The progress of a replacement. -/
structure Progress where
  /-- The library. -/
  library : Library
  /-- The renamings still to be done, in order. -/
  renamings : List Renaming := []
  /-- The number of documents written. -/
  written : Nat := 0

/-- Rewrite documents one after the other, up to the first failure. -/
def rewriteDocuments (replacer : Replacer) (progress : Progress) :
    List (String × List String) → Except SearchError Unit × Progress
  | [] => (.ok (), progress)
  | (rootId, ids) :: groups =>
      match rewriteDocument replacer progress.library rootId ids with
      | .error error => (.error error, progress)
      | .ok (library, renamings) =>
          rewriteDocuments replacer
            ⟨library, progress.renamings ++ renamings, progress.written + 1⟩ groups

/-- Rename documents, and count those that could be renamed. -/
def renameAll (library : Library) : List Renaming → Library × Nat
  | [] => (library, 0)
  | change :: renamings =>
      match library.rename change.box change.path change.title with
      | .ok library =>
          let (library, count) := renameAll library renamings
          (library, count + 1)
      | .error _ => renameAll library renamings

/-- The time after which everything is shown anew, in milliseconds. -/
def reloadDelay : Nat := 1000

/-- Replace text in groups of blocks. -/
def replaceGroups
    (engine : Engine)
    (replacer : Replacer)
    (groups : List (String × List String))
    (several : Bool) : Outcome ReplacementSummary :=
  match rewriteDocuments replacer { library := engine.library } groups with
  | (.error error, progress) => (.error error, { engine with library := progress.library })
  | (.ok _, progress) =>
      let (library, renamed) := renameAll progress.library progress.renamings
      let engine := { engine with library }.wait
      let engine := if several then engine.addTask (.reload reloadDelay) else engine
      (.ok ⟨progress.written, renamed⟩, engine)

/-- Replace text. A replacement that is the keyword changes nothing. -/
def replace (engine : Engine) (request : Replacement) : Outcome ReplacementSummary :=
  match Replacer.ofMethod? request.keyword request.replacement request.method with
  | none => (.error (.cannotReplace request.method), engine)
  | some replacer =>
      let engine := engine.wait
      if request.keyword = request.replacement then (.ok {}, engine)
      else
        let ids := distinct request.ids
        match engine.store.groupByRoot ids with
        | .error error => (.error error, engine)
        | .ok groups => engine.replaceGroups replacer groups (1 < ids.length)

end Engine
end BlockSearch
