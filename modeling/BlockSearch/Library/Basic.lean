import BlockSearch.Document.Format
import BlockSearch.Library.Files

/-!
# The library of documents

Documents are kept in memory or as files, one for each document.
-/

namespace BlockSearch

namespace Tree

/-- The document with another title, which is also the last name of its path of titles. -/
def retitle (tree : Tree) (title : String) : Tree :=
  let parent :=
    match Text.cutAtLast? '/' tree.hpath.toList with
    | some (parent, _) => String.ofList parent
    | none => ""
  { tree.setTitle title with hpath := parent ++ "/" ++ title }

end Tree

/-- Documents in memory. -/
structure Shelf where
  /-- The documents; each identifier belongs to one. -/
  trees : List Tree := []
  /-- The identifiers of the documents written, in order. -/
  writes : List String := []
  /-- The identifiers of documents that cannot be written. -/
  failing : List String := []
  deriving DecidableEq, Repr, Inhabited

namespace Shelf

/--
Put in a document in the place of the one with its identifier, or behind all others when there
is none.
-/
def put (shelf : Shelf) (tree : Tree) : Shelf :=
  { shelf with
    trees :=
      if shelf.trees.any (·.id == tree.id) then
        shelf.trees.map fun other => if other.id == tree.id then tree else other
      else shelf.trees ++ [tree] }

/-- The document with an identifier. -/
def find? (shelf : Shelf) (id : String) : Option Tree := shelf.trees.find? (·.id == id)

/-- Write a document, unless it cannot be written. -/
def write (shelf : Shelf) (tree : Tree) : Except TreeError Shelf :=
  if shelf.failing.contains tree.id then .error (.unwritable tree.path "write rejected")
  else .ok ({ shelf with writes := shelf.writes ++ [tree.id] }.put tree)

/-- Give the document at a path another title. -/
def rename (shelf : Shelf) (box path title : String) : Except TreeError Shelf :=
  match shelf.trees.find? fun tree => tree.box == box && tree.path == path with
  | some tree => .ok (shelf.put (tree.retitle title))
  | none => .error (.notFound path)

/-- How often a document was written. -/
def writeCount (shelf : Shelf) (id : String) : Nat := shelf.writes.count id

end Shelf

/-- Documents in the files of a directory. -/
structure Folder where
  /-- The path of the directory. -/
  directory : String
  /-- The files. -/
  files : Files
  deriving DecidableEq, Repr, Inhabited

namespace Folder

/-- What follows the dot in the names of files with documents. -/
def suffix : String := "sy"

/-- The path of the file that holds a document. -/
def pathOf (folder : Folder) (id : String) : String :=
  Path.join folder.directory (id ++ "." ++ suffix)

/-- The document with an identifier. -/
def load (folder : Folder) (id : String) : Except TreeError Tree :=
  match folder.files.read? (folder.pathOf id) with
  | some text => Tree.read text
  | none => .error (.notFound id)

/-- Write a document; the directory is created when there is none. -/
def write (folder : Folder) (tree : Tree) : Except TreeError Folder :=
  let path := folder.pathOf tree.id
  match folder.files.writeDeep? path tree.print with
  | some files => .ok { folder with files }
  | none => .error (.unwritable path "not a writable file")

/-- Give a document another title; the name of its file in a path is its identifier. -/
def rename (folder : Folder) (path title : String) : Except TreeError Folder :=
  match Path.fileStem? path with
  | some id => do folder.write ((← folder.load id).retitle title)
  | none => .error (.notFound path)

end Folder

/-- Where documents are kept. -/
inductive Library
  /-- In memory. -/
  | memory (shelf : Shelf)
  /-- In files. -/
  | files (folder : Folder)
  deriving DecidableEq, Repr, Inhabited

namespace Library

/-- The document with an identifier. -/
def load : Library → String → Except TreeError Tree
  | .memory shelf, id =>
      match shelf.find? id with
      | some tree => .ok tree
      | none => .error (.notFound id)
  | .files folder, id => folder.load id

/-- Write a document. -/
def write : Library → Tree → Except TreeError Library
  | .memory shelf, tree => (shelf.write tree).map .memory
  | .files folder, tree => (folder.write tree).map .files

/-- Give a document another title. -/
def rename : Library → (box path title : String) → Except TreeError Library
  | .memory shelf, box, path, title => (shelf.rename box path title).map .memory
  | .files folder, _, path, title => (folder.rename path title).map .files

end Library
end BlockSearch
