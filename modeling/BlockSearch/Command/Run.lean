import BlockSearch.Command.Invocation
import BlockSearch.Command.Output
import BlockSearch.Config.Discovery
import BlockSearch.Config.Format
import BlockSearch.Index.Database

/-!
# Running commands

A command reads its configuration, opens its store, and answers. The files afterwards hold
what it has changed, even if it fails at the end.
-/

namespace BlockSearch

/-- What the program is run in. -/
structure Surroundings where
  /-- The files. -/
  files : Files
  /-- The home directory. -/
  home : Option String
  /-- The working directory. -/
  directory : String
  deriving Repr, Inhabited

/-- What a command leaves behind. -/
structure Result where
  /-- The exit status. -/
  status : Nat
  /-- What is written for the user. -/
  output : List Char := []
  /-- What is written about failures. -/
  errors : List Char := []
  /-- The files. -/
  files : Files
  deriving Repr, Inhabited

namespace Result

/-- A command that has answered. -/
def success (files : Files) (output : List Char) : Result := { status := 0, output, files }

/-- The text of a failure. -/
def failureText (text : String) : List Char := Output.line ("error: " ++ text).toList

/-- A command that has failed. -/
def failure (files : Files) (text : String) : Result :=
  { status := 1, errors := failureText text, files }

/-- A command that found an identifier without a creation time, and stopped at once. -/
def broken (files : Files) : Result :=
  { status := 101, errors := failureText SearchError.stamp.message, files }

end Result

/-- A configuration with the places of an invocation, which are below the working directory. -/
def Config.withPlaces (config : Config) (directory : String) (invocation : Invocation) : Config :=
  { config with
    store :=
      { database := (invocation.database.map (Path.join directory)) <|> config.store.database
        trees := (invocation.trees.map (Path.join directory)) <|> config.store.trees } }

namespace Surroundings

/-- The configuration for an invocation. -/
def config
    (around : Surroundings)
    (invocation : Invocation) : Except ConfigError Config := do
  .ok <|
    (← Config.load around.files around.home around.directory).withPlaces around.directory invocation

end Surroundings

namespace Command

/-- An engine and the path of its database. -/
structure Session where
  /-- The engine. -/
  engine : Engine
  /-- The path of the database. -/
  database : String

namespace Session

/-- The files, with what the engine has stored. -/
def files (session : Session) : Files :=
  match session.engine.library with
  | .files folder => Database.save folder.files session.database session.engine.store
  | .memory _ => {}

/-- The result of an answer. -/
def finish
    {α : Type}
    (session : Session)
    (failing : String)
    (outcome : Engine.Outcome α)
    (output : α → List Char) : Result :=
  let files := { session with engine := outcome.2 : Session }.files
  match outcome.1 with
  | .ok answer => .success files (output answer)
  | .error error => .failure files (failing ++ error.message)

end Session

/-- The failure of a command without a database. -/
def noDatabase : String :=
  "no block database configured\nSet [store] database in .quarry.toml or pass --database."

/-- The failure of a command without a directory of documents. -/
def noTrees : String := "no tree directory configured"

/-- What to do about a missing directory of documents. -/
def treesAdvice : String := "\nSet [store] trees in .quarry.toml or pass --trees."

/-- Open the store, or fail. -/
def openStore (files : Files) (config : Config) : Except Result (String × Store × Files) :=
  match config.store.database with
  | none => .error (.failure files noDatabase)
  | some path =>
      match Database.openStore files path with
      | .ok (store, files) => .ok (path, store, files)
      | .error error => .error (.failure files error.message)

/-- Open the store and the library, or fail. -/
def start (files : Files) (config : Config) : Except Result Session := do
  let (database, store, files) ← openStore files config
  match config.store.trees with
  | none => .error (.failure files (noTrees ++ treesAdvice))
  | some directory =>
      .ok ⟨{ store, library := .files ⟨directory, files⟩, settings := config.search }, database⟩

/-- The files with documents right in a directory, by name. -/
def documentPaths (files : Files) (directory : String) : Option (List String) :=
  (files.filesIn? directory).map fun names =>
    ((names.mergeSort fun a b => a ≤ b).map (Path.join directory)).filter fun path =>
      Path.extension? path == some Folder.suffix

/-- The numbers of documents and blocks indexed. -/
structure IndexCounts where
  /-- The number of documents. -/
  documents : Nat := 0
  /-- The number of blocks. -/
  blocks : Nat := 0
  deriving DecidableEq, Repr, Inhabited

/-- Index some files. Files that hold no document are left out. -/
def indexFiles (session : Session) (counts : IndexCounts) :
    List String → Except SearchError IndexCounts × Session
  | [] => (.ok counts, session)
  | path :: paths =>
      let tree := (session.files.read? path).bind fun text => (Tree.read text).toOption
      match tree with
      | none => indexFiles session counts paths
      | some tree =>
          match session.engine.index tree with
          | (.ok blocks, engine) =>
              indexFiles { session with engine }
                ⟨counts.documents + 1, counts.blocks + blocks⟩ paths
          | (.error error, engine) => (.error error, { session with engine })

/-- Index all documents of the library. -/
def indexAll (files : Files) (config : Config) : Except Result Result := do
  match config.store.trees with
  | none => .error (.failure files noTrees)
  | some directory =>
      let (database, store, files) ← openStore files config
      match documentPaths files directory with
      | none =>
          .error
            (.failure files ("failed to read tree directory " ++ directory ++ ": not a directory"))
      | some [] => .ok (.success files (Output.note "No documents to index."))
      | some paths =>
          let session : Session := ⟨{ store, library := .files ⟨directory, files⟩ }, database⟩
          match indexFiles session {} paths with
          | (.ok counts, session) =>
              .ok <| .success session.files <|
                Output.praise
                  ("Indexed " ++ toString counts.blocks ++ " blocks from " ++
                    toString counts.documents ++ " documents")
          | (.error _, session) => .error (.broken session.files)

/-- Index some documents again. Documents that cannot be loaded are left out. -/
def reindex (engine : Engine) : List String → Except SearchError Unit × Engine
  | [] => (.ok (), engine)
  | id :: ids =>
      match engine.library.load id with
      | .error _ => reindex engine ids
      | .ok tree =>
          match engine.index tree with
          | (.ok _, engine) => reindex engine ids
          | (.error error, engine) => (.error error, engine)

/-- Replace text, and index the documents of the blocks again, even after a failure. -/
def replaceAndIndex (session : Session) (request : Replacement) (asJson : Bool) : Result :=
  let roots :=
    (distinct ((session.engine.store.findAll request.ids).map Record.rootId)).mergeSort
      fun a b => a ≤ b
  let outcome := session.engine.replace request
  match reindex outcome.2 roots with
  | (.error _, engine) => .broken { session with engine : Session }.files
  | (.ok (), engine) =>
      session.finish "replace failed: " (outcome.1, engine) fun summary =>
        if asJson then Output.json summary.toJson else Output.summary summary

/-- Show a document with keywords highlighted, or the blocks that mention them. -/
def showHighlight
    (session : Session)
    (rootId : String)
    (keywords : List String)
    (preview asJson : Bool) : Result :=
  if preview then
    session.finish ("failed to preview " ++ rootId ++ ": ")
      (session.engine.mentions rootId keywords) fun mentions =>
        if asJson then Output.json (.array (mentions.map Mention.toJson))
        else Output.mentions mentions
  else
    session.finish ("failed to highlight " ++ rootId ++ ": ")
      (session.engine.highlight rootId keywords) fun tree => Output.line tree.print.toList

/-- The settings of a search with what its command asks for. -/
def searchSettings
    (settings : SearchSettings)
    (limit : Option Nat)
    (caseSensitive : Bool) : SearchSettings :=
  { settings with
    limit := limit.getD settings.limit
    caseSensitive := settings.caseSensitive || caseSensitive }

/-- Run a command that needs the store and the library. -/
def answer (session : Session) (config : Config) : Command → Result
  | .search request limit caseSensitive asJson =>
      let settings := searchSettings config.search limit caseSensitive
      session.finish "search failed: " ({ session.engine with settings }.search request)
        fun response =>
          if asJson then Output.responseJson request.query response
          else Output.response response (request.grouping == .document)
  | .embed request asJson =>
      let engine := { session.engine with notebooks := config.notebooks }
      session.finish "embed query failed: " (engine.embed request) fun shown =>
        if asJson then Output.json (.array (shown.map Embedded.toJson))
        else Output.embed shown request.breadcrumb
  | .references id rootId keyword asJson =>
      session.finish "reference search failed: " (session.engine.references id rootId keyword)
        fun offer => if asJson then Output.json offer.toJson else Output.offer offer keyword
  | .replace request asJson => replaceAndIndex session request asJson
  | .highlight rootId keywords preview asJson =>
      showHighlight session rootId keywords preview asJson
  | .index | .config => .success session.files []

/-- Run a command under a configuration. -/
def run (command : Command) (files : Files) (config : Config) : Except Result Result :=
  match command with
  | .config => .ok (.success files config.print.toList)
  | .index => indexAll files config
  | command => do .ok (command.answer (← start files config) config)

end Command

namespace Invocation

/-- Run an invocation. -/
def run (invocation : Invocation) (around : Surroundings) : Result :=
  match around.config invocation with
  | .error error =>
      .failure around.files ("failed to load configuration: " ++ error.message)
  | .ok config =>
      match invocation.command.run around.files config with
      | .ok result => result
      | .error result => result

end Invocation
end BlockSearch
