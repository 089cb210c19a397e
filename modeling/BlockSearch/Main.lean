import BlockSearch.Command.Run

/-!
# The program

The files that a command can use are read, the command is run on them, and the files that it has
changed are written.
-/

namespace BlockSearch
namespace Main

/-- Files with the file at a path, if there is one. -/
def withFile (files : Files) (path : String) : IO Files := do
  let found := (← IO.currentDir) / path
  if ← found.isDir then
    return (files.createDirectories? path).getD files
  else if ← found.pathExists then
    try return (files.writeDeep? path (← IO.FS.readFile found)).getD files
    catch _ => return files
  else
    match found.parent with
    | some parent =>
        if ← parent.isDir then
          return (files.createDirectories? ((Path.parent? path).getD path)).getD files
        else return files
    | none => return files

/-- Files with the directory at a path and the files in it, if there is one. -/
def withDirectory (files : Files) (path : String) : IO Files := do
  let found := (← IO.currentDir) / path
  if ← found.isDir then
    let files := (files.createDirectories? path).getD files
    (← found.readDir).foldlM
      (fun files entry => withFile files (Path.join path entry.fileName)) files
  else return files

/-- The files that a configuration speaks of. -/
def withStore (files : Files) (store : StorePlaces) : IO Files := do
  let files ← match store.database with
    | some path => withFile files path
    | none => pure files
  match store.trees with
  | some path => withDirectory files path
  | none => pure files

/-- Write the files that have another text than before. -/
def writeChanges (before after : Files) : IO Unit := do
  for (location, text) in after.contents do
    if before.textAt? location != some text then
      let path := "/" ++ "/".intercalate location
      let target := (← IO.currentDir) / path
      match target.parent with
      | some parent => IO.FS.createDirAll parent
      | none => pure ()
      IO.FS.writeFile target text

/-- Run an invocation on the files of the machine. -/
def execute (invocation : Invocation) : IO Result := do
  let directory := toString (← IO.currentDir)
  let home ← IO.getEnv "HOME"
  let paths := Path.ancestors directory ++ home.toList
  let files ← paths.foldlM
    (fun files path => withFile files (Path.join path Config.fileName)) ({} : Files)
  let around : Surroundings := ⟨files, home, directory⟩
  match around.config invocation with
  | .error _ => return invocation.run around
  | .ok config =>
      let files ← withStore files config.store
      let result := invocation.run { around with files }
      writeChanges files result.files
      return result

/-- Run the program with its arguments, and give its exit status. -/
def run (texts : List String) : IO UInt32 := do
  match Invocation.ofArguments texts with
  | .error refusal =>
      IO.eprintln refusal.message
      return refusal.status.toUInt32
  | .ok invocation =>
      let result ← execute invocation
      IO.print (String.ofList result.output)
      IO.eprint (String.ofList result.errors)
      return result.status.toUInt32

end Main
end BlockSearch

/-- The entry point of the program. -/
def main (texts : List String) : IO UInt32 := BlockSearch.Main.run texts
