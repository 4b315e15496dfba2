import ClientGen.Command.Run

/-!
# The program

The files that a run may need are read into a file tree, the run is done on the tree, and what has
changed in it is written back.
-/

namespace ClientGen.Program

open ClientGen.Files

/-- Reads what stands at a path and below it into a tree. What cannot be read is left out. -/
partial def load (path : String) (place : Place) (tree : Tree) : IO Tree := do
  try
    let here ← IO.FS.realPath path
    if ← here.isDir then
      let mut tree := tree.putFolders place
      for entry in ← here.readDir do
        tree ← load entry.path.toString (place ++ [entry.fileName]) tree
      return tree
    else return tree.putFile place (← IO.FS.readFile here)
  catch _ => return tree

def loadFrom (start : Place) (tree : Tree) (path : String) : IO Tree :=
  match (tree.putFolders start).locate start path with
  | .ok place => load ("/" ++ String.intercalate "/" place) place tree
  | .error _ => load path (if isAbsolute path then parts path else start ++ parts path) tree

/-- Removes what is no longer in a tree, and writes what is new in it. -/
def store (before after : Tree) : IO Unit := do
  let path (place : Place) := "/" ++ String.intercalate "/" place
  for (place, entry) in before.entries do
    if (after.at? place).isNone then
      match entry with
      | .folder => try IO.FS.removeDirAll (path place) catch _ => pure ()
      | .file _ => try IO.FS.removeFile (path place) catch _ => pure ()
  for (place, entry) in after.entries do
    if before.at? place ≠ some entry then
      match entry with
      | .folder => IO.FS.createDirAll (path place)
      | .file content =>
        IO.FS.createDirAll (path place.dropLast)
        IO.FS.writeFile (path place) content

def footprint (around : Surroundings) (options : Command.Options) (tree : Tree) : List String :=
  let base := match options.config with
    | none => {}
    | some path => ((loadConfig around tree path).toOption).getD {}
  let config := options.apply base
  [config.specLocation, config.outputDir] ++ config.templateDir.toList ++ around.candidates

end ClientGen.Program

open ClientGen ClientGen.Program in
def main (arguments : List String) : IO UInt32 := do
  let start := Files.parts (← IO.currentDir).toString
  let around : Surroundings := {
    start
    home? := ← IO.getEnv "HOME"
    namedTemplates? := ← IO.getEnv templateVariable }
  let empty : Files.Tree := Files.Tree.putFolders ⟨[]⟩ start
  let tree ← match Command.Options.read arguments with
    | .error _ => pure empty
    | .ok options => do
      let known ← options.config.toList.foldlM (loadFrom start) empty
      (footprint around options known).foldlM (loadFrom start) known
  let (outcome, changed) := Command.run around arguments tree
  store tree changed
  (← IO.getStdout).putStr outcome.output
  (← IO.getStderr).putStr outcome.messages
  return outcome.exitCode.toUInt32
