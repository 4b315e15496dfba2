import ClientGen.Shell.Run
import ClientGen.Template.Folder

/-!
# Commands that follow a run

They are run in the output folder one after the other, up to the first that fails.
-/

namespace ClientGen

open Files

def Surroundings.environment (around : Surroundings) : List (String × String) :=
  (around.home?.map fun home => ("HOME", home)).toList ++
    (around.namedTemplates?.map fun folder => (templateVariable, folder)).toList

def hookPlace (around : Surroundings) (tree : Tree) (folder command : String) :
    Except Files.Failure Place :=
  if command.toList.contains (Char.ofNat 0) || folder.toList.contains (Char.ofNat 0) then
    .error .zeroInCommand
  else do
    let place ← tree.locate around.start folder
    match tree.at? place with
    | some .folder => .ok place
    | some (.file _) => .error .notFolder
    | none => .error .notFound

abbrev CommandRunner : Type :=
  Tree → Place → List (String × String) → String → Shell.Outcome

def runHook (around : Surroundings) (folder command : String)
    (shell : CommandRunner := Shell.runIn) : Action Failure Unit := do
  let tree ← get
  match hookPlace around tree folder command with
  | .error e => throw (.files (.hook command e))
  | .ok place =>
    let outcome := shell tree place around.environment command
    set outcome.tree
    if outcome.status ≠ .code 0 then
      throw (.template (.hookFailed command outcome.status outcome.output))

def runHooks (around : Surroundings) (folder : String) (commands : List String)
    (shell : CommandRunner := Shell.runIn) : Action Failure Unit :=
  commands.forM fun command => runHook around folder command shell

end ClientGen
