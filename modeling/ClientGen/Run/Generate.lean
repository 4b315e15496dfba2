import ClientGen.Artifact.Fragment
import ClientGen.Run.Document
import ClientGen.Run.Hook
import ClientGen.Template.Library

/-!
# Runs

A run plans what a document needs, renders all of it and only then touches the file tree: it
removes the output folder on request, writes the files in the order of their fragments, and runs
the commands of the configuration.
-/

namespace ClientGen

open Files

/-- What a run is done with: how it reads a name pattern, how it reads and renders templates, and
how it runs a command. -/
structure Tools where
  rule? : DomainPattern → Option DomainRule := DomainPattern.rule?
  engine : TemplateEngine := .standard
  shell : CommandRunner := Shell.runIn

/-- What a run will write, and what was noticed on the way. -/
structure Prepared where
  files : List (String × String)
  warnings : List Warning
deriving Repr

/-- What a run wrote, and what was noticed on the way. -/
structure Report where
  written : List String
  warnings : List Warning
deriving Repr

/-- The file of a fragment: its path and its content. -/
def renderFragment (library : TemplateLibrary) (outputDir : String) (fragment : Fragment) :
    Except Failure (String × String) :=
  (library.render fragment.template fragment.context.toJson).map
    (join outputDir fragment.target, ·)

/-- Plans and renders. Nothing here can change the file tree. -/
def prepare (around : Surroundings) (tree : Tree) (document : Json) (config : Config)
    (tools : Tools) : Except Failure Prepared := do
  if let some problem := config.problem? tools.rule? then throw (.config problem)
  let planned ← (plan document config tools.rule?).mapError .config
  let library ← loadTemplates around tree config.templateDir tools.engine
  let files ← (fragments planned config).mapM (renderFragment library config.outputDir)
  return ⟨files, planned.warnings⟩

def cleanOutput (start : Place) (outputDir : String) : Action Files.Failure Unit := do
  if ← Action.look (·.isThere start outputDir) then removeFolder start outputDir

def writeFiles (start : Place) (config : Config) (files : List (String × String)) :
    Action Files.Failure Unit := do
  if config.clean then cleanOutput start config.outputDir
  makeFolders start config.outputDir
  files.forM fun (path, content) => writeOutput start path content

def generateFrom (around : Surroundings) (document : Json) (config : Config)
    (tools : Tools := {}) : Action Failure Report := do
  let prepared ← Action.look fun tree => prepare around tree document config tools
  Action.mapFailure .files (writeFiles around.start config prepared.files)
  runHooks around config.outputDir config.postGenerate tools.shell
  return ⟨prepared.files.map (·.1), prepared.warnings⟩

def generate (around : Surroundings) (config : Config) (web : Web := .offline)
    (tools : Tools := {}) : Action Failure Report := do
  if let some problem := config.problem? tools.rule? then throw (.config problem)
  let document ← Action.look fun tree => loadDocument around web tree config.specLocation
  generateFrom around document config tools

end ClientGen
