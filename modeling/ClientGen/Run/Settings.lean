import ClientGen.Failure
import ClientGen.Template.Folder
import ClientGen.Yaml.Settings

namespace ClientGen

open Files

def loadConfig (around : Surroundings) (tree : Tree) (path : String) : Except Failure Config :=
  match tree.read around.start path with
  | .error e => .error (.files e)
  | .ok text =>
    match Config.ofYaml? text with
    | some config => .ok config
    | none => .error .settingsYaml

end ClientGen
