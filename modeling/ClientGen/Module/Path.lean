import ClientGen.Files.Path
import ClientGen.Text.Identifier
import ClientGen.Text.Trim

/-!
# Paths of generated modules

Models lie in `models/<domain>/`, everything else in the folder of its kind. One module names
another by a relative path, or by a path below an alias of the output folder.
-/

namespace ClientGen

/-- Where an importing module lies. -/
inductive Origin where
  | model (domain : String)
  /-- Any other module, a number of folders below the output folder. -/
  | artifact (depth : Nat)
deriving DecidableEq, Repr, Inhabited

def upwards (depth : Nat) : String :=
  if depth = 0 then "./" else String.join (List.replicate depth "../")

def artifactModule (depth : Nat) (target : String) : Option String → String
  | some root => Text.trimEndSlashes root ++ "/" ++ target
  | none => upwards depth ++ target

/-- The path of a model's module. Models of one domain name each other within their folder. -/
def modelModule (origin : Origin) (domain name : String) (aliasRoot? : Option String) : String :=
  let file := Text.identifier name
  match origin with
  | .model own =>
    if own = domain then "./" ++ file
    else match aliasRoot? with
      | some root => Text.trimEndSlashes root ++ "/models/" ++ domain ++ "/" ++ file
      | none => "../" ++ domain ++ "/" ++ file
  | .artifact depth =>
    match aliasRoot? with
    | some root => Text.trimEndSlashes root ++ "/models/" ++ domain ++ "/" ++ file
    | none => upwards depth ++ "models/" ++ domain ++ "/" ++ file

def modelFile (domain name : String) : String :=
  Files.join (Files.join "models" domain) (Text.identifier name ++ ".ts")

end ClientGen
