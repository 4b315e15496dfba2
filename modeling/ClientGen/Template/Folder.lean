import ClientGen.Files.Action
import ClientGen.Ordered

/-!
# Folders of templates

A folder of templates is named in the configuration, or else by a variable, or else lies in the
home folder. A subfolder named after the set of built-in templates takes precedence over the
folder itself.
-/

namespace ClientGen

open Files

/-- Where a run takes place: the working folder, the home folder, and the folder of templates that
is named by a variable. -/
structure Surroundings where
  start : Place
  home? : Option String
  namedTemplates? : Option String
deriving Repr, Inhabited

def templateSet : String := "typescript_redux"

def templateVariable : String := "SWAGGEN_TEMPLATE_DIR"

def homeTemplates (home : String) : String := join (join home ".swaggen") "templates"

/-- A folder of templates: where it was found, and where its templates are. -/
structure TemplateFolder where
  root : String
  path : String
deriving DecidableEq, Repr, Inhabited

def TemplateFolder.atRoot (tree : Tree) (start : Place) (root : String) : TemplateFolder :=
  let nested := join root templateSet
  if fileName? root = some templateSet || !tree.isFolder start nested then { root, path := root }
  else { root, path := nested }

def Surroundings.candidates (around : Surroundings) : List String :=
  around.namedTemplates?.toList ++ around.home?.toList.map homeTemplates

def findTemplateFolder (around : Surroundings) (tree : Tree) (configured? : Option String) :
    Except Files.Failure (Option TemplateFolder) :=
  match configured? with
  | some folder =>
    if tree.isFolder around.start folder then
      .ok (some (.atRoot tree around.start folder))
    else .error (.noTemplateFolder folder)
  | none =>
    .ok ((around.candidates.find? (tree.isFolder around.start)).map
      (.atRoot tree around.start))

def templateFiles (around : Surroundings) (tree : Tree) (folder : String) : List String :=
  match tree.locate around.start folder with
  | .error _ => []
  | .ok place =>
    let named := (tree.names place).filter fun name =>
      ending? name = some "tera" && tree.isFile around.start (join folder name)
    (orderedSet named).map (join folder)

end ClientGen
