import ClientGen.Failure
import ClientGen.Template.Builtin
import ClientGen.Template.Folder
import ClientGen.Template.Reader
import ClientGen.Template.Render

/-!
# Libraries of templates

A library has the built-in templates, except those that a folder of templates replaces, and
whatever else that folder has. Templates are kept as what they make of a context.
-/

namespace ClientGen

open Files

/-- What a template makes of a context. -/
abbrev Rendering : Type := Json → Option String

/-- A way to read templates, and the templates that are built in. -/
structure TemplateEngine where
  read? : String → Option Rendering
  builtin : List (String × Rendering)

def TemplateEngine.standard : TemplateEngine where
  read? text := (Template.read? text).map Template.render?
  builtin := builtinTemplates.map fun (name, template) => (name, template.render?)

/-- Templates by name. Of two with one name the first counts. -/
structure TemplateLibrary where
  templates : List (String × Rendering)
deriving Inhabited

namespace TemplateLibrary

def template? (library : TemplateLibrary) (name : String) : Option Rendering :=
  library.templates.lookup name

def render (library : TemplateLibrary) (name : String) (context : Json) :
    Except Failure String :=
  match context with
  | .obj _ =>
    match (library.template? name).bind (· context) with
    | some text => .ok text
    | none => .error (.template (.unrenderable name))
  | _ => .error (.template (.contextNotObject name))

end TemplateLibrary

def readTemplates (around : Surroundings) (tree : Tree) (folder : TemplateFolder)
    (paths : List String) (engine : TemplateEngine) :
    Except Failure (List (String × Rendering)) := do
  let texts ← paths.mapM fun path =>
    match tree.read around.start path with
    | .ok text => .ok ((fileName? path).getD "", text)
    | .error e => .error (.files e)
  texts.mapM fun (name, text) =>
    match engine.read? text with
    | some template => .ok (name, template)
    | none => .error (.template (.unreadable folder.path))

def loadTemplates (around : Surroundings) (tree : Tree) (configured? : Option String)
    (engine : TemplateEngine := .standard) : Except Failure TemplateLibrary :=
  match findTemplateFolder around tree configured? with
  | .error e => .error (.files e)
  | .ok none => .ok ⟨engine.builtin⟩
  | .ok (some folder) => do
    let own ← readTemplates around tree folder (templateFiles around tree folder.path) engine
    return ⟨own ++ engine.builtin⟩

end ClientGen
