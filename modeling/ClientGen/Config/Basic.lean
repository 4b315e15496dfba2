import ClientGen.Config.Artifact
import ClientGen.Domain.Patterns

/-!
# Configuration of a run

A configuration names the document, the output folder and what is to be generated. Contradictory
settings are rejected before anything else is done.
-/

namespace ClientGen

structure Config where
  specLocation : String := "http://localhost:8000/swagger.json"
  outputDir : String := "src/api"
  basePath : String := "api"
  aliasImports : Bool := false
  aliasRoot : String := "@/api"
  exclude : List ArtifactKind := []
  /-- Whether the output folder is removed first. -/
  clean : Bool := false
  templateDir : Option String := none
  domainPatterns : List DomainPattern := defaultDomainPatterns
  /-- Commands that are run in the output folder afterwards. -/
  postGenerate : List String := []
deriving DecidableEq, Repr, Inhabited

inductive ConfigProblem where
  | unknownKind (name : String)
  | missingNeed (excluded dependent : ArtifactKind)
  | cleanWithoutOutput
  | invalidPattern (pattern : String)
deriving DecidableEq, Repr

def ConfigProblem.message : ConfigProblem → String
  | .unknownKind name => "unknown artifact kind: " ++ name
  | .missingNeed excluded dependent =>
    "cannot exclude " ++ excluded.name ++ " while " ++ dependent.name ++
      " are generated; exclude " ++ dependent.name ++ " as well"
  | .cleanWithoutOutput => "clean requires a non-empty output directory"
  | .invalidPattern pattern => "invalid domain pattern '" ++ pattern ++ "'"

/-- The kind of a name given on a command line. -/
def ArtifactKind.read (text : String) : Except ConfigProblem ArtifactKind :=
  match ofSpoken? text with
  | some kind => .ok kind
  | none => .error (.unknownKind (spokenName text))

namespace Config

def isEnabled (config : Config) (kind : ArtifactKind) : Bool := !config.exclude.contains kind

def enabled (config : Config) : List ArtifactKind := ArtifactKind.all.filter config.isEnabled

def trimmedBase (config : Config) : String := Text.trimSlashes config.basePath

/-- The number of segments of the base path, which is the number of segments that stand before
the group segment of a path. -/
def groupingDepth (config : Config) : Nat :=
  ((config.trimmedBase.toList.splitOn '/').filter (· ≠ [])).length

/-- The root that modules are imported through, if there is one. -/
def aliasRoot? (config : Config) : Option String :=
  if config.aliasImports then some config.aliasRoot else none

def needs : List (ArtifactKind × ArtifactKind) :=
  [(.services, .thunks), (.services, .hooks), (.thunks, .hooks)]

def missingNeed? (config : Config) : Option (ArtifactKind × ArtifactKind) :=
  needs.find? fun (needed, dependent) => !config.isEnabled needed && config.isEnabled dependent

def problem? (config : Config)
    (rule? : DomainPattern → Option DomainRule := DomainPattern.rule?) : Option ConfigProblem :=
  match config.missingNeed? with
  | some (excluded, dependent) => some (.missingNeed excluded dependent)
  | none =>
    if config.clean && Text.trim config.outputDir = "" then some .cleanWithoutOutput
    else match readDomainPatterns config.domainPatterns rule? with
      | .error p => some (.invalidPattern p.pattern)
      | .ok _ => none

end Config

end ClientGen
