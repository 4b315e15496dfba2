import ClientGen.Config.Basic
import ClientGen.Json.Basic

/-!
# Configurations as data

A configuration is read from the members of a value, and written as a JSON value that is read back
to the same configuration. Members that are absent take their defaults and unknown members are
passed over.
-/

namespace ClientGen

/-- How values of some format are read as settings. -/
structure SettingsReader (ν : Type) where
  text? : ν → Option String
  switch? : ν → Option Bool
  optionalText? : ν → Option (Option String)
  items? : ν → Option (List ν)
  kind? : ν → Option ArtifactKind
  commands? : ν → Option (List String)
  members? : List String → ν → Option (List (String × ν))

def Config.memberNames : List String :=
  ["spec_location", "output_dir", "api_base_path", "alias_imports", "alias_root", "exclude",
    "clean", "template_dir", "domain_patterns", "post_generate"]

def DomainPattern.memberNames : List String := ["pattern", "domain"]

namespace SettingsReader

variable {ν α : Type}

def memberOr (members : List (String × ν)) (name : String) (default : α) (read : ν → Option α) :
    Option α :=
  match members.lookup name with
  | none => some default
  | some value => read value

def list? (reader : SettingsReader ν) (read : ν → Option α) (value : ν) : Option (List α) :=
  (reader.items? value).bind fun items => items.mapM read

def pattern? (reader : SettingsReader ν) (value : ν) : Option DomainPattern := do
  let members ← reader.members? DomainPattern.memberNames value
  let pattern ← (members.lookup "pattern").bind reader.text?
  let domain ← (members.lookup "domain").bind reader.text?
  return { pattern, domain }

def ofMembers? (reader : SettingsReader ν) (members : List (String × ν)) : Option Config := do
  let base : Config := {}
  return {
    specLocation := ← memberOr members "spec_location" base.specLocation reader.text?
    outputDir := ← memberOr members "output_dir" base.outputDir reader.text?
    basePath := ← memberOr members "api_base_path" base.basePath reader.text?
    aliasImports := ← memberOr members "alias_imports" base.aliasImports reader.switch?
    aliasRoot := ← memberOr members "alias_root" base.aliasRoot reader.text?
    exclude := ← memberOr members "exclude" base.exclude (reader.list? reader.kind?)
    clean := ← memberOr members "clean" base.clean reader.switch?
    templateDir := ← memberOr members "template_dir" base.templateDir reader.optionalText?
    domainPatterns :=
      ← memberOr members "domain_patterns" base.domainPatterns (reader.list? reader.pattern?)
    postGenerate := ← memberOr members "post_generate" base.postGenerate reader.commands? }

def config? (reader : SettingsReader ν) (value : ν) : Option Config :=
  (reader.members? Config.memberNames value).bind reader.ofMembers?

end SettingsReader

namespace Json

/-- Reads an artifact kind: its name, or an object with that name and null. -/
def kind? : Json → Option ArtifactKind
  | .str name => ArtifactKind.ofName? name
  | .obj [(name, .null)] => ArtifactKind.ofName? name
  | _ => none

def commands? : Json → Option (List String)
  | .str command => some [command]
  | .null => some []
  | .arr items => items.mapM text?
  | _ => none

def optionalText? : Json → Option (Option String)
  | .null => some none
  | .str s => some (some s)
  | _ => none

def settings? (names : List String) : Json → Option (List (String × Json))
  | .obj members => some members
  | .arr items => if items.length ≤ names.length then some (names.zip items) else none
  | _ => none

def settingsReader : SettingsReader Json where
  text?
  switch? := bool?
  optionalText?
  items?
  kind?
  commands?
  members? := settings?

end Json

namespace Config

def ofJson? (value : Json) : Option Config := Json.settingsReader.config? value

def patternJson (p : DomainPattern) : Json :=
  .obj [("pattern", .str p.pattern), ("domain", .str p.domain)]

def toJson (config : Config) : Json :=
  .obj [
    ("spec_location", .str config.specLocation),
    ("output_dir", .str config.outputDir),
    ("api_base_path", .str config.basePath),
    ("alias_imports", .bool config.aliasImports),
    ("alias_root", .str config.aliasRoot),
    ("exclude", .arr (config.exclude.map fun kind => .str kind.name)),
    ("clean", .bool config.clean),
    ("template_dir", .ofText? config.templateDir),
    ("domain_patterns", .arr (config.domainPatterns.map patternJson)),
    ("post_generate", .ofTexts config.postGenerate)]

end Config

end ClientGen
