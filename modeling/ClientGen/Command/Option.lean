/-!
# Options of the command line

Every option has a long name, and some have a letter. An option takes a value or is a switch.
-/

namespace ClientGen.Command

inductive OptionName where
  | url | output | config | clean | exclude | basePath | useAlias | templateDir | prettier
  | verbose | help | version
deriving DecidableEq, Repr, Inhabited

namespace OptionName

def long : OptionName → String
  | url => "url"
  | output => "output"
  | config => "config"
  | clean => "clean"
  | exclude => "exclude"
  | basePath => "api-base-path"
  | useAlias => "use-alias"
  | templateDir => "template-dir"
  | prettier => "prettier"
  | verbose => "verbose"
  | help => "help"
  | version => "version"

def letter? : OptionName → Option Char
  | url => some 'u'
  | output => some 'o'
  | clean => some 'c'
  | exclude => some 'e'
  | basePath => some 'b'
  | verbose => some 'v'
  | help => some 'h'
  | version => some 'V'
  | _ => none

def value? : OptionName → Option String
  | url => some "<URL>"
  | output => some "<OUTPUT>"
  | config => some "<CONFIG>"
  | exclude => some "<EXCLUDE>..."
  | basePath => some "<API_BASE_PATH>"
  | templateDir => some "<TEMPLATE_DIR>"
  | _ => none

def about : OptionName → String
  | url => "Path or URL to the OpenAPI or Swagger document (YAML or JSON)"
  | output => "Output directory for generated code"
  | config => "YAML configuration file; flags override its values"
  | clean => "Remove the output directory before writing"
  | exclude =>
    "Artifact kinds to skip (models, params, services, thunks, slices, tags, hooks, store)"
  | basePath => "Path prefix shared by every route, e.g. `api` or `api/v1`"
  | useAlias => "Import models through the alias root instead of relative paths"
  | templateDir => "Directory with `.tera` files overriding the built-in templates"
  | prettier => "Run prettier over the output after writing"
  | verbose => "Log at debug level (RUST_LOG takes precedence)"
  | help => "Print help"
  | version => "Print version"

def examples : OptionName → List String
  | url => ["--url path/to/openapi.json", "--url http://localhost:8000/openapi.json"]
  | _ => []

def usage (name : OptionName) : String :=
  "  " ++ (match name.letter? with
      | some c => "-" ++ String.singleton c ++ ", "
      | none => "    ") ++
    "--" ++ name.long ++ (name.value?.map (" " ++ ·)).getD ""

end OptionName

def commonOptions : List OptionName := [.verbose, .help, .version]

def generateOptions : List OptionName :=
  [.url, .verbose, .output, .config, .clean, .exclude, .basePath, .useAlias, .templateDir,
    .prettier, .help]

end ClientGen.Command
