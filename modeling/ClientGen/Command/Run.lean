import ClientGen.Command.Line
import ClientGen.Run.Generate
import ClientGen.Run.Settings

/-!
# Running a command line

Options go before what the configuration file says. A failure is reported with what was being
done, and with its causes indented below.
-/

namespace ClientGen

def Failure.causes (failure : Failure) : List String :=
  match failure with
  | .files cause => [failure.message, cause.message]
  | _ => [failure.message]

namespace Command

open Files

def formatHook : String := "npx prettier --write ."

def addNew {α : Type} [DecidableEq α] (xs : List α) (a : α) : List α :=
  if a ∈ xs then xs else xs ++ [a]

def Options.apply (o : Options) (config : Config) : Config where
  specLocation := o.url.getD config.specLocation
  outputDir := o.output.getD config.outputDir
  basePath := o.basePath.getD config.basePath
  aliasImports := config.aliasImports || o.useAlias
  aliasRoot := config.aliasRoot
  exclude := o.exclude.foldl addNew config.exclude
  clean := config.clean || o.clean
  templateDir := o.templateDir.or config.templateDir
  domainPatterns := config.domainPatterns
  postGenerate :=
    if o.prettier then addNew config.postGenerate formatHook else config.postGenerate

structure Complaint where
  doing : String
  failure : Failure

def indentLines (indentation text : String) : String :=
  String.ofList (text.toList.flatMap fun c =>
    if c == '\n' then c :: indentation.toList else [c])

def causeLines (causes : List String) : List String :=
  match causes with
  | [cause] => ["    " ++ indentLines "    " cause]
  | _ => causes.mapIdx fun i cause => "    " ++ toString i ++ ": " ++ indentLines "       " cause

def Complaint.message (c : Complaint) : String :=
  "Error: " ++ c.doing ++ "\n\nCaused by:\n" ++
    String.intercalate "\n" (causeLines c.failure.causes) ++ "\n"

/-- How a run ended: its exit code and what it printed. -/
structure Outcome where
  exitCode : Nat
  output : String := ""
  messages : String := ""
deriving DecidableEq, Repr

/-- Generates as the options say: the configuration and what was done. -/
def perform (around : Surroundings) (options : Options) (web : Web := .offline) :
    Action Complaint (Config × Report) := do
  let base ← match options.config with
    | none => pure {}
    | some path =>
      Action.mapFailure (Complaint.mk ("Failed to load config file " ++ path))
        (Action.look fun tree => loadConfig around tree path)
  let config := options.apply base
  if let some problem := config.problem? then
    throw ⟨"Invalid configuration", .config problem⟩
  let report ← Action.mapFailure (Complaint.mk ("Failed to generate from " ++ config.specLocation))
    (generate around config web)
  return (config, report)

def summary (config : Config) (report : Report) : String :=
  "Generated " ++ toString report.written.length ++ " files in " ++ config.outputDir ++ " (" ++
    toString report.warnings.length ++ " warnings)\n"

def misuseCode : Nat := 2

def run (around : Surroundings) (arguments : List String) (tree : Tree)
    (web : Web := .offline) : Outcome × Tree :=
  match Options.read arguments with
  | .error .misuse => ({ exitCode := misuseCode, messages := programHelp }, tree)
  | .error (.text text) => ({ exitCode := 0, output := text }, tree)
  | .ok options =>
    match (perform around options web).perform tree with
    | (.ok (config, report), tree) => ({ exitCode := 0, output := summary config report }, tree)
    | (.error complaint, tree) => ({ exitCode := 1, messages := complaint.message }, tree)

end Command

end ClientGen
