import ClientGen.Command.Option

/-!
# Help

The options of a command are listed with what they are for, on one line each or, where that is
too wide or explained at length, on lines of their own.
-/

namespace ClientGen.Command

def programName : String := "swaggen"

def version : String := "0.1.0"

def aboutProgram : String :=
  "CLI for generating typed TypeScript clients and Redux state from OpenAPI specs"

def aboutGenerate : String := "Generate a TypeScript client and Redux state from an OpenAPI spec"

def versionText : String := programName ++ " " ++ version ++ "\n"

def columns (entries : List (String × String)) : String :=
  let width := (entries.map (·.1.length)).foldl max 0
  String.join (entries.map fun (head, about) =>
    head ++ String.ofList (List.replicate (width + 2 - head.length) ' ') ++ about ++ "\n")

def margin : String := "          "

def explanation (detailed : Bool) (name : OptionName) : String :=
  match detailed, name, name.examples with
  | true, .help, _ => name.about ++ " (see a summary with '-h')"
  | false, .help, _ => name.about ++ " (see more with '--help')"
  | true, _, first :: others =>
    name.about ++ "\n" ++ margin ++ "\n" ++ margin ++
      String.intercalate " " ((first :: others).map ("Example: " ++ ·))
  | _, _, _ => name.about

def programHelp : String :=
  aboutProgram ++ "\n\nUsage: " ++ programName ++ " [OPTIONS] <COMMAND>\n\nCommands:\n" ++
    columns [("  generate", aboutGenerate),
      ("  help", "Print this message or the help of the given subcommand(s)")] ++
    "\nOptions:\n" ++ columns (commonOptions.map fun name => (name.usage, name.about))

def generateHelp (detailed : Bool) : String :=
  aboutGenerate ++ "\n\nUsage: " ++ programName ++ " generate [OPTIONS]\n\nOptions:\n" ++
    String.intercalate (if detailed then "\n" else "") (generateOptions.map fun name =>
      name.usage ++ "\n" ++ margin ++ explanation detailed name ++ "\n")

def helpHelp : String :=
  "Print this message or the help of the given subcommand(s)\n\nUsage: " ++ programName ++
    " help [COMMAND]...\n\nArguments:\n  [COMMAND]...  Print help for the subcommand(s)\n"

end ClientGen.Command
