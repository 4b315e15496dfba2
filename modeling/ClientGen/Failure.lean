import ClientGen.Config.Basic
import ClientGen.Files.Failure

/-!
# Failures of a run

A run fails for one cause. Texts that belong to a library, which differ from release to release,
are left out of the wording.
-/

namespace ClientGen

/-- How a process ended: with a code, or by a signal. -/
inductive ExitStatus where
  | code (n : Nat)
  | signal (n : Nat)
deriving DecidableEq, Repr, Inhabited

def signalNames : List (Nat × String) :=
  [(1, "HUP"), (2, "INT"), (3, "QUIT"), (6, "ABRT"), (9, "KILL"), (10, "USR1"), (11, "SEGV"),
    (12, "USR2"), (13, "PIPE"), (14, "ALRM"), (15, "TERM")]

def ExitStatus.message : ExitStatus → String
  | .code n => "exit status: " ++ toString n
  | .signal n =>
    "signal: " ++ toString n ++
      (match signalNames.lookup n with
        | some name => " (SIG" ++ name ++ ")"
        | none => "")

/-- What is wrong with a document: the text at a path or at an address does not hold one, or the
address does not hand it out. -/
inductive DocumentProblem where
  | unreadable (path : String)
  | unreadableFrom (address : String)
  | refused (address status : String)
deriving DecidableEq, Repr

def DocumentProblem.message : DocumentProblem → String
  | .unreadable path =>
    "Failed to parse OpenAPI spec at " ++ path ++ ": content is neither valid JSON nor YAML"
  | .unreadableFrom address =>
    "Failed to parse OpenAPI spec from " ++ address ++ ": content is neither valid JSON nor YAML"
  | .refused address status =>
    "Failed to fetch OpenAPI spec from " ++ address ++ ": HTTP " ++ status

inductive TemplateProblem where
  | unreadable (folder : String)
  | contextNotObject (name : String)
  | unrenderable (name : String)
  | hookFailed (command : String) (status : ExitStatus) (output : String)
deriving DecidableEq, Repr

def TemplateProblem.message : TemplateProblem → String
  | .unreadable folder => "Failed to parse templates in " ++ folder
  | .contextNotObject name => "Context for template '" ++ name ++ "' must be a JSON object"
  | .unrenderable name => "Failed to render template '" ++ name ++ "'"
  | .hookFailed command status output =>
    "Post-generation hook '" ++ command ++ "' failed with status " ++ status.message ++ "\n" ++
      output

inductive Failure where
  | config (problem : ConfigProblem)
  | document (problem : DocumentProblem)
  | template (problem : TemplateProblem)
  | files (cause : Files.Failure)
  | settingsJson
  | settingsYaml
  | network (address : String)
deriving DecidableEq, Repr

namespace Failure

def message : Failure → String
  | .config problem => "Configuration error: " ++ problem.message
  | .document problem => "OpenAPI error: " ++ problem.message
  | .template problem => "Template error: " ++ problem.message
  | .files cause => "I/O error: " ++ cause.message
  | .settingsJson => "JSON parsing error"
  | .settingsYaml => "YAML parsing error"
  | .network address => "HTTP error: error sending request for url (" ++ address ++ ")"

end Failure

end ClientGen
