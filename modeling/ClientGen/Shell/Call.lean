import ClientGen.Shell.Machine

namespace ClientGen.Shell

open Files

structure Call where
  line : Nat
  name : String
  arguments : List String
  streams : Streams
deriving Repr, Inhabited

abbrev Tool := Call → Machine → Machine

namespace Call

def say (call : Call) (text : String) (m : Machine) : Machine := m.print call.streams.output text

def warn (call : Call) (text : String) (m : Machine) : Machine :=
  (m.print call.streams.messages (call.name ++ ": " ++ text ++ "\n")).withStatus 1

def refuse (call : Call) (text : String) (status : Nat) (m : Machine) : Machine :=
  m.complain call.streams call.line (call.name ++ ": " ++ text) status

def options (call : Call) : List Char × List String :=
  let before := call.arguments.takeWhile (· ≠ "--")
  let after := (call.arguments.dropWhile (· ≠ "--")).drop 1
  let isOption (argument : String) := argument.startsWith "-" && argument ≠ "-"
  ((before.filter isOption).flatMap fun argument => argument.toList.drop 1,
    before.filter (!isOption ·) ++ after)

/-- Does something for each of some paths. The call succeeds if none of them makes it fail. -/
def each (paths : List String) (action : String → Machine → Machine) (m : Machine) : Machine :=
  paths.foldl (fun m path => action path m) (m.withStatus 0)

end Call

namespace Machine

def find (m : Machine) (path : String) : Except Files.Failure Files.Entry :=
  m.tree.find m.folder path

def isFolder (m : Machine) (path : String) : Bool := m.tree.isFolder m.folder path

/-- Performs a file action. A failure is put into words and printed. -/
def perform (m : Machine) (call : Call) (action : Action Files.Failure Unit) (about : String) :
    Machine :=
  match action.perform m.tree with
  | (.ok _, tree) => { m with tree }
  | (.error e, tree) => call.warn (about ++ ": " ++ e.words) { m with tree }

end Machine

def inQuotes (path : String) : String := "'" ++ path ++ "'"

def linesOf (text : String) : List (List Char) := text.toList.splitBy fun a _ => a ≠ '\n'

def lineText (line : List Char) : String :=
  String.ofList (if line.getLast? = some '\n' then line.dropLast else line)

def unlines (lines : List String) : String := String.join (lines.map (· ++ "\n"))

end ClientGen.Shell
