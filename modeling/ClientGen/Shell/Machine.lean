import ClientGen.Failure
import ClientGen.Files.Action
import ClientGen.Ordered
import ClientGen.Shell.Basic

/-!
# The state of a shell

A shell works in a folder of a file tree. What its commands print goes to buffers, the first two
of which are its own output and its own messages.
-/

namespace ClientGen.Shell

open Files

/-- The state of a shell. `ended` says how it ended if it has. -/
structure Machine where
  tree : Tree
  folder : Place
  environment : List (String × String)
  buffers : List String
  status : Nat
  ended : Option ExitStatus
deriving Repr, Inhabited

/-- Where the text of a stream goes. -/
inductive Sink where
  | buffer (index : Nat)
  | file (place : Place)
  | nowhere
deriving DecidableEq, Repr, Inhabited

/-- What a command reads, and where it prints its output and its messages. -/
structure Streams where
  input : String
  output : Sink
  messages : Sink
deriving Repr, Inhabited

namespace Machine

def starting (tree : Tree) (folder : Place) (environment : List (String × String)) : Machine where
  tree
  folder
  environment
  buffers := ["", ""]
  status := 0
  ended := none

def printed (m : Machine) (index : Nat) : String := (m.buffers[index]?).getD ""

def print (m : Machine) (sink : Sink) (text : String) : Machine :=
  match sink with
  | .nowhere => m
  | .buffer index => { m with buffers := m.buffers.set index (m.printed index ++ text) }
  | .file place =>
    match m.tree.at? place with
    | some (.file content) => { m with tree := m.tree.put place (.file (content ++ text)) }
    | _ => m

def withStatus (m : Machine) (status : Nat) : Machine := { m with status }

def complain (m : Machine) (streams : Streams) (line : Nat) (text : String) (status : Nat) :
    Machine :=
  (m.print streams.messages ("sh: " ++ toString line ++ ": " ++ text ++ "\n")).withStatus status

def folderPath (m : Machine) : String := "/" ++ String.intercalate "/" m.folder

def processId : String := "1000"

def value (m : Machine) (name : String) : String :=
  match name with
  | "?" => toString m.status
  | "$" => processId
  | "#" => "0"
  | "0" => "sh"
  | "PWD" => m.folderPath
  | _ => (m.environment.lookup name).getD ""

def assign (m : Machine) (name value : String) : Machine :=
  { m with environment := (name, value) :: m.environment.filter (·.1 ≠ name) }

end Machine

/-- A part of the value of a word: a character, a place where a word is certain to be, or a place
where it is cut. -/
inductive Atom where
  | char (c : Char) (isQuoted : Bool)
  | mark
  | gap
deriving DecidableEq, Repr, Inhabited

def cutAtom (c : Char) : Atom :=
  if c == ' ' || c == '\t' || c == '\n' then .gap else .char c false

/-- The atoms of a part of a word. What is still to be run has none. -/
def WordPart.atoms (m : Machine) : WordPart → List Atom
  | .plain text => text.toList.map (.char · false)
  | .quoted text => .mark :: text.toList.map (.char · true)
  | .variable name true => .mark :: (m.value name).toList.map (.char · true)
  | .variable name false =>
    (m.value name).toList.map cutAtom
  | .output _ _ => []
  | .value text true => .mark :: text.toList.map (.char · true)
  | .value text false => text.toList.map cutAtom

def fieldsOf (atoms : List Atom) : List (List Atom) :=
  (atoms.splitOn .gap).filter (!·.isEmpty)

def patternOf (field : List Atom) : List (Char × Bool) :=
  field.filterMap fun
    | .char c isQuoted => some (c, !isQuoted && (c == '*' || c == '?'))
    | _ => none

def textOf (pattern : List (Char × Bool)) : String := String.ofList (pattern.map Prod.fst)

def suffixes {α : Type} : List α → List (List α)
  | [] => [[]]
  | a :: rest => (a :: rest) :: suffixes rest

def matchesName : List (Char × Bool) → List Char → Bool
  | [], name => name.isEmpty
  | ('*', true) :: rest, name => (suffixes name).any (matchesName rest)
  | (_, true) :: rest, name =>
    match name with
    | [] => false
    | _ :: others => matchesName rest others
  | (c, false) :: rest, name =>
    match name with
    | [] => false
    | d :: others => c == d && matchesName rest others

def Machine.pathsBelow (m : Machine) (base : String) (piece : List (Char × Bool)) : List String :=
  if piece.any (·.2) then
    match m.tree.locate m.folder (if base = "" then "." else base) with
    | .error _ => []
    | .ok place =>
      let shown := (m.tree.names place).filter fun name =>
        matchesName piece name.toList &&
          (name.toList.head? ≠ some '.' || piece.head? = some ('.', false))
      (orderedSet shown).map (base ++ ·)
  else [base ++ textOf piece]

/-- The paths that a field stands for: those that match if there are any, or else its text. -/
def Machine.paths (m : Machine) (field : List Atom) : List String :=
  let pattern := patternOf field
  if pattern.any (·.2) then
    let pieces := pattern.splitOn ('/', false)
    let found := (pieces.zipIdx).foldl
      (fun bases (piece, index) =>
        bases.flatMap fun base =>
          m.pathsBelow (if index = 0 then base else base ++ "/") piece)
      [""]
    match found.filter fun path => (m.tree.find m.folder path).toBool with
    | [] => [textOf pattern]
    | paths => paths
  else [textOf pattern]

def Machine.expand (m : Machine) (word : Word) : List String :=
  (fieldsOf (word.flatMap (·.atoms m))).flatMap m.paths

def Machine.expandWhole (m : Machine) (word : Word) : String :=
  String.join (word.map fun
    | .plain text => text
    | .quoted text => text
    | .variable name _ => m.value name
    | .output _ _ => ""
    | .value text _ => text)

end ClientGen.Shell
