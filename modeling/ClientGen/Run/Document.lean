import ClientGen.Failure
import ClientGen.Json.Reader
import ClientGen.Run.Address
import ClientGen.Template.Folder
import ClientGen.Yaml.Value

namespace ClientGen

open Files

def readDocument? (text : String) : Option Json := (Json.parse? text).or (Json.ofYaml? text)

def openDocument (around : Surroundings) (tree : Tree) (path : String) : Except Failure Json :=
  match tree.read around.start path with
  | .error e => .error (.files e)
  | .ok text =>
    match readDocument? text with
    | some document => .ok document
    | none => .error (.document (.unreadable path))

def fetchDocument (web : Web) (address : String) : Except Failure Json :=
  match web.answer address with
  | .unreachable => .error (.network address)
  | .refused status => .error (.document (.refused address status))
  | .content text =>
    match readDocument? text with
    | some document => .ok document
    | none => .error (.document (.unreadableFrom address))

def loadDocument (around : Surroundings) (web : Web) (tree : Tree) (location : String) :
    Except Failure Json :=
  if isWebAddress location then fetchDocument web (web.address location)
  else openDocument around tree location

end ClientGen
