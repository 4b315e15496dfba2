import ClientGen.Unicode.Character

/-!
# Identifiers and file stems made from arbitrary names

Both keep ASCII letters, digits and underscores and write an underscore for anything else. An
identifier also gets a leading underscore where it would be empty or start with a digit.
-/

namespace ClientGen.Text
open ClientGen.Unicode

/-- A character that may stand inside an identifier or a file stem. -/
def isNameChar (c : Char) : Bool := c.isAlphanum || c == '_'

def maskName (name : List Char) : List Char :=
  name.map fun c => if isNameChar c then c else '_'

def guardStart (name : List Char) : List Char :=
  match name with
  | [] => ['_']
  | c :: _ => if c.isDigit then '_' :: name else name

/-- A declared name made safe to use as an identifier. -/
def identifier (name : String) : String := String.ofList (guardStart (maskName name.toList))

/-- A group key made safe to use as a file name. -/
def fileStem (key : String) : String := String.ofList (maskName key.toList)

end ClientGen.Text
