import ClientGen.Unicode.Character

/-!
# Words of an identifier and the cases built from them

A text is cut into lower case words at every character that is neither letter nor number and at
case changes: an upper case letter starts a word after a lower case letter or a digit, and the
last capital of a run belongs to the word that follows it (`getHTTPResponse` has the words
`get`, `http` and `response`).
-/

namespace ClientGen.Text
open ClientGen.Unicode

def startsWord (before : Option Char) (c : Char) (after : Option Char) : Bool :=
  match before with
  | none => false
  | some b =>
    isUppercase c && (isLowercase b || b.isDigit || (isUppercase b && after.any isLowercase))

def finishWord (word : List Char) (words : List (List Char)) : List (List Char) :=
  if word.isEmpty then words else word :: words

def splitFrom (word : List Char) (before : Option Char) : List Char → List (List Char)
  | [] => finishWord word []
  | c :: rest =>
    if !isAlphanumeric c then finishWord word (splitFrom [] none rest)
    else if startsWord before c rest.head? then
      finishWord word (splitFrom (lowercase c) (some c) rest)
    else splitFrom (word ++ lowercase c) (some c) rest

def splitWords (s : List Char) : List (List Char) := splitFrom [] none s

/-- The lower case words of a text. -/
def words (s : String) : List String := (splitWords s.toList).map String.ofList

/-- The text with its first character in upper case, the rest untouched. -/
def capitalizeChars : List Char → List Char
  | [] => []
  | c :: rest => uppercase c ++ rest

def capitalize (s : String) : String := String.ofList (capitalizeChars s.toList)

/-- The words joined by underscores, as in `find_pets`. -/
def snakeCase (s : String) : String :=
  String.ofList (List.intercalate ['_'] (splitWords s.toList))

/-- The words capitalized and run together, as in `FindPets`. -/
def pascalCase (s : String) : String :=
  String.ofList ((splitWords s.toList).flatMap capitalizeChars)

/-- The words run together, all but the first capitalized, as in `findPets`. -/
def camelCase (s : String) : String :=
  match splitWords s.toList with
  | [] => ""
  | first :: rest => String.ofList (first ++ rest.flatMap capitalizeChars)

end ClientGen.Text
