import ClientGen.Text.Identifier

/-!
# String literals, property keys and parameter accesses

Texts of the document reach the expressions of generated code through these: a single-quoted
literal escapes the backslash, the quote and the two line breaks, and a property name that is not
a plain identifier is written as such a literal.
-/

namespace ClientGen.Text

def escapeChar (c : Char) : List Char :=
  if c == '\\' then ['\\', '\\']
  else if c == '\x27' then ['\\', '\x27']
  else if c == '\n' then ['\\', 'n']
  else if c == '\r' then ['\\', 'r']
  else [c]

def quoteChars (s : List Char) : List Char := '\x27' :: (s.flatMap escapeChar ++ ['\x27'])

/-- A text as a single-quoted literal. -/
def quoted (s : String) : String := String.ofList (quoteChars s.toList)

/-- A character that may start a property name written without quotes. -/
def isKeyStart (c : Char) : Bool := c.isAlpha || c == '_' || c == '$'

/-- A character that may stand in a property name written without quotes. -/
def isKeyChar (c : Char) : Bool := c.isAlphanum || c == '_' || c == '$'

def isPlainKey (name : List Char) : Bool :=
  match name with
  | [] => false
  | c :: _ => isKeyStart c && name.all isKeyChar

/-- A property name as a key of an object type or literal. -/
def propertyKey (name : String) : String :=
  if isPlainKey name.toList then name else quoted name

/-- The access of a property of `params`: `params.x`, or `params['x-y']` for a quoted key. -/
def paramAccess (name : String) : String :=
  if isPlainKey name.toList then "params." ++ name else "params[" ++ quoted name ++ "]"

end ClientGen.Text
