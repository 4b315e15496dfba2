import ClientGen.Unicode.Letters
import ClientGen.Unicode.Cases
import ClientGen.Unicode.CaseMaps

/-!
# Character classes and case forms

Every class and case form answers for ASCII by its short rule and beyond ASCII by the tables.
Case forms are lists of characters, because `İ` has a lower case form of two characters and `ß`
an upper case form of two.
-/

namespace ClientGen.Unicode

/-- A character of the first 128 code points. -/
def isAscii (c : Char) : Bool := c.toNat < 128

def isUppercase (c : Char) : Bool :=
  if isAscii c then c.isUpper else uppercaseRuns.contains c.toNat

def isLowercase (c : Char) : Bool :=
  if isAscii c then c.isLower else lowercaseRuns.contains c.toNat

def isAlphabetic (c : Char) : Bool :=
  if isAscii c then c.isAlpha else alphabeticRuns.contains c.toNat

/-- A letter or a number of any kind. -/
def isAlphanumeric (c : Char) : Bool :=
  if isAscii c then c.isAlphanum
  else alphabeticRuns.contains c.toNat || numericRuns.contains c.toNat

def isDecimal (c : Char) : Bool :=
  if isAscii c then c.isDigit else decimalRuns.contains c.toNat

/-- A word character of a name pattern: a letter, a decimal digit, a mark, a connector such as
`_`, or a join control. -/
def isWord (c : Char) : Bool :=
  if isAscii c then c.isAlphanum || c == '_'
  else alphabeticRuns.contains c.toNat || decimalRuns.contains c.toNat ||
    joiningRuns.contains c.toNat

def isBlank (c : Char) : Bool :=
  if isAscii c then c == ' ' || (9 ≤ c.toNat && c.toNat ≤ 13) else whiteSpaceRuns.contains c.toNat

def isCased (c : Char) : Bool :=
  isUppercase c || isLowercase c || titlecaseRuns.contains c.toNat

def isCaseIgnorable (c : Char) : Bool :=
  if isAscii c then c == '\x27' || c == '.' || c == ':' || c == '^' || c == '\x60'
  else caseIgnorableRuns.contains c.toNat

def lowercase (c : Char) : List Char :=
  if isAscii c then [c.toLower]
  else match longLowercase.lookup c.toNat with
    | some form => form.map Char.ofNat
    | none => [Char.ofNat (lowercaseShifts.apply c.toNat)]

def uppercase (c : Char) : List Char :=
  if isAscii c then [c.toUpper]
  else match longUppercase.lookup c.toNat with
    | some form => form.map Char.ofNat
    | none => [Char.ofNat (uppercaseShifts.apply c.toNat)]

def caseVariants (c : Char) : List Char :=
  let folded := foldingShifts.apply c.toNat
  Char.ofNat folded :: (foldingShifts.sources folded).map Char.ofNat

def meetsCased (chars : List Char) : Bool :=
  match chars.dropWhile isCaseIgnorable with
  | [] => false
  | c :: _ => isCased c

/-- The lower case form of a text, given the characters before it from right to left: a sigma
that ends a word becomes a final sigma. -/
def lowercaseFrom (before : List Char) : List Char → List Char
  | [] => []
  | c :: rest =>
    let form :=
      if c == 'Σ' then (if meetsCased before && !meetsCased rest then ['ς'] else ['σ'])
      else lowercase c
    form ++ lowercaseFrom (c :: before) rest

def lowercaseText (s : String) : String := String.ofList (lowercaseFrom [] s.toList)

end ClientGen.Unicode
