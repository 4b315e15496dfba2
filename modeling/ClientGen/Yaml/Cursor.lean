/-!
# Places in YAML text

A cursor stands before the rest of a text. It knows the line and the column that it has come to,
because indentation carries meaning.
-/

namespace ClientGen.Yaml

def isBreak (c : Char) : Bool :=
  c == '\n' || c == '\r' || c == '\x85' || c == '\u2028' || c == '\u2029'

def isBlank (c : Char) : Bool := c == ' ' || c == '\t'

def isGap (c? : Option Char) : Bool := c?.all fun c => isBlank c || isBreak c

/-- A character of a name: a letter, a digit, a dash or an underscore. -/
def isNameChar (c : Char) : Bool := c.isAlphanum || c == '-' || c == '_'

def isAllowed (c : Char) : Bool :=
  let n := c.toNat
  c == '\t' || c == '\n' || c == '\r' || (0x20 ≤ n && n ≤ 0x7e) || n == 0x85 ||
    (0xa0 ≤ n && n ≤ 0xfffd) || 0x10000 ≤ n

/-- A place in a text, of which `size` is more than the length. -/
structure Cursor where
  size : Nat
  rest : List Char
  index : Nat
  line : Nat
  column : Nat
deriving Repr, Inhabited

namespace Cursor

def start (text : List Char) : Cursor := ⟨text.length + 1, text, 0, 0, 0⟩

def next? (c : Cursor) : Option Char := c.rest.head?

def after? (c : Cursor) (n : Nat) : Option Char := c.rest[n]?

def sees (c : Cursor) (d : Char) : Bool := c.next? == some d

def atGap (c : Cursor) : Bool := isGap c.next?

def atBlank (c : Cursor) : Bool := c.next?.any isBlank

def atBreak (c : Cursor) : Bool := c.next?.any isBreak

def atLineEnd (c : Cursor) : Bool := c.next?.all isBreak

def skip (c : Cursor) (n : Nat) : Cursor :=
  { c with rest := c.rest.drop n, index := c.index + n, column := c.column + n }

def skipWhile (p : Char → Bool) (c : Cursor) : Cursor := c.skip (c.rest.takeWhile p).length

/-- The cursor on the next line, and the line break that was passed. Most line breaks mean the
same. -/
def passBreak? (c : Cursor) : Option (Char × Cursor) :=
  match c.rest with
  | '\r' :: '\n' :: rest => some ('\n', ⟨c.size, rest, c.index + 2, c.line + 1, 0⟩)
  | d :: rest =>
    if isBreak d then
      some (if d == '\u2028' || d == '\u2029' then d else '\n',
        ⟨c.size, rest, c.index + 1, c.line + 1, 0⟩)
    else none
  | [] => none

def passBreak (c : Cursor) : Cursor := (c.passBreak?.map (·.2)).getD c

def passComment? (c : Cursor) : Option Cursor :=
  let c := c.skipWhile isBlank
  let c := if c.sees '#' then c.skipWhile (!isBreak ·) else c
  if c.atLineEnd then some c else none

def seesMark (c : Cursor) (d : Char) : Bool :=
  c.column == 0 && c.rest.take 3 == [d, d, d] && isGap (c.after? 3)

def atDocumentMark (c : Cursor) : Bool := c.seesMark '-' || c.seesMark '.'

end Cursor

end ClientGen.Yaml
