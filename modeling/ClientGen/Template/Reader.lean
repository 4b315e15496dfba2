import ClientGen.Text.Trim
import ClientGen.Template.Basic

/-!
# Reading templates

Values are inserted between double braces, loops and branches are marked between braces with
percent signs, and comments stand between braces with number signs. A hyphen inside a bracket
takes the white space beside it away.
-/

namespace ClientGen

namespace TemplateReading

inductive Word where
  | name (path : List String)
  | quoted (text : String)
  | sign (c : Char)
deriving DecidableEq, Repr, Inhabited

def isSpace (c : Char) : Bool := c == ' ' || c == '\t' || c == '\n' || c == '\r'

def isNameChar (c : Char) : Bool := c.isAlphanum || c == '_'

def isSign (c : Char) : Bool := c == '|' || c == ',' || c == '(' || c == ')' || c == '='

def isQuote (c : Char) : Bool := c == '"' || c == '\x27' || c == '\x60'

/-- The names of a path behind its first one, and the rest; `fuel` bounds their number. -/
def readPath : Nat → List Char → List String × List Char
  | 0, chars => ([], chars)
  | fuel + 1, chars =>
    match chars with
    | '.' :: rest =>
      match rest.takeWhile isNameChar with
      | [] => ([], chars)
      | name =>
        let (names, after) := readPath fuel (rest.dropWhile isNameChar)
        (String.ofList name :: names, after)
    | _ => ([], chars)

def readWord? (chars : List Char) : Option (Word × List Char) :=
  match chars with
  | [] => none
  | c :: rest =>
    if isQuote c then
      match rest.dropWhile (· ≠ c) with
      | _ :: after => some (.quoted (String.ofList (rest.takeWhile (· ≠ c))), after)
      | [] => none
    else if isSign c then some (.sign c, rest)
    else if c.isAlpha || c == '_' then
      let first := c :: rest.takeWhile isNameChar
      let (names, after) := readPath chars.length (rest.dropWhile isNameChar)
      some (.name (String.ofList first :: names), after)
    else none

def afterEnd? (close : Char) : List Char → Option (Bool × List Char)
  | '-' :: c :: '\x7d' :: rest => if c == close then some (true, rest) else none
  | c :: '\x7d' :: rest => if c == close then some (false, rest) else none
  | _ => none

/-- Reads words up to the end of a bracket; `fuel` is at least the number of characters. -/
def readWords? (close : Char) : Nat → List Char → Option (List Word × Bool × List Char)
  | 0, _ => none
  | fuel + 1, chars =>
    let chars := chars.dropWhile isSpace
    match afterEnd? close chars with
    | some (trims, rest) => some ([], trims, rest)
    | none => do
      let (word, rest) ← readWord? chars
      let (words, trims, after) ← readWords? close fuel rest
      return (word :: words, trims, after)

def afterComment? : List Char → Option (Bool × List Char)
  | [] => none
  | '-' :: '#' :: '\x7d' :: rest => some (true, rest)
  | '#' :: '\x7d' :: rest => some (false, rest)
  | _ :: rest => afterComment? rest

inductive Bracket where
  | insert (words : List Word)
  | statement (words : List Word)
  | comment
deriving DecidableEq, Repr, Inhabited

/-- A piece of a template. A bracket says on which sides it takes white space away. -/
inductive Piece where
  | text (chars : List Char)
  | bracket (inside : Bracket) (before after : Bool)
deriving DecidableEq, Repr, Inhabited

def opening? : List Char → Option (Char × Bool × List Char)
  | '\x7b' :: c :: rest =>
    if c == '\x7b' || c == '%' || c == '#' then
      match rest with
      | '-' :: after => some (c, true, after)
      | _ => some (c, false, rest)
    else none
  | _ => none

def readBracket? (kind : Char) (rest : List Char) : Option (Bracket × Bool × List Char) :=
  if kind == '#' then (afterComment? rest).map fun (trims, after) => (.comment, trims, after)
  else if kind == '%' then
    (readWords? '%' (rest.length + 1) rest).map fun (words, trims, after) =>
      (.statement words, trims, after)
  else
    (readWords? '\x7d' (rest.length + 1) rest).map fun (words, trims, after) =>
      (.insert words, trims, after)

def withText (text : List Char) (pieces : List Piece) : List Piece :=
  if text.isEmpty then pieces else .text text :: pieces

/-- Cuts a template into pieces; `fuel` is at least the number of characters, and `text` is the
text since the last bracket, reversed. -/
def readPieces? : Nat → List Char → List Char → Option (List Piece)
  | 0, _, _ => none
  | fuel + 1, text, chars =>
    match opening? chars with
    | some (kind, before, rest) => do
      let (inside, after, rest) ← readBracket? kind rest
      let pieces ← readPieces? fuel [] rest
      return withText text.reverse (.bracket inside before after :: pieces)
    | none =>
      match chars with
      | [] => some (withText text.reverse [])
      | c :: rest => readPieces? fuel (c :: text) rest

def trimPieces (afterBracket : Bool) : List Piece → List Piece
  | [] => []
  | .text chars :: rest =>
    let chars := if afterBracket then chars.dropWhile Unicode.isBlank else chars
    let chars := match rest with
      | .bracket _ true _ :: _ => Text.dropEndWhile Unicode.isBlank chars
      | _ => chars
    .text chars :: trimPieces false rest
  | .bracket inside before after :: rest => .bracket inside before after :: trimPieces after rest

def readArguments? : List Word → Option (List (String × String) × List Word)
  | .sign ')' :: rest => some ([], rest)
  | .name [name] :: .sign '=' :: .quoted text :: .sign ')' :: rest => some ([(name, text)], rest)
  | .name [name] :: .sign '=' :: .quoted text :: .sign ',' :: rest =>
    (readArguments? rest).map fun (arguments, after) => ((name, text) :: arguments, after)
  | _ => none

/-- Reads filters to the end of the words; `fuel` is at least their number. -/
def readFilters? : Nat → List Word → Option (List Filter)
  | _, [] => some []
  | 0, _ => none
  | fuel + 1, .sign '|' :: .name [name] :: .sign '(' :: rest => do
    let (arguments, after) ← readArguments? rest
    let filters ← readFilters? fuel after
    return { name, arguments } :: filters
  | fuel + 1, .sign '|' :: .name [name] :: rest =>
    (readFilters? fuel rest).map ({ name } :: ·)
  | _ + 1, _ => none

def readExpression? : List Word → Option Expression
  | .name path :: rest => (readFilters? rest.length rest).map fun filters => { path, filters }
  | _ => none

/-- An unfinished loop or branch, with the nodes that came before it reversed. The finished arms of
a branch come in their order. -/
inductive Unfinished where
  | loop (key? : Option String) (item : String) (container : Expression) (before : Template)
  | loopRest (key? : Option String) (item : String) (container : Expression)
      (body before : Template)
  | branch (arms : List (Expression × Template)) (condition : Expression) (before : Template)
  | branchRest (arms : List (Expression × Template)) (before : Template)
deriving Inhabited

/-- The unfinished loops and branches, innermost first, and the nodes since the last of their
marks, reversed. -/
structure Building where
  stack : List Unfinished
  nodes : Template
deriving Inhabited

/-- The branches of several arms: each has the ones after it for the case that it is not taken. -/
def branchOf (arms : List (Expression × Template)) (otherwise : Template) : Template :=
  arms.foldr (fun (condition, body) rest => [.branch condition body rest]) otherwise

namespace Building

def add (b : Building) (node : TemplateNode) : Building := { b with nodes := node :: b.nodes }

def startRest? (b : Building) : Option Building :=
  match b.stack with
  | .loop key? item container before :: outer =>
    some ⟨.loopRest key? item container b.nodes.reverse before :: outer, []⟩
  | .branch arms condition before :: outer =>
    some ⟨.branchRest (arms ++ [(condition, b.nodes.reverse)]) before :: outer, []⟩
  | _ => none

def startArm? (b : Building) (next : Expression) : Option Building :=
  match b.stack with
  | .branch arms condition before :: outer =>
    some ⟨.branch (arms ++ [(condition, b.nodes.reverse)]) next before :: outer, []⟩
  | _ => none

def endLoop? (b : Building) : Option Building :=
  match b.stack with
  | .loop key? item container before :: outer =>
    some ⟨outer, .loop key? item container b.nodes.reverse [] :: before⟩
  | .loopRest key? item container body before :: outer =>
    some ⟨outer, .loop key? item container body b.nodes.reverse :: before⟩
  | _ => none

def endBranch? (b : Building) : Option Building :=
  match b.stack with
  | .branch arms condition before :: outer =>
    some ⟨outer, branchOf (arms ++ [(condition, b.nodes.reverse)]) [] ++ before⟩
  | .branchRest arms before :: outer =>
    some ⟨outer, branchOf arms b.nodes.reverse ++ before⟩
  | _ => none

def statement? (b : Building) : List Word → Option Building
  | .name ["for"] :: .name [key] :: .sign ',' :: .name [item] :: .name ["in"] :: rest =>
    (readExpression? rest).map fun e => ⟨.loop (some key) item e b.nodes :: b.stack, []⟩
  | .name ["for"] :: .name [item] :: .name ["in"] :: rest =>
    (readExpression? rest).map fun e => ⟨.loop none item e b.nodes :: b.stack, []⟩
  | .name ["if"] :: rest =>
    (readExpression? rest).map fun e => ⟨.branch [] e b.nodes :: b.stack, []⟩
  | .name ["elif"] :: rest => (readExpression? rest).bind b.startArm?
  | [.name ["else"]] => b.startRest?
  | [.name ["endfor"]] => b.endLoop?
  | [.name ["endif"]] => b.endBranch?
  | _ => none

def piece? (b : Building) : Piece → Option Building
  | .text chars => some (if chars.isEmpty then b else b.add (.text (String.ofList chars)))
  | .bracket .comment _ _ => some b
  | .bracket (.insert words) _ _ => (readExpression? words).map fun e => b.add (.insert e)
  | .bracket (.statement words) _ _ => b.statement? words

end Building

end TemplateReading

open TemplateReading in
def Template.read? (text : String) : Option Template := do
  let chars := text.toList
  let pieces ← readPieces? (chars.length + 1) [] chars
  let built ← (trimPieces false pieces).foldlM Building.piece? ⟨[], []⟩
  if built.stack.isEmpty then some built.nodes.reverse else none

end ClientGen
