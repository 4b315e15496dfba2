import ClientGen.Yaml.Cursor

/-!
# Scalars of YAML text

Plain and quoted scalars run over several lines, which are folded: a single line break becomes a
space, and of several the first is dropped. Block scalars keep their lines, or fold those that do
not start with a blank.
-/

namespace ClientGen.Yaml

/-- Text that is being read, with the blanks and line breaks since its last character. All lists
are in reverse. -/
structure Folding where
  text : List Char := []
  blanks : List Char := []
  folds : Bool := false
  first : Option Char := none
  others : List Char := []
deriving Inhabited

namespace Folding

def push (f : Folding) (c : Char) : Folding := { f with text := c :: f.text }

/-- Adds a blank. At the start of a line it does not count. -/
def pushBlank (f : Folding) (c : Char) : Folding :=
  if f.folds then f else { f with blanks := c :: f.blanks }

def pushBreak (f : Folding) (c : Char) : Folding :=
  if f.folds then { f with others := c :: f.others }
  else { f with blanks := [], folds := true, first := some c }

def gap (f : Folding) : List Char :=
  if f.folds then
    if f.first = some '\n' then (if f.others.isEmpty then [' '] else f.others)
    else f.others ++ f.first.toList
  else f.blanks

/-- Puts what stands for the blanks and line breaks behind the text. -/
def join (f : Folding) : Folding := { text := f.gap ++ f.text }

def result (f : Folding) : String := String.ofList f.text.reverse

end Folding

/-- Passes over blanks and line breaks. A tab may not stand for indentation to the left of a
column. `fuel` is more than the number of characters. -/
def passGap? (limit : Nat) : Nat → Folding → Cursor → Option (Folding × Cursor)
  | 0, _, _ => none
  | fuel + 1, f, c =>
    match c.next? with
    | none => some (f, c)
    | some d =>
      if isBlank d then
        if f.folds && c.column < limit && d == '\t' then none
        else passGap? limit fuel (f.pushBlank d) (c.skip 1)
      else match c.passBreak? with
        | some (d, c) => passGap? limit fuel (f.pushBreak d) c
        | none => some (f, c)

def isFlowSign (c : Char) : Bool := c == ',' || c == '[' || c == ']' || c == '\x7b' || c == '\x7d'

/-- Reads the characters of a plain scalar up to a gap. `fuel` is more than their number. -/
def readRun? (inFlow : Bool) : Nat → Folding → Cursor → Option (Folding × Cursor)
  | 0, _, _ => none
  | fuel + 1, f, c =>
    match c.next? with
    | none => some (f, c)
    | some d =>
      let following := c.after? 1
      if c.atGap then some (f, c)
      else if inFlow && d == ':' && following.any fun e => isFlowSign e || e == '?' then none
      else if (d == ':' && isGap following) || (inFlow && isFlowSign d) then some (f, c)
      else readRun? inFlow fuel (f.join.push d) (c.skip 1)

/-- Reads a plain scalar whose lines start at a column or to the right of it. `fuel` is more than
the number of characters. -/
def readPlainFrom? (inFlow : Bool) (indent : Nat) : Nat → Folding → Cursor →
    Option (Folding × Cursor)
  | 0, _, _ => none
  | fuel + 1, f, c =>
    if c.atDocumentMark || c.sees '#' then some (f, c)
    else do
      let (f, c) ← readRun? inFlow c.size f c
      if !(c.atBlank || c.atBreak) then return (f, c)
      let (f, c) ← passGap? indent c.size f c
      if !inFlow && c.column < indent then return (f, c)
      readPlainFrom? inFlow indent fuel f c

/-- Reads a plain scalar: its text, whether a line has ended behind it, and what follows. -/
def readPlain? (inFlow : Bool) (indent : Nat) (c : Cursor) : Option (String × Bool × Cursor) :=
  (readPlainFrom? inFlow indent c.size {} c).map fun (f, c) =>
    (f.result, f.folds, c)

def escapes : List (Char × Char) :=
  [('0', '\x00'), ('a', '\x07'), ('b', '\x08'), ('t', '\t'), ('\t', '\t'), ('n', '\n'),
    ('v', '\x0b'), ('f', '\x0c'), ('r', '\r'), ('e', '\x1b'), (' ', ' '), ('"', '"'), ('/', '/'),
    ('\\', '\\'), ('N', '\x85'), ('_', '\xa0'), ('L', '\u2028'), ('P', '\u2029')]

def codeLength? : Char → Option Nat
  | 'x' => some 2
  | 'u' => some 4
  | 'U' => some 8
  | _ => none

def hexValue? (c : Char) : Option Nat :=
  if c.isDigit then some (c.toNat - 48)
  else if 'a' ≤ c && c ≤ 'f' then some (c.toNat - 87)
  else if 'A' ≤ c && c ≤ 'F' then some (c.toNat - 55)
  else none

def charOfCode? (digits : List Char) (size : Nat) : Option Char := do
  if digits.length ≠ size then failure
  let code := (← digits.mapM hexValue?).foldl (fun n d => n * 16 + d) 0
  if h : code.isValidChar then return Char.ofNatAux code h else failure

def readEscape? (c : Cursor) : Option (Char × Cursor) := do
  let d ← c.next?
  match escapes.lookup d with
  | some meant => return (meant, c.skip 1)
  | none =>
    let size ← codeLength? d
    return (← charOfCode? ((c.rest.drop 1).take size) size, c.skip (1 + size))

/-- Reads the characters of a quoted scalar up to a gap or to its end. `fuel` is more than their
number. -/
def readQuotedRun? (quote : Char) : Nat → Folding → Cursor → Option (Folding × Cursor)
  | 0, _, _ => none
  | fuel + 1, f, c =>
    match c.next? with
    | none => some (f, c)
    | some d =>
      if c.atGap then some (f, c)
      else if d == quote then
        if quote == '\x27' && c.after? 1 == some '\x27' then
          readQuotedRun? quote fuel (f.push d) (c.skip 2)
        else some (f, c)
      else if quote == '"' && d == '\\' then
        match (c.skip 1).passBreak? with
        | some (_, c) => some ({ f with folds := true }, c)
        | none => do
          let (meant, c) ← readEscape? (c.skip 1)
          readQuotedRun? quote fuel (f.push meant) c
      else readQuotedRun? quote fuel (f.push d) (c.skip 1)

/-- Reads a quoted scalar behind its opening quote. `fuel` is more than the number of its
characters. -/
def readQuotedFrom? (quote : Char) : Nat → Folding → Cursor → Option (String × Cursor)
  | 0, _, _ => none
  | fuel + 1, f, c => do
    if c.atDocumentMark || c.next?.isNone then failure
    let (f, c) ← readQuotedRun? quote c.size f c
    if c.sees quote then return (f.result, c.skip 1)
    let (f, c) ← passGap? 0 c.size f c
    readQuotedFrom? quote fuel f.join c

def readQuoted? (quote : Char) (c : Cursor) : Option (String × Cursor) :=
  readQuotedFrom? quote c.size {} (c.skip 1)

/-- What happens to the line breaks at the end of a block scalar. -/
inductive Chomping where
  | clip | strip | keep
deriving DecidableEq, Repr, Inhabited

def chomping? : Option Char → Option Chomping
  | some '+' => some .keep
  | some '-' => some .strip
  | _ => none

/-- A digit for the indentation, which is not zero; the second part says that there is none. -/
def readIncrement? (c : Cursor) : Option (Nat × Cursor) :=
  match c.next? with
  | some d =>
    if d == '0' then none
    else if d.isDigit then some (d.toNat - 48, c.skip 1)
    else some (0, c)
  | none => some (0, c)

/-- Reads the head of a block scalar: how it is chomped, and its indentation, zero where none is
given. -/
def readHead? (c : Cursor) : Option (Chomping × Nat × Cursor) := do
  match chomping? c.next? with
  | some chomping =>
    let (increment, c) ← readIncrement? (c.skip 1)
    return (chomping, increment, c)
  | none =>
    let (increment, c) ← readIncrement? c
    if increment = 0 then return (.clip, 0, c)
    match chomping? c.next? with
    | some chomping => return (chomping, increment, c.skip 1)
    | none => return (.clip, increment, c)

/-- Passes over indentation and empty lines: the line breaks in reverse, the deepest indentation,
and what follows. With an indentation of zero all spaces belong to it. `fuel` is more than the
number of characters. -/
def passEmptyLines? (indent : Nat) : Nat → List Char → Nat → Cursor →
    Option (List Char × Nat × Cursor)
  | 0, _, _, _ => none
  | fuel + 1, breaks, deepest, c =>
    let spaces := (c.rest.takeWhile (· == ' ')).length
    let c := c.skip (if indent = 0 then spaces else min spaces (indent - c.column))
    let deepest := max deepest c.column
    if (indent = 0 || c.column < indent) && c.sees '\t' then none
    else match c.passBreak? with
      | some (d, c) => passEmptyLines? indent fuel (d :: breaks) deepest c
      | none => some (breaks, deepest, c)

/-- Text of a block scalar that is being read. The lists are in reverse. -/
structure BlockText where
  text : List Char := []
  ended : Option Char := none
  breaks : List Char := []
  wasBlank : Bool := false
deriving Inhabited

/-- Puts what stands for the line breaks behind the text, before a line that may start with a
blank. -/
def BlockText.join (b : BlockText) (folded startsBlank : Bool) : List Char :=
  if folded && b.ended = some '\n' && !b.wasBlank && !startsBlank then
    (if b.breaks.isEmpty then [' '] else b.breaks) ++ b.text
  else b.breaks ++ b.ended.toList ++ b.text

/-- Reads the lines of a block scalar. `fuel` is more than their number. -/
def readLines? (folded : Bool) (indent : Nat) : Nat → BlockText → Cursor →
    Option (BlockText × Cursor)
  | 0, _, _ => none
  | fuel + 1, b, c =>
    if c.column ≠ indent || c.next?.isNone then some (b, c)
    else do
      let startsBlank := c.atBlank
      let line := c.rest.takeWhile (!isBreak ·)
      let text := line.reverse ++ b.join folded startsBlank
      let after := c.skip line.length
      let ended := after.passBreak?.map (·.1)
      let (breaks, _, c) ←
        passEmptyLines? indent after.size [] 0 after.passBreak
      readLines? folded indent fuel ⟨text, ended, breaks, startsBlank⟩ c

/-- Reads a block scalar behind its sign. It stands to the right of a column, which is less than
zero outside of all collections. -/
def readBlock? (folded : Bool) (parent : Int) (c : Cursor) : Option (String × Cursor) := do
  let (chomping, increment, c) ← readHead? c
  let c := (← c.passComment?).passBreak
  let given := if increment = 0 then 0 else (max parent 0).toNat + increment
  let (breaks, deepest, c) ← passEmptyLines? given c.size [] 0 c
  let indent := if given = 0 then max (max deepest (parent + 1).toNat) 1 else given
  let (b, c) ← readLines? folded indent c.size { breaks } c
  let text := (if chomping = .keep then b.breaks else []) ++
    (if chomping = .strip then [] else b.ended.toList) ++ b.text
  return (String.ofList text.reverse, c)

end ClientGen.Yaml
