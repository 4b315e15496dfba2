import ClientGen.Yaml.Scalar

/-!
# Tokens of YAML text

Indentation is turned into tokens that open and close collections. What may turn out to be a key
is remembered until a colon follows it on its line.
-/

namespace ClientGen.Yaml

/-- How a scalar is written. -/
inductive Style where
  | plain | quoted | literal | folded
deriving DecidableEq, Repr, Inhabited

inductive Token where
  | version (major minor : List Char)
  | tagHandle (handle lead : String)
  | documentStart | documentEnd
  | sequenceStart | mappingStart | blockEnd
  | bracketOpen | bracketClose | braceOpen | braceClose
  | item | comma | key | value
  | alias (name : String)
  | anchor (name : String)
  | tag (handle ending : String)
  | scalar (style : Style) (text : String)
deriving DecidableEq, Repr, Inhabited

def tagChars : List Char := ";/?:@&=+$.%!~*\x27()".toList

/-- Whether a character may stand in a tag. -/
def isTagChar (verbatim : Bool) (c : Char) : Bool :=
  isNameChar c || tagChars.contains c || (verbatim && (c == ',' || c == '[' || c == ']'))

/-- The bytes of a tag: percent signs stand before codes of bytes. `fuel` is more than the
length. -/
def tagBytes? : Nat → List Char → Option (List UInt8)
  | 0, _ => none
  | _, [] => some []
  | fuel + 1, '%' :: a :: b :: rest => do
    let code := (← hexValue? a) * 16 + (← hexValue? b)
    return UInt8.ofNat code :: (← tagBytes? fuel rest)
  | fuel + 1, c :: rest => do
    if c == '%' then failure
    return (String.singleton c).toUTF8.toList ++ (← tagBytes? fuel rest)

def readTagText? (verbatim : Bool) (before : List Char) (c : Cursor) :
    Option (String × Cursor) := do
  let chars := c.rest.takeWhile (isTagChar verbatim)
  if before.isEmpty && chars.isEmpty then failure
  let bytes ← tagBytes? (chars.length + 1) chars
  let text ← String.fromUTF8? ⟨bytes.toArray⟩
  return (String.ofList (before.drop 1) ++ text, c.skip chars.length)

def readHandle? (c : Cursor) : Option (List Char × Cursor) := do
  if !c.sees '!' then failure
  let name := (c.rest.drop 1).takeWhile isNameChar
  let after := c.skip (1 + name.length)
  if after.sees '!' then return ('!' :: name ++ ['!'], after.skip 1)
  return ('!' :: name, after)

def readTag? (inFlow : Bool) (c : Cursor) : Option (Token × Cursor) := do
  let (token, c) ← if c.after? 1 == some '<' then do
      let (text, c) ← readTagText? true [] (c.skip 2)
      if !c.sees '>' then failure
      pure (Token.tag "" text, c.skip 1)
    else do
      let (handle, c) ← readHandle? c
      if handle.length > 1 && handle.getLast? == some '!' then
        let (text, c) ← readTagText? false [] c
        pure (Token.tag (String.ofList handle) text, c)
      else
        let (text, c) ← readTagText? false handle c
        pure (if text = "" then Token.tag "" "!" else Token.tag "!" text, c)
  if c.atGap || (inFlow && c.sees ',') then return (token, c)
  failure

def readName? (c : Cursor) : Option (String × Cursor) :=
  let name := (c.rest.drop 1).takeWhile isNameChar
  let after := c.skip (1 + name.length)
  if !name.isEmpty && (after.atGap || after.next?.any "?:,]\x7d%@\x60".toList.contains) then
    some (String.ofList name, after)
  else none

def readVersionPart? (c : Cursor) : Option (List Char × Cursor) :=
  let digits := c.rest.takeWhile Char.isDigit
  if digits.isEmpty || digits.length > 9 then none else some (digits, c.skip digits.length)

def readDirective? (c : Cursor) : Option (Token × Cursor) := do
  let name := (c.rest.drop 1).takeWhile isNameChar
  let c := c.skip (1 + name.length)
  if !c.atGap then failure
  let c := c.skipWhile isBlank
  let (token, c) ← match String.ofList name with
    | "YAML" => do
      let (major, c) ← readVersionPart? c
      if !c.sees '.' then failure
      let (minor, c) ← readVersionPart? (c.skip 1)
      pure (Token.version major minor, c)
    | "TAG" => do
      let (handle, c) ← readHandle? c
      if handle ≠ ['!'] && handle.getLast? ≠ some '!' then failure
      if !c.atBlank then failure
      let (lead, c) ← readTagText? true [] (c.skipWhile isBlank)
      if !c.atGap then failure
      pure (Token.tagHandle (String.ofList handle) lead, c)
    | _ => failure
  return (token, (← c.passComment?).passBreak)

/-- A place where a key may start, with the number of tokens before it. A key that is needed has
to turn out to be one. -/
structure KeyPlace where
  needed : Bool
  count : Nat
  cursor : Cursor
deriving Inhabited

/-- Whether a place is too far back: a key stands on one line and is not long. -/
def KeyPlace.isLost (cursor : Cursor) (place : KeyPlace) : Bool :=
  place.cursor.line < cursor.line || place.cursor.index + 1024 < cursor.index

/-- The state of scanning: what has been read, in reverse and counted, the open indentations,
innermost first, and for every open bracket and the text around them where a key may have
started. -/
structure Scan where
  cursor : Cursor
  tokens : List Token := []
  count : Nat := 0
  indent : Int := -1
  outer : List Int := []
  keyPlace : Option KeyPlace := none
  outerKeys : List (Option KeyPlace) := []
  keyAllowed : Bool := true

namespace Scan

def inFlow (s : Scan) : Bool := !s.outerKeys.isEmpty

def emit (s : Scan) (token : Token) : Scan :=
  { s with tokens := token :: s.tokens, count := s.count + 1 }

def emitAt (s : Scan) (count : Nat) (token : Token) : Scan :=
  let behind := s.count - count
  { s with
    tokens := s.tokens.take behind ++ token :: s.tokens.drop behind
    count := s.count + 1 }

def unrollFrom (column : Int) : List Int → Scan → Scan
  | [], s => s
  | outer :: rest, s =>
    if s.indent > column then
      unrollFrom column rest { s.emit .blockEnd with indent := outer, outer := rest }
    else s

def unroll (s : Scan) (column : Int) : Scan :=
  if s.inFlow then s else unrollFrom column s.outer s

def roll (s : Scan) (column count : Nat) (token : Token) : Scan :=
  if s.inFlow || s.indent ≥ column then s
  else { s.emitAt count token with indent := column, outer := s.indent :: s.outer }

/-- Drops a place that is too far back; nothing comes out where the key is needed. -/
def freshen? (cursor : Cursor) : Option KeyPlace → Option (Option KeyPlace)
  | none => some none
  | some place =>
    if place.isLost cursor then (if place.needed then none else some none) else some (some place)

def dropStale? (s : Scan) : Option Scan := do
  return { s with
    keyPlace := ← freshen? s.cursor s.keyPlace
    outerKeys := ← s.outerKeys.mapM (freshen? s.cursor) }

def forgetKey? (s : Scan) : Option Scan :=
  if s.keyPlace.any (·.needed) then none else some { s with keyPlace := none }

def rememberKey? (s : Scan) : Option Scan := do
  if !s.keyAllowed then return s
  let needed := !s.inFlow && s.indent == s.cursor.column
  return { ← s.forgetKey? with keyPlace := some ⟨needed, s.count, s.cursor⟩ }

/-- Passes over a number of characters and adds a token. -/
def take (s : Scan) (n : Nat) (token : Token) : Scan :=
  { s.emit token with cursor := s.cursor.skip n }

def openFlow? (s : Scan) (token : Token) : Option Scan := do
  let s ← s.rememberKey?
  return { s.take 1 token with
    keyPlace := none
    outerKeys := s.keyPlace :: s.outerKeys
    keyAllowed := true }

def closeFlow? (s : Scan) (token : Token) : Option Scan := do
  let s ← s.forgetKey?
  let s := match s.outerKeys with
    | [] => s
    | place :: rest => { s with keyPlace := place, outerKeys := rest }
  return { s.take 1 token with keyAllowed := false }

def comma? (s : Scan) : Option Scan := do
  return { (← s.forgetKey?).take 1 .comma with keyAllowed := true }

def item? (s : Scan) : Option Scan := do
  if !s.inFlow && !s.keyAllowed then failure
  let s ← (s.roll s.cursor.column s.count .sequenceStart).forgetKey?
  return { s.take 1 .item with keyAllowed := true }

def key? (s : Scan) : Option Scan := do
  if !s.inFlow && !s.keyAllowed then failure
  let s ← (s.roll s.cursor.column s.count .mappingStart).forgetKey?
  return { s.take 1 .key with keyAllowed := !s.inFlow }

/-- Reads the sign of a value. The key before it gets its token where the key started. -/
def value? (s : Scan) : Option Scan :=
  match s.keyPlace with
  | some place =>
    let s := (s.emitAt place.count .key).roll place.cursor.column place.count .mappingStart
    some { s.take 1 .value with keyPlace := none, keyAllowed := false }
  | none => do
    if !s.inFlow && !s.keyAllowed then failure
    let s := s.roll s.cursor.column s.count .mappingStart
    return { s.take 1 .value with keyAllowed := !s.inFlow }

def property? (s : Scan) (read : Cursor → Option (Token × Cursor)) : Option Scan := do
  let s ← s.rememberKey?
  let (token, cursor) ← read s.cursor
  return { s.emit token with cursor, keyAllowed := false }

def quoted? (s : Scan) (quote : Char) : Option Scan :=
  s.property? fun c => (Yaml.readQuoted? quote c).map fun (text, c) => (.scalar .quoted text, c)

def plain? (s : Scan) : Option Scan := do
  let s ← s.rememberKey?
  let (text, ended, cursor) ← readPlain? s.inFlow (s.indent + 1).toNat s.cursor
  return { s.emit (.scalar .plain text) with cursor, keyAllowed := ended }

def block? (s : Scan) (style : Style) : Option Scan := do
  let s ← s.forgetKey?
  let (text, cursor) ← readBlock? (style = .folded) s.indent (s.cursor.skip 1)
  return { s.emit (.scalar style text) with cursor, keyAllowed := true }

def outside? (s : Scan) (read : Cursor → Option (Token × Cursor)) : Option Scan := do
  let s ← (s.unroll (-1)).forgetKey?
  let (token, cursor) ← read s.cursor
  return { s.emit token with cursor, keyAllowed := false }

/-- Passes over blanks, comments and line breaks. `fuel` is more than the number of
characters. -/
def passSpace : Nat → Scan → Scan
  | 0, s => s
  | fuel + 1, s =>
    let c := if s.cursor.index = 0 && s.cursor.sees '\ufeff' then s.cursor.skip 1 else s.cursor
    let c := c.skipWhile fun d => d == ' ' || (d == '\t' && (s.inFlow || !s.keyAllowed))
    let c := if c.sees '#' then c.skipWhile (!isBreak ·) else c
    match c.passBreak? with
    | none => { s with cursor := c }
    | some (_, c) =>
      passSpace fuel { s with cursor := c, keyAllowed := s.keyAllowed || !s.inFlow }

def signs : List Char := "-?:,[]\x7b\x7d#&*!|>\x27\"%@\x60".toList

def next? (s : Scan) (d : Char) : Option Scan :=
  let c := s.cursor
  let beforeGap := isGap (c.after? 1)
  if c.column = 0 && d == '%' then s.outside? readDirective?
  else if c.seesMark '-' then s.outside? fun c => some (.documentStart, c.skip 3)
  else if c.seesMark '.' then s.outside? fun c => some (.documentEnd, c.skip 3)
  else if d == '[' then s.openFlow? .bracketOpen
  else if d == '\x7b' then s.openFlow? .braceOpen
  else if d == ']' then s.closeFlow? .bracketClose
  else if d == '\x7d' then s.closeFlow? .braceClose
  else if d == ',' then s.comma?
  else if d == '-' && beforeGap then s.item?
  else if d == '?' && (s.inFlow || beforeGap) then s.key?
  else if d == ':' && (s.inFlow || beforeGap) then s.value?
  else if d == '*' then s.property? fun c => (readName? c).map fun (name, c) => (.alias name, c)
  else if d == '&' then s.property? fun c => (readName? c).map fun (name, c) => (.anchor name, c)
  else if d == '!' then s.property? (readTag? s.inFlow)
  else if d == '|' && !s.inFlow then s.block? .literal
  else if d == '>' && !s.inFlow then s.block? .folded
  else if d == '\x27' || d == '"' then s.quoted? d
  else if d == '-' && !(c.after? 1).any isBlank then s.plain?
  else if (d == '?' || d == ':') && !s.inFlow && !beforeGap then s.plain?
  else if isBlank d || signs.contains d then none
  else s.plain?

/-- Reads all tokens. `fuel` is more than the number of characters. -/
def all? : Nat → Scan → Option Scan
  | 0, _ => none
  | fuel + 1, s => do
    let s ← (s.passSpace s.cursor.size).dropStale?
    let s := s.unroll s.cursor.column
    match s.cursor.next? with
    | none => (s.unroll (-1)).forgetKey?
    | some d => all? fuel (← s.next? d)

end Scan

def readTokens? (text : String) : Option (List Token) :=
  let chars := match text.toList with
    | '\ufeff' :: rest => rest
    | chars => chars
  if chars.all isAllowed then
    (Scan.all? (chars.length + 2) { cursor := .start chars }).map (·.tokens.reverse)
  else none

end ClientGen.Yaml
