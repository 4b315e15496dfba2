import ClientGen.Json.Basic

/-!
# Tokens of JSON text

The text is read character by character. Numbers and words are collected to their full length and
checked when they end.
-/

namespace ClientGen.Json

inductive Token where
  | openBrace | closeBrace | openBracket | closeBracket | comma | colon
  | text (value : String)
  | value (value : Json)
deriving Repr, Inhabited

def isNumberChar (c : Char) : Bool :=
  c.isDigit || c == '-' || c == '+' || c == '.' || c == 'e' || c == 'E'

def exponent? (digits : List Char) : Option Int :=
  let (negative, digits) := match digits with
    | '-' :: rest => (true, rest)
    | '+' :: rest => (false, rest)
    | rest => (false, rest)
  if digits.isEmpty || !digits.all Char.isDigit then none
  else
    let n : Nat := digits.foldl (fun n d => n * 10 + (d.toNat - 48)) 0
    some (if negative then -(n : Int) else n)

/-- A number: digits without a needless zero in front, then an optional fraction and an optional
exponent. -/
def numberOf? (chars : List Char) : Option Number :=
  let (negative, chars) := match chars with
    | '-' :: rest => (true, rest)
    | rest => (false, rest)
  let whole := chars.takeWhile Char.isDigit
  let rest := chars.dropWhile Char.isDigit
  if whole.isEmpty || (whole.length > 1 && whole.head? == some '0') then none
  else
    let (fraction, rest, pointed) := match rest with
      | '.' :: rest => (rest.takeWhile Char.isDigit, rest.dropWhile Char.isDigit, true)
      | rest => ([], rest, false)
    if pointed && fraction.isEmpty then none
    else match rest with
      | [] => Number.ofLiteral? negative whole fraction none
      | c :: rest =>
        if c == 'e' || c == 'E' then
          (exponent? rest).bind fun e => Number.ofLiteral? negative whole fraction (some e)
        else none

def wordOf? (chars : List Char) : Option Json :=
  match String.ofList chars with
  | "null" => some .null
  | "true" => some (.bool true)
  | "false" => some (.bool false)
  | _ => none

def hexValue? (c : Char) : Option Nat :=
  if c.isDigit then some (c.toNat - 48)
  else if 'a' ≤ c && c ≤ 'f' then some (c.toNat - 87)
  else if 'A' ≤ c && c ≤ 'F' then some (c.toNat - 55)
  else none

def shortEscape? : Char → Option Char
  | '"' => some '"'
  | '\\' => some '\\'
  | '/' => some '/'
  | 'b' => some (Char.ofNat 8)
  | 'f' => some (Char.ofNat 12)
  | 'n' => some '\n'
  | 'r' => some '\r'
  | 't' => some '\t'
  | _ => none

/-- Where reading stands. Collected characters are kept in reverse. A string may wait for the
second half of a surrogate pair. -/
inductive Mode where
  | between
  | word (chars : List Char)
  | number (chars : List Char)
  | string (chars : List Char) (high : Option Nat)
  | escape (chars : List Char) (high : Option Nat)
  | hex (chars : List Char) (high : Option Nat) (digits value : Nat)

/-- What follows a complete escape of four hexadecimal digits: a character, or the wait for the
second half of a pair. -/
def afterHex? (chars : List Char) (high : Option Nat) (unit : Nat) : Option Mode :=
  match high with
  | some h =>
    if 0xDC00 ≤ unit && unit ≤ 0xDFFF then
      some (.string (Char.ofNat (0x10000 + (h - 0xD800) * 0x400 + (unit - 0xDC00)) :: chars) none)
    else none
  | none =>
    if 0xD800 ≤ unit && unit ≤ 0xDBFF then some (.string chars (some unit))
    else if 0xDC00 ≤ unit && unit ≤ 0xDFFF then none
    else some (.string (Char.ofNat unit :: chars) none)

/-- Reads a character between tokens: the token it forms, if any, and what follows it. -/
def startToken? (c : Char) : Option (List Token × Mode) :=
  match c with
  | ' ' | '\n' | '\t' | '\r' => some ([], .between)
  | '\x7b' => some ([.openBrace], .between)
  | '\x7d' => some ([.closeBrace], .between)
  | '[' => some ([.openBracket], .between)
  | ']' => some ([.closeBracket], .between)
  | ',' => some ([.comma], .between)
  | ':' => some ([.colon], .between)
  | '"' => some ([], .string [] none)
  | c =>
    if c.isDigit || c == '-' then some ([], .number [c])
    else if c.isAlpha then some ([], .word [c])
    else none

/-- Reads one character: the tokens that end before or at it, and what follows it. -/
def readChar? (mode : Mode) (c : Char) : Option (List Token × Mode) :=
  match mode with
  | .between => startToken? c
  | .word chars =>
    if c.isAlpha then some ([], .word (c :: chars))
    else do
      let value ← wordOf? chars.reverse
      let (tokens, next) ← startToken? c
      some (.value value :: tokens, next)
  | .number chars =>
    if isNumberChar c then some ([], .number (c :: chars))
    else do
      let n ← numberOf? chars.reverse
      let (tokens, next) ← startToken? c
      some (.value (.num n) :: tokens, next)
  | .string chars high =>
    if c == '\\' then some ([], .escape chars high)
    else if high.isSome || c.toNat < 32 then none
    else if c == '"' then some ([.text (String.ofList chars.reverse)], .between)
    else some ([], .string (c :: chars) none)
  | .escape chars high =>
    if c == 'u' then some ([], .hex chars high 0 0)
    else if high.isSome then none
    else (shortEscape? c).map fun e => ([], .string (e :: chars) none)
  | .hex chars high digits value => do
    let d ← hexValue? c
    let value := value * 16 + d
    if digits = 3 then (afterHex? chars high value).map ([], ·)
    else some ([], .hex chars high (digits + 1) value)

def lastTokens? : Mode → Option (List Token)
  | .between => some []
  | .word chars => (wordOf? chars.reverse).map fun v => [.value v]
  | .number chars => (numberOf? chars.reverse).map fun n => [.value (.num n)]
  | _ => none

def advance? (state : Mode × List Token) (c : Char) : Option (Mode × List Token) :=
  (readChar? state.1 c).map fun (tokens, next) => (next, tokens.reverseAux state.2)

def tokens? (text : String) : Option (List Token) := do
  let (mode, found) ← text.toList.foldlM advance? (.between, [])
  (lastTokens? mode).map (found.reverseAux ·)

end ClientGen.Json
