import ClientGen.Shell.Basic

/-!
# Tokens of shell text

Operators stand for themselves, everything else is words. Quotes and backslashes take the meaning
of operators and blanks away.
-/

namespace ClientGen.Shell

inductive Token where
  | word (line : Nat) (parts : Word)
  | operator (line : Nat) (text : String)
  | redirect (line : Nat) (stream : Option Nat) (text : String)
deriving DecidableEq, Repr, Inhabited

def Token.line : Token → Nat
  | .word line _ => line
  | .operator line _ => line
  | .redirect line _ _ => line

def endsWord (c : Char) : Bool :=
  c == ' ' || c == '\t' || c == '\n' || c == ';' || c == '&' || c == '|' || c == '<' || c == '>' ||
    c == '(' || c == ')'

def isVariableStart (c : Char) : Bool := c.isAlpha || c == '_'

def isVariableChar (c : Char) : Bool := c.isAlphanum || c == '_'

def readVariable? : List Char → Option (String × List Char)
  | '\x7b' :: rest =>
    match rest.dropWhile (· ≠ '\x7d') with
    | _ :: after => some (String.ofList (rest.takeWhile (· ≠ '\x7d')), after)
    | [] => none
  | c :: rest =>
    if isVariableStart c then
      some (String.ofList (c :: rest.takeWhile isVariableChar), rest.dropWhile isVariableChar)
    else if c.isDigit || c == '$' || c == '?' || c == '#' then some (String.singleton c, rest)
    else none
  | [] => none

/-- Reads up to the bracket that closes a command; `depth` counts the open brackets and `quote` is
the open quote, if there is one. -/
def readEnclosed? (depth : Nat) (quote : Option Char) : List Char → Option (List Char × List Char)
  | [] => none
  | '\\' :: c :: rest =>
    (readEnclosed? depth quote rest).map fun (text, after) => ('\\' :: c :: text, after)
  | c :: rest =>
    let go (depth : Nat) (quote : Option Char) :=
      (readEnclosed? depth quote rest).map fun (text, after) => (c :: text, after)
    match quote with
    | some q => go depth (if c == q then none else some q)
    | none =>
      if c == '"' || c == '\x27' then go depth (some c)
      else if c == '(' then go (depth + 1) none
      else if c == ')' then
        match depth with
        | 0 => some ([], rest)
        | depth + 1 => go depth none
      else go depth none

def readValue? (isQuoted : Bool) (text : List Char) : Option (WordPart × List Char) :=
  match text with
  | '(' :: rest =>
    (readEnclosed? 0 none rest).map fun (text, after) =>
      (.output (String.ofList text) isQuoted, after)
  | _ => (readVariable? text).map fun (name, after) => (.variable name isQuoted, after)

def readBackquoted? (isQuoted : Bool) (text : List Char) : Option (WordPart × List Char) :=
  match text.dropWhile (· ≠ '\x60') with
  | [] => none
  | _ :: after =>
    some (.output (String.ofList (text.takeWhile (· ≠ '\x60'))) isQuoted, after)

/-- Reads text between double quotes; `fuel` bounds the number of its parts. -/
def readQuoted? : Nat → List Char → List Char → Option (Word × List Char)
  | 0, _, _ => none
  | _, _, [] => none
  | _ + 1, text, '"' :: rest => some ([.quoted (String.ofList text.reverse)], rest)
  | fuel + 1, text, '\\' :: c :: rest =>
    if c == '"' || c == '\\' || c == '$' || c == '\x60' then readQuoted? fuel (c :: text) rest
    else if c == '\n' then readQuoted? fuel text rest
    else readQuoted? fuel (c :: '\\' :: text) rest
  | fuel + 1, text, c :: rest =>
    let part? := if c == '$' then readValue? true rest
      else if c == '\x60' then readBackquoted? true rest else none
    match part? with
    | some (part, after) =>
      (readQuoted? fuel [] after).map fun (parts, after) =>
        (.quoted (String.ofList text.reverse) :: part :: parts, after)
    | none => readQuoted? fuel (c :: text) rest

def withPlain (text : List Char) (parts : Word) : Word :=
  if text.isEmpty then parts else .plain (String.ofList text.reverse) :: parts

/-- Reads a word; `text` is its text that is not quoted, reversed. Nothing comes out where a quote
is not closed. -/
def readWord? : Nat → List Char → List Char → Option (Word × List Char)
  | 0, _, _ => none
  | _ + 1, text, [] => some (withPlain text [], [])
  | fuel + 1, text, '\x27' :: rest =>
    match rest.dropWhile (· ≠ '\x27') with
    | [] => none
    | _ :: after =>
      (readWord? fuel [] after).map fun (parts, after) =>
        (withPlain text (.quoted (String.ofList (rest.takeWhile (· ≠ '\x27'))) :: parts), after)
  | fuel + 1, text, '"' :: rest => do
    let (quoted, after) ← readQuoted? (rest.length + 1) [] rest
    let (parts, after) ← readWord? fuel [] after
    return (withPlain text (quoted ++ parts), after)
  | fuel + 1, text, '\\' :: '\n' :: rest => readWord? fuel text rest
  | fuel + 1, text, '\\' :: c :: rest =>
    (readWord? fuel [] rest).map fun (parts, after) =>
      (withPlain text (.quoted (String.singleton c) :: parts), after)
  | fuel + 1, text, c :: rest =>
    let part? := if c == '$' then readValue? false rest
      else if c == '\x60' then readBackquoted? false rest else none
    match part? with
    | some (part, after) =>
      (readWord? fuel [] after).map fun (parts, after) => (withPlain text (part :: parts), after)
    | none =>
      if endsWord c then some (withPlain text [], c :: rest) else readWord? fuel (c :: text) rest

def operators : List String := ["&&", "||", ";", "|", "(", ")", "&", "\n"]

def redirectOperators : List String := [">>", ">&", "<&", ">|", "<", ">"]

def startingWith? (texts : List String) (chars : List Char) : Option (String × List Char) :=
  texts.findSome? fun text => (text.toList.isPrefixOf? chars).map (text, ·)

def readRedirect? (chars : List Char) : Option (Option Nat × String × List Char) :=
  match chars with
  | c :: rest =>
    if c.isDigit then
      (startingWith? redirectOperators rest).map fun (text, after) =>
        (some (c.toNat - 48), text, after)
    else (startingWith? redirectOperators chars).map fun (text, after) => (none, text, after)
  | [] => none

/-- Reads tokens; `fuel` is more than the number of characters. A quote that is not closed ends the
tokens, with the line that it is noticed on. -/
def readTokens : Nat → Nat → List Char → List Token × Option Nat
  | 0, _, _ => ([], none)
  | _ + 1, _, [] => ([], none)
  | fuel + 1, line, ' ' :: rest => readTokens fuel line rest
  | fuel + 1, line, '\t' :: rest => readTokens fuel line rest
  | fuel + 1, line, '\\' :: '\n' :: rest => readTokens fuel (line + 1) rest
  | fuel + 1, line, '#' :: rest => readTokens fuel line (rest.dropWhile (· ≠ '\n'))
  | fuel + 1, line, chars =>
    match readRedirect? chars with
    | some (stream, text, after) =>
      let (tokens, unclosed) := readTokens fuel line after
      (.redirect line stream text :: tokens, unclosed)
    | none =>
      match startingWith? operators chars with
      | some (text, after) =>
        let (tokens, unclosed) := readTokens fuel (if text = "\n" then line + 1 else line) after
        (.operator line text :: tokens, unclosed)
      | none =>
        match readWord? (chars.length + 1) [] chars with
        | none => ([], some (line + chars.count '\n'))
        | some (parts, after) =>
          let passed := (chars.take (chars.length - after.length)).count '\n'
          let (tokens, unclosed) := readTokens fuel (line + passed) after
          (.word line parts :: tokens, unclosed)

end ClientGen.Shell
