/-!
# Web addresses

A document is fetched if its location is a web address. Any other location is a path. What the web
answers is not known beforehand: a run is given it.
-/

namespace ClientGen

def isHostChar (c : Char) : Bool :=
  c.toNat > 32 && c.toNat ≠ 127 && !"#/:<>?@[\\]^|%".toList.contains c

def isHostNumber (digits : List Char) : Bool :=
  digits.all Char.isDigit && ((String.ofList digits).toNat?).getD 0 < 65536

def isHost (text : List Char) : Bool :=
  match text with
  | '[' :: rest =>
    let inner := rest.takeWhile (· ≠ ']')
    let valid := !inner.isEmpty &&
      inner.all fun c => c.isDigit || c == ':' || c == '.' || "abcdefABCDEF".toList.contains c
    match rest.drop inner.length with
    | [']'] => valid
    | ']' :: ':' :: number => valid && isHostNumber number
    | _ => false
  | _ =>
    let name := text.takeWhile (· ≠ ':')
    !name.isEmpty && name.all isHostChar && isHostNumber ((text.drop name.length).drop 1)

def afterWebScheme? (text : List Char) : Option (List Char) :=
  let scheme := text.takeWhile (· ≠ ':')
  let rest := text.drop scheme.length
  if rest ≠ [] && ["http", "https"].contains (String.ofList (scheme.map Char.toLower)) then
    some (rest.drop 1)
  else none

def isWebAddress (location : String) : Bool :=
  let isOuter (c : Char) := c.toNat ≤ 32
  let text := ((location.toList.dropWhile isOuter).reverse.dropWhile isOuter).reverse
  let isSlash (c : Char) := c == '/' || c == '\\'
  match afterWebScheme? (text.filter fun c => c ≠ '\t' && c ≠ '\n' && c ≠ '\r') with
  | none => false
  | some rest =>
    let authority := (rest.dropWhile isSlash).takeWhile fun c =>
      !isSlash c && c ≠ '?' && c ≠ '#'
    isHost (authority.reverse.takeWhile (· ≠ '@')).reverse

/-- What comes of a request: no answer at all, an answer with a status other than success, or a
text. -/
inductive WebAnswer where
  | unreachable
  | refused (status : String)
  | content (text : String)
deriving DecidableEq, Repr, Inhabited

/-- The web as a run meets it: how the address of a location is written out, and what comes of a
request to that address. -/
structure Web where
  address : String → String
  answer : String → WebAnswer

def Web.offline : Web := ⟨id, fun _ => .unreachable⟩

end ClientGen
