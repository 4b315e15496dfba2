import ClientGen.Json.Basic

/-!
# Plain scalars

A plain scalar may denote null, a truth value or a number. Everything else is text, also digits
behind a needless zero and numbers that are too large.
-/

namespace ClientGen.Yaml

def isNullText (text : String) : Bool := ["null", "Null", "NULL", "~"].contains text

def truthOf? (text : String) : Option Bool :=
  if ["true", "True", "TRUE"].contains text then some true
  else if ["false", "False", "FALSE"].contains text then some false
  else none

def hasNeedlessZero (digits : List Char) : Bool :=
  match digits with
  | '0' :: d :: rest => (d :: rest).all Char.isDigit
  | _ => false

def signed (text : List Char) : Bool × List Char :=
  match text with
  | '-' :: rest => (true, rest)
  | '+' :: rest => (false, rest)
  | rest => (false, rest)

def digitOf? (base : Nat) (c : Char) : Option Nat :=
  let value := if c.isDigit then c.toNat - 48
    else if 'a' ≤ c && c ≤ 'z' then c.toNat - 87
    else if 'A' ≤ c && c ≤ 'Z' then c.toNat - 55
    else base
  if value < base then some value else none

def numberOf? (base : Nat) (digits : List Char) : Option Nat :=
  if digits.isEmpty then none
  else (digits.mapM (digitOf? base)).map fun values => values.foldl (fun n d => n * base + d) 0

def naturalOf? (text : List Char) : Option Nat :=
  match text with
  | '0' :: 'x' :: digits => numberOf? 16 digits
  | '0' :: 'o' :: digits => numberOf? 8 digits
  | '0' :: 'b' :: digits => numberOf? 2 digits
  | digits => numberOf? 10 digits

def integerOf? (text : List Char) : Option Int :=
  let (negative, digits) := signed text
  if hasNeedlessZero digits then none
  else (naturalOf? digits).map fun n => if negative then -(n : Int) else n

def fits (bits : Nat) (n : Int) : Bool :=
  if n < 0 then n.natAbs ≤ Nat.pow 2 (bits - 1) else n.natAbs < Nat.pow 2 bits

def exponentOf? (text : List Char) : Option Int :=
  match text with
  | [] => some 0
  | c :: rest =>
    if c == 'e' || c == 'E' then
      let (negative, digits) := signed rest
      (numberOf? 10 digits).map fun n => if negative then -(n : Int) else n
    else none

/-- The finite number that a text denotes: digits around a point, and an exponent. -/
def realOf? (text : List Char) : Option Binary64 := do
  let (negative, text) := signed text
  let whole := text.takeWhile Char.isDigit
  let text := text.dropWhile Char.isDigit
  let (fraction, text) := match text with
    | '.' :: rest => (rest.takeWhile Char.isDigit, rest.dropWhile Char.isDigit)
    | rest => ([], rest)
  let digits ← numberOf? 10 (whole ++ fraction)
  let exponent ← exponentOf? text
  Binary64.ofDecimal? negative digits (exponent - fraction.length)

/-- Whether a text denotes a number that is infinite or undefined. -/
def isNotFinite (text : String) : Bool :=
  [".inf", ".Inf", ".INF", "+.inf", "+.Inf", "+.INF", "-.inf", "-.Inf", "-.INF", ".nan", ".NaN",
    ".NAN"].contains text

/-- The value of a floating point number. One that is not finite has none. -/
def realValue? (text : String) : Option Json :=
  if isNotFinite text then some .null
  else (realOf? text.toList).map fun x => .num (.real x)

/-- The value of an integer; the second part says that it is too long for a value. -/
def integerValue? (text : String) : Option (Option Json) :=
  match integerOf? text.toList with
  | none => none
  | some n =>
    if fits 64 n then some (some (.num (.int n)))
    else if fits 128 n then some none
    else none

/-- The value of a plain scalar. An integer of more than 64 bits has none, unless it is longer
than 128 bits. -/
def plainValue? (text : String) : Option Json :=
  if text = "" || isNullText text then some .null
  else match truthOf? text, integerValue? text with
    | some b, _ => some (.bool b)
    | none, some value? => value?
    | none, none =>
      if hasNeedlessZero (signed text.toList).2 then some (.str text)
      else some ((realValue? text).getD (.str text))

end ClientGen.Yaml
