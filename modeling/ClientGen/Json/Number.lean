import ClientGen.Decimal.Shortest

/-!
# Numbers of JSON documents

A number is an integer of at most 64 bits or a binary floating point number. Integers print in
decimal. A floating point number prints positionally while its first digit stands between the
fifth place after the point and the sixteenth before it, always with a point, and in scientific
form otherwise.
-/

namespace ClientGen

/-- An integer or a floating point number. -/
inductive Number where
  | int (value : Int)
  | real (value : Binary64)
deriving DecidableEq, Repr, Inhabited

namespace Number

def natDigits (n : Nat) : List Char := Nat.toDigits 10 n

/-- Digits with a point after the first `count` of them, zeros filled in on either side; `unit`
says whether a whole number keeps `.0`. -/
def positional (digits : List Char) (exponent : Int) (unit : Bool) : List Char :=
  if 0 ≤ exponent then
    digits ++ List.replicate exponent.toNat '0' ++ (if unit then ['.', '0'] else [])
  else
    let places := exponent.natAbs
    if places < digits.length then
      digits.take (digits.length - places) ++ '.' :: digits.drop (digits.length - places)
    else '0' :: '.' :: (List.replicate (places - digits.length) '0' ++ digits)

def scientific (digits : List Char) (first : Int) : List Char :=
  let mantissa := match digits with
    | d :: [] => [d]
    | d :: rest => d :: '.' :: rest
    | [] => []
  mantissa ++ 'e' :: (if first < 0 then '-' else '+') :: natDigits first.natAbs

def signOf (x : Binary64) : List Char := if x.negative then ['-'] else []

def realText (x : Binary64) : String :=
  String.ofList <| signOf x ++
    if x.significand = 0 then ['0', '.', '0']
    else
      let d := x.shortest
      let digits := natDigits d.digits
      let first := d.exponent + (digits.length - 1 : Nat)
      if -5 ≤ first && first ≤ 15 then positional digits d.exponent true
      else scientific digits first

def plainRealText (x : Binary64) : String :=
  String.ofList <| signOf x ++
    if x.significand = 0 then ['0']
    else positional (natDigits x.shortest.digits) x.shortest.exponent false

def intText (n : Int) : String :=
  String.ofList ((if n < 0 then ['-'] else []) ++ natDigits n.natAbs)

def text : Number → String
  | .int n => intText n
  | .real x => realText x

def plainText : Number → String
  | .int n => intText n
  | .real x => plainRealText x

def isZero : Number → Bool
  | .int n => n == 0
  | .real x => x.significand == 0

def maxUnsigned : Nat := Nat.pow 2 64 - 1

def powerOfTen? (n : Nat) : Option Binary64 := Binary64.ofDecimal? false 1 n

/-- A decimal in three steps of rounding: the digits, the power of ten, and the product or
quotient of the two. A power of ten below the smallest one at hand is applied in two quotients;
`fuel` bounds their number. -/
def stepwise? (fuel : Nat) (x : Binary64) (exponent : Int) : Option Binary64 :=
  if exponent.natAbs ≤ 308 then do
    let power ← powerOfTen? exponent.natAbs
    if exponent < 0 then x.div? power else x.mul? power
  else if x.significand = 0 then some x
  else if exponent > 0 then none
  else match fuel with
    | 0 => some (Binary64.zero x.negative)
    | fuel + 1 => do
      let power ← powerOfTen? 308
      stepwise? fuel (← x.div? power) (exponent + 308)

def clampDigits : List Char → Nat → Nat × Nat
  | [], n => (n, 0)
  | c :: rest, n =>
    let next := n * 10 + (c.toNat - 48)
    if next > maxUnsigned then (n, rest.length + 1) else clampDigits rest next

/-- The floating point number that a literal with a fraction or an exponent stands for.
`whole` and `fraction` are its digits. Digits beyond 64 bits are dropped. -/
def realOfLiteral? (negative : Bool) (whole fraction : List Char) (exponent : Int) :
    Option Binary64 :=
  let (digits, droppedWhole) := clampDigits whole 0
  let (digits, scale) :=
    let (all, dropped) := clampDigits fraction digits
    (all, (droppedWhole : Int) - (fraction.length - dropped : Nat))
  match Binary64.ofRatio? false digits 1 with
  | none => none
  | some x => (stepwise? 8 x (scale + exponent)).map fun y => { y with negative }

/-- The number that a literal stands for; `exponent` is absent where none is written. -/
def ofLiteral? (negative : Bool) (whole fraction : List Char) (exponent : Option Int) :
    Option Number :=
  let (n, dropped) := clampDigits whole 0
  if fraction.isEmpty && exponent.isNone && dropped = 0 then
    if !negative then some (.int n)
    else if n = 0 || n > Nat.pow 2 63 then
      (Binary64.ofRatio? true n 1).map .real
    else some (.int (-n))
  else (realOfLiteral? negative whole fraction (exponent.getD 0)).map .real

end Number

end ClientGen
