import ClientGen.Decimal.Binary64

/-!
# Shortest decimal digits

A number is written with the fewest decimal digits that still lie closer to it than to its
neighbours; of two such decimals of one length the nearer one is taken.
-/

namespace ClientGen

structure Decimal where
  digits : Nat
  exponent : Int
deriving DecidableEq, Repr, Inhabited

namespace Decimal

def ratio (d : Decimal) : Nat × Nat :=
  if d.exponent < 0 then (d.digits, Nat.pow 10 d.exponent.natAbs)
  else (d.digits * Nat.pow 10 d.exponent.toNat, 1)

end Decimal

namespace Binary64

/-- The interval of reals that round to a number, as fractions over one denominator, and whether
its ends belong to it. -/
structure Cell where
  low : Nat
  high : Nat
  den : Nat
  closed : Bool

/-- The cell of a number other than zero. Below a power of two the numbers lie twice as close. -/
def cell (x : Binary64) : Cell :=
  let narrow := x.significand = Nat.pow 2 52 && x.exponent > -1074
  let low := 4 * x.significand - (if narrow then 1 else 2)
  let high := 4 * x.significand + 2
  let exponent := x.exponent - 2
  let scale := if exponent < 0 then 1 else Nat.pow 2 exponent.toNat
  ⟨low * scale, high * scale, if exponent < 0 then Nat.pow 2 exponent.natAbs else 1,
    x.significand % 2 = 0⟩

def Cell.contains (cell : Cell) (d : Decimal) : Bool :=
  let (num, den) := d.ratio
  let a := num * cell.den
  let low := cell.low * den
  let high := cell.high * den
  if cell.closed then low ≤ a && a ≤ high else low < a && a < high

def gap (num den : Nat) (d : Decimal) : Nat :=
  let (n, m) := d.ratio
  let a := n * den
  let b := num * m
  if a < b then b - a else a - b

def leadingExponent (num den : Nat) : Int :=
  ((Nat.toDigits 10 (num * Nat.pow 10 400 / den)).length : Int) - 401

def nearestOfLength? (x : Binary64) (count : Nat) : Option Decimal :=
  let (num, den) := x.ratio
  let exponent := leadingExponent num den - (count - 1 : Nat)
  let below := if exponent < 0 then num * Nat.pow 10 exponent.natAbs / den
    else num / (den * Nat.pow 10 exponent.toNat)
  let floor : Decimal := ⟨below, exponent⟩
  let ceiling : Decimal := ⟨below + 1, exponent⟩
  match x.cell.contains floor, x.cell.contains ceiling with
  | true, true =>
    let down := gap num den floor
    let up := gap num den ceiling
    if down < up || (down == up && below % 2 == 0) then some floor else some ceiling
  | true, false => some floor
  | false, true => some ceiling
  | false, false => none

/-- The decimal without zeros at its end; `fuel` bounds their number. -/
def dropZeros : Nat → Decimal → Decimal
  | 0, d => d
  | fuel + 1, d =>
    if d.digits % 10 = 0 && d.digits ≠ 0 then dropZeros fuel ⟨d.digits / 10, d.exponent + 1⟩ else d

/-- The shortest decimal of a number other than zero. Seventeen digits always suffice. -/
def shortest (x : Binary64) : Decimal :=
  match (List.range' 1 17).findSome? (nearestOfLength? x) with
  | some d => dropZeros 20 d
  | none => ⟨0, 0⟩

end Binary64

end ClientGen
