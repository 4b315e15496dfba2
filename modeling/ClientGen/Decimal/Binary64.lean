/-!
# Binary floating point of 64 bits, without infinities

A number is `significand * 2 ^ exponent` with a sign. Rounding goes to the nearest number with at
most 53 significant bits and an exponent of at least -1074, a tie to the even significand; a
result beyond the largest number is refused.
-/

namespace ClientGen

/-- A finite number of 53 significant bits. Zero keeps its sign. -/
structure Binary64 where
  negative : Bool
  significand : Nat
  exponent : Int
deriving DecidableEq, Repr, Inhabited

namespace Binary64

def zero (negative : Bool) : Binary64 := ⟨negative, 0, -1074⟩

def bitLength (n : Nat) : Nat := if n = 0 then 0 else Nat.log2 n + 1

def scaled (num den : Nat) (exponent : Int) : Nat × Nat :=
  if exponent < 0 then (num * Nat.pow 2 exponent.natAbs, den)
  else (num, den * Nat.pow 2 exponent.toNat)

def divideNearest (num den : Nat) : Nat :=
  let q := num / den
  let twice := 2 * (num % den)
  if den < twice || (twice == den && q % 2 == 1) then q + 1 else q

def ofRatio? (negative : Bool) (num den : Nat) : Option Binary64 :=
  if num = 0 then some (zero negative)
  else
    let low := max (-1074) ((bitLength num : Int) - bitLength den - 53)
    let (n, d) := scaled num den low
    let exponent := if low = -1074 && n < d * Nat.pow 2 52 then low
      else if n < d * Nat.pow 2 53 then low else low + 1
    let (n, d) := scaled num den exponent
    let q := divideNearest n d
    let (q, exponent) := if q = Nat.pow 2 53 then (Nat.pow 2 52, exponent + 1) else (q, exponent)
    if exponent > 971 then none else some ⟨negative, q, exponent⟩

def ratio (x : Binary64) : Nat × Nat :=
  if x.exponent < 0 then (x.significand, Nat.pow 2 x.exponent.natAbs)
  else (x.significand * Nat.pow 2 x.exponent.toNat, 1)

def mul? (x y : Binary64) : Option Binary64 :=
  ofRatio? (x.negative != y.negative) (x.ratio.1 * y.ratio.1) (x.ratio.2 * y.ratio.2)

def div? (x y : Binary64) : Option Binary64 :=
  ofRatio? (x.negative != y.negative) (x.ratio.1 * y.ratio.2) (x.ratio.2 * y.ratio.1)

def ofDecimal? (negative : Bool) (digits : Nat) (exponent : Int) : Option Binary64 :=
  let size := (Nat.toDigits 10 digits).length + exponent
  if digits = 0 || size < -400 then some (zero negative)
  else if size > 400 then none
  else if exponent < 0 then ofRatio? negative digits (Nat.pow 10 exponent.natAbs)
  else ofRatio? negative (digits * Nat.pow 10 exponent.toNat) 1

end Binary64

end ClientGen
