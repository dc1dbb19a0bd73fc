set_option autoImplicit false

/-!
# Finite double precision numbers, exactly

A finite double is a sign and a magnitude `mantissa * 2 ^ exponent` with a mantissa below `2 ^ 53`.
`Binary64.ofRatio` rounds any ratio of naturals to the nearest of them, a tie to the even mantissa,
and answers nothing beyond the largest one. Numbers are read from decimal text by the two roundings
that `Binary64.ofDecimal` describes.
-/

namespace LintHub.Decimal

/-- A finite double: `mantissa * 2 ^ exponent` with a sign. The mantissa has exactly 53 bits unless
the exponent is the least one. -/
structure Binary64 where
  negative : Bool
  mantissa : Nat
  exponent : Int
  deriving DecidableEq, Repr

namespace Binary64

/-- The least exponent of a double. -/
def leastExponent : Int := -1074

/-- The greatest exponent of a double. -/
def greatestExponent : Int := 971

/-- The positive zero. -/
def zero : Binary64 := ⟨false, 0, leastExponent⟩

/-- The magnitude is zero. -/
def isZero (x : Binary64) : Bool := x.mantissa == 0

/-- The double of the other sign. -/
def neg (x : Binary64) : Binary64 := { x with negative := !x.negative }

/-- The numerator and the denominator of the magnitude. -/
def ratio (x : Binary64) : Nat × Nat :=
  if 0 ≤ x.exponent then (x.mantissa * Nat.pow 2 x.exponent.toNat, 1)
  else (x.mantissa, Nat.pow 2 (-x.exponent).toNat)

/-- A quotient rounded to the nearest natural, a tie to the even one. -/
def roundDiv (num den : Nat) : Nat :=
  let q := num / den
  let r := num % den
  if 2 * r < den then q
  else if den < 2 * r then q + 1
  else if q % 2 == 0 then q else q + 1

/-- The quotient `num / den` over `2 ^ e`, as a numerator and a denominator. -/
def scaled (num den : Nat) (e : Int) : Nat × Nat :=
  if 0 ≤ e then (num, den * Nat.pow 2 e.toNat) else (num * Nat.pow 2 (-e).toNat, den)

/-- The exponent at which `num / den` has a mantissa of 53 bits, or the least one. -/
def fittingExponent (num den : Nat) : Int :=
  let guess : Int := (Nat.log2 num : Int) - (Nat.log2 den : Int) - 52
  let (n, d) := scaled num den guess
  let e := if n < d * Nat.pow 2 52 then guess - 1 else guess
  max e leastExponent

/-- The double nearest to `num / den`; nothing where that exceeds the largest double. -/
def ofRatio (num den : Nat) : Option Binary64 :=
  if num = 0 then some zero
  else
    let e := fittingExponent num den
    let (n, d) := scaled num den e
    let m := roundDiv n d
    let (m, e) := if m = Nat.pow 2 53 then (Nat.pow 2 52, e + 1) else (m, e)
    if greatestExponent < e then none else some ⟨false, m, e⟩

/-- The double nearest to a natural below `2 ^ 64`. -/
def ofNat (n : Nat) : Binary64 :=
  (ofRatio n 1).getD zero

/-- The product with a power of ten, each rounded. -/
def scaleUp (x : Binary64) (power : Nat) : Option Binary64 := do
  let p ← ofRatio (Nat.pow 10 power) 1
  ofRatio (x.ratio.1 * p.ratio.1) (x.ratio.2 * p.ratio.2)

/-- The quotient by a power of ten, each rounded. -/
def scaleDown (x : Binary64) (power : Nat) : Option Binary64 := do
  let p ← ofRatio (Nat.pow 10 power) 1
  ofRatio (x.ratio.1 * p.ratio.2) (x.ratio.2 * p.ratio.1)

/-- Divides by `10 ^ 308` while the power of ten to divide by exceeds it; `fuel` bounds the number
of divisions, of which a third leaves zero. -/
def scaleDownFar (fuel : Nat) (x : Binary64) (power : Nat) : Option Binary64 :=
  match fuel with
  | 0 => some zero
  | fuel + 1 =>
    if power ≤ 308 then x.scaleDown power
    else if x.isZero then some x
    else do scaleDownFar fuel (← x.scaleDown 308) (power - 308)

/-- The double read for `significand * 10 ^ exponent`: the significand is rounded first, then its
product with or quotient by the rounded power of ten. Nothing where the value exceeds the largest
double. -/
def ofDecimal (significand : Nat) (exponent : Int) : Option Binary64 :=
  let x := ofNat significand
  if 0 ≤ exponent then
    if exponent.toNat ≤ 308 then x.scaleUp exponent.toNat
    else if x.isZero then some x
    else none
  else
    scaleDownFar 8 x (-exponent).toNat

/-- The value is a whole number. -/
def isWhole (x : Binary64) : Bool :=
  x.ratio.1 % x.ratio.2 == 0

end Binary64

end LintHub.Decimal
