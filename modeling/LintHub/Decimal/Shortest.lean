import LintHub.Decimal.Binary64

set_option autoImplicit false

/-!
# The shortest decimal of a double

The digits written for a double are the fewest that read back as it: for one digit, two digits and
so on, the two neighbours of the value on that decimal grid are tested against the interval of the
reals that round to it, and of two hits the nearer one is taken. `Binary64.text` then writes them
in positional notation for decimal exponents from -5 to 15 and with an exponent outside.
-/

namespace LintHub.Decimal

namespace Binary64

/-- The reals that round to a magnitude lie between `low / den` and `high / den`; the ends are among
them where `closed` holds. The magnitude itself is `value / den`. -/
structure Interval where
  low : Nat
  value : Nat
  high : Nat
  den : Nat
  closed : Bool

/-- The interval of the reals that round to a positive magnitude. -/
def interval (x : Binary64) : Interval :=
  let q := x.exponent - 2
  let (up, den) := if 0 ≤ q then (Nat.pow 2 q.toNat, 1) else (1, Nat.pow 2 (-q).toNat)
  let v := 4 * x.mantissa
  let low := if x.mantissa = Nat.pow 2 52 ∧ leastExponent < x.exponent then v - 1 else v - 2
  ⟨low * up, v * up, (v + 2) * up, den, x.mantissa % 2 == 0⟩

/-- The fraction `num / den` lies in the interval. -/
def Interval.holds (i : Interval) (num den : Nat) : Bool :=
  let low := i.low * den
  let mid := num * i.den
  let high := i.high * den
  if i.closed then decide (low ≤ mid ∧ mid ≤ high) else decide (low < mid ∧ mid < high)

/-- The decimal exponent of `num / den`: that of its first digit. -/
def decimalExponent (num den : Nat) : Int :=
  if den ≤ num then ((Nat.toDigits 10 (num / den)).length : Int) - 1
  else
    let k : Nat := ((List.range 400).find? fun k => den ≤ num * Nat.pow 10 k).getD 0
    Int.neg k

/-- A multiple `digits * 10 ^ exponent` of the grid. -/
structure Point where
  digits : Nat
  exponent : Int
  deriving Repr

/-- The point of the grid `10 ^ e` that reads back, if one of the value's two neighbours does. -/
def pointOn (i : Interval) (e : Int) : Option Point :=
  let (num, den) := if 0 ≤ e then (1, Nat.pow 10 e.toNat) else (Nat.pow 10 (-e).toNat, 1)
  let below := i.value * num / (i.den * den)
  let rest := i.value * num % (i.den * den)
  let reads (k : Nat) : Bool := i.holds (k * den) num
  match reads below && below != 0, reads (below + 1) with
  | true, true => some (if 2 * rest ≤ i.den * den then ⟨below, e⟩ else ⟨below + 1, e⟩)
  | true, false => some ⟨below, e⟩
  | false, true => some ⟨below + 1, e⟩
  | false, false => none

/-- The shortest digits of a positive magnitude, with the decimal exponent of the first one. -/
def shortest (x : Binary64) : List Char × Int :=
  let i := x.interval
  let top := decimalExponent i.value i.den
  let point := (List.range 18).findSome? fun (n : Nat) => pointOn i (top - (n : Int))
  let p := point.getD ⟨0, 0⟩
  let ds := Nat.toDigits 10 p.digits
  let exponent := p.exponent + (ds.length : Int) - 1
  ((ds.reverse.dropWhile (· == '0')).reverse, exponent)

/-- Digits with a point after the first `n`, and zeros where none are left. -/
def positional (ds : List Char) (exponent : Int) : List Char :=
  if 0 ≤ exponent then
    let n := exponent.toNat + 1
    let whole := ds.take n ++ List.replicate (n - ds.length) '0'
    let rest := ds.drop n
    whole ++ ['.'] ++ (if rest.isEmpty then ['0'] else rest)
  else
    ['0', '.'] ++ List.replicate ((-exponent).toNat - 1) '0' ++ ds

/-- Digits with a point after the first one and a signed exponent. -/
def scientific (ds : List Char) (exponent : Int) : List Char :=
  let rest := ds.drop 1
  let fraction := if rest.isEmpty then [] else '.' :: rest
  let sign := if 0 ≤ exponent then '+' else '-'
  ds.take 1 ++ fraction ++ ['e', sign] ++ Nat.toDigits 10 exponent.natAbs

/-- The text of a double. -/
def text (x : Binary64) : String :=
  let sign := if x.negative then ['-'] else []
  let body :=
    if x.isZero then ['0', '.', '0']
    else
      let (ds, e) := x.shortest
      if -5 ≤ e ∧ e ≤ 15 then positional ds e else scientific ds e
  String.ofList (sign ++ body)

end Binary64

end LintHub.Decimal
