import Storyline.Decimal.Binary

/-!
# The shortest decimal that reads back

A double stands for every real number that rounds to it.  Its decimal is the
number with the fewest digits among them, and of two with equally many the one
nearer to the double.

For one digit, two digits and so on, the candidates are the two neighbours of the
double on the grid of decimals with that many digits.  If any decimal with so
many digits reads back, one of the two does.

- `Decimal`: digits and a power of ten;
- `shortest`: the decimal of a positive double.
-/

namespace Storyline

/-- The number `digits * 10 ^ exponent`. -/
structure Decimal where
  digits : Nat
  exponent : Int
  deriving DecidableEq, Repr

namespace Decimal

/-- The count of decimal digits of a natural number. -/
def digitCount (n : Nat) : Nat := (Nat.toDigits 10 n).length

/-- How often `num` has to be multiplied by ten to reach `den`, at most `fuel`
times. -/
def tensBelow (fuel num den : Nat) : Nat :=
  match fuel with
  | 0 => 0
  | k + 1 => if den ≤ num then 0 else tensBelow k (num * 10) den + 1

/-- The place before the first digit of `num / den`: the `k` with
`10 ^ (k - 1) ≤ num / den < 10 ^ k`. -/
def magnitude (num den : Nat) : Int :=
  if den ≤ num then digitCount (num / den) else 1 - (tensBelow 400 num den : Int)

/-- The reals that round to a double, as multiples of `1 / den`: the double itself
and the two ends, which belong to it if `closed`. -/
structure Interval where
  low : Nat
  value : Nat
  high : Nat
  den : Nat
  closed : Bool

/-- The interval of a positive double.  Below a power of two the doubles lie twice
as close, except at the least exponent. -/
def Interval.ofBinary (mantissa : Nat) (exponent : Int) : Interval :=
  let unit := Nat.pow 2 (exponent - 2).toNat
  let narrow := mantissa = Nat.pow 2 52 ∧ -1074 < exponent
  { low := (4 * mantissa - if narrow then 1 else 2) * unit
    value := 4 * mantissa * unit
    high := (4 * mantissa + 2) * unit
    den := Nat.pow 2 (2 - exponent).toNat
    closed := mantissa % 2 == 0 }

/-- The neighbours of the double on the grid of decimals with `count` digits, if
one of them lies in the interval; the nearer one, and the even one of two equally
near. -/
def Interval.onGrid? (i : Interval) (k : Int) (count : Nat) : Option Nat :=
  let up := Nat.pow 10 ((count : Int) - k).toNat
  let step := i.den * Nat.pow 10 (k - (count : Int)).toNat
  let below := i.value * up / step
  let above := below + 1
  let fitsBelow :=
    if i.closed then decide (i.low * up ≤ below * step) else decide (i.low * up < below * step)
  let fitsAbove :=
    if i.closed then decide (above * step ≤ i.high * up) else decide (above * step < i.high * up)
  let toBelow := i.value * up - below * step
  let toAbove := above * step - i.value * up
  match fitsBelow, fitsAbove with
  | false, false => none
  | true, false => some below
  | false, true => some above
  | true, true =>
    if toBelow < toAbove then some below
    else if toAbove < toBelow then some above
    else if below % 2 = 0 then some below else some above

/-- Move zeros at the end of the digits into the exponent. -/
def trimZeros (fuel : Nat) (d : Decimal) : Decimal :=
  match fuel with
  | 0 => d
  | k + 1 => if d.digits % 10 = 0 then trimZeros k ⟨d.digits / 10, d.exponent + 1⟩ else d

/-- The shortest decimal that reads back as the positive double
`mantissa * 2 ^ exponent`.  Seventeen digits always suffice. -/
def shortest (mantissa : Nat) (exponent : Int) : Decimal :=
  let i := Interval.ofBinary mantissa exponent
  let k := magnitude i.value i.den
  let found := (List.range' 1 17).findSome? fun count =>
    (i.onGrid? k count).map fun n => trimZeros 18 ⟨n, k - (count : Int)⟩
  found.getD ⟨0, 0⟩

end Decimal

end Storyline
