import Storyline.Decimal.Shortest

/-!
# Reading a double

- `Decimal.toFloat`: the double nearest to a decimal;
- `splitDigits`, `natOfDigits`: runs of ASCII digits;
- `readExponent`: the optional exponent part of a number.
-/

namespace Storyline.Decimal

/-- A decimal digit of ASCII. -/
def isDigit (c : Char) : Bool := c.isDigit

/-- The number that a run of digits stands for. -/
def natOfDigits (cs : List Char) : Nat :=
  cs.foldl (fun n c => n * 10 + (c.toNat - 0x30)) 0

/-- The longest run of digits at the start, and the rest. -/
def splitDigits (cs : List Char) : List Char × List Char :=
  (cs.takeWhile isDigit, cs.dropWhile isDigit)

/-- The double nearest to `digits * 10 ^ exponent`.  Exponents beyond every double
are decided before any power is formed. -/
def toFloat (d : Decimal) : Float :=
  if d.digits = 0 then 0.0
  else
    let top := d.exponent + digitCount d.digits
    if 400 < top then 1.0 / 0.0
    else if top < -400 then 0.0
    else if d.exponent < 0 then Float.ofScientific d.digits true d.exponent.natAbs
    else Float.ofScientific d.digits false d.exponent.natAbs

/-- The double written as whole digits, digits after the point, and an exponent. -/
def floatOfParts (negative : Bool) (whole fraction : List Char) (exponent : Int) : Float :=
  let x := toFloat ⟨natOfDigits (whole ++ fraction), exponent - fraction.length⟩
  if negative then -x else x

/-- The exponent part at the start of `cs`, if there is one: its value and the
rest.  It is a letter `e`, an optional sign, and at least one digit. -/
def readExponent (cs : List Char) : Option (Int × List Char) :=
  match cs with
  | e :: rest =>
    if e = 'e' || e = 'E' then
      let (negative, rest) :=
        match rest with
        | '-' :: r => (true, r)
        | '+' :: r => (false, r)
        | r => (false, r)
      match splitDigits rest with
      | ([], _) => none
      | (ds, left) =>
        let n : Int := natOfDigits ds
        some (if negative then -n else n, left)
    else none
  | [] => none

end Storyline.Decimal
