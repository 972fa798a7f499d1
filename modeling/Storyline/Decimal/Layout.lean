import Storyline.Decimal.Shortest

/-!
# How a double is written

A layout says where positional notation ends, how wide an exponent is, and how
the three values that are no numbers are spelt.  The digits come from
`Decimal.shortest`, so two layouts never differ in them.

- `Layout`: the choices;
- `Layout.plain`: the layout of messages and settings;
- `Layout.compact`: the layout of stored saves;
- `Layout.render`: the text of a double;
- `renderInt`: the text of a whole number.
-/

namespace Storyline.Decimal

/-- The choices that fix the text of a double.  A number with decimal exponent
`e`, the exponent of its first digit, is written positionally when
`least ≤ e < beyond`. -/
structure Layout where
  least : Int
  beyond : Int
  exponentWidth : Nat
  notANumber : String
  infinity : String
  negativeInfinity : String

/-- Positional from `0.0001` up to below `10 ^ 16`; exponents have two digits or
more. -/
def Layout.plain : Layout := ⟨-4, 16, 2, "nan", "inf", "-inf"⟩

/-- As `plain`, with the three spellings that settings files use. -/
def Layout.settings : Layout := ⟨-4, 16, 2, "NaN", "Infinity", "-Infinity"⟩

/-- Positional from `0.00001` up to below `10 ^ 16`; exponents are not padded, and
what is no number is null. -/
def Layout.compact : Layout := ⟨-5, 16, 1, "null", "null", "null"⟩

/-- The digits of a whole number after its sign. -/
def intChars (n : Int) : List Char :=
  if n < 0 then '-' :: Nat.toDigits 10 n.natAbs else Nat.toDigits 10 n.natAbs

/-- The text of a whole number. -/
def renderInt (n : Int) : String := String.ofList (intChars n)

/-- Digits with the point after the first `places` of them, zeros filled in where
digits are missing. -/
def positional (digits : List Char) (places : Int) : List Char :=
  if places ≤ 0 then
    '0' :: '.' :: (List.replicate (-places).toNat '0' ++ digits)
  else if (digits.length : Int) ≤ places then
    digits ++ List.replicate (places.toNat - digits.length) '0' ++ ['.', '0']
  else digits.take places.toNat ++ '.' :: digits.drop places.toNat

/-- Digits with a point after the first one, and the exponent. -/
def scientific (width : Nat) (digits : List Char) (exponent : Int) : List Char :=
  let power := Nat.toDigits 10 exponent.natAbs
  let padded := List.replicate (width - power.length) '0' ++ power
  let sign := if exponent < 0 then '-' else '+'
  let mantissa :=
    match digits with
    | d :: e :: ds => d :: '.' :: e :: ds
    | ds => ds
  mantissa ++ 'e' :: sign :: padded

/-- The text of a decimal in a layout. -/
def Layout.renderDecimal (l : Layout) (d : Decimal) : List Char :=
  let digits := Nat.toDigits 10 d.digits
  let places := d.exponent + digits.length
  if l.least ≤ places - 1 ∧ places - 1 < l.beyond then positional digits places
  else scientific l.exponentWidth digits (places - 1)

/-- The text of a double in a layout. -/
def Layout.render (l : Layout) (x : Float) : String :=
  match Binary.ofFloat x with
  | .notANumber => l.notANumber
  | .infinite negative => if negative then l.negativeInfinity else l.infinity
  | .finite negative mantissa exponent =>
    let magnitude :=
      if mantissa = 0 then ['0', '.', '0'] else l.renderDecimal (shortest mantissa exponent)
    String.ofList (if negative then '-' :: magnitude else magnitude)

end Storyline.Decimal
