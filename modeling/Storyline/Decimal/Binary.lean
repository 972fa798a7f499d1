/-!
# Doubles as exact numbers

A double is not a number, an infinity, or a sign, a natural mantissa and a power
of two.  The texts of this library are computed from this form in natural
arithmetic, so that no step rounds.

- `Binary.ofFloat`: the exact form;
- `Binary.floor?`: the integer part toward zero, for finite doubles;
- `isIntegral`: no fraction.
-/

namespace Storyline.Decimal

/-- The exact value of a double: a finite one is `mantissa * 2 ^ exponent` with a
sign. -/
inductive Binary where
  | notANumber
  | infinite (negative : Bool)
  | finite (negative : Bool) (mantissa : Nat) (exponent : Int)
  deriving DecidableEq, Repr

/-- The exact value of a double, from its sign, eleven exponent bits and
fifty-two fraction bits. -/
def Binary.ofFloat (x : Float) : Binary :=
  let bits := x.toBits.toNat
  let negative := decide (Nat.pow 2 63 ≤ bits)
  let biased : Nat := bits / Nat.pow 2 52 % Nat.pow 2 11
  let fraction : Nat := bits % Nat.pow 2 52
  if biased = 2047 then
    if fraction = 0 then .infinite negative else .notANumber
  else if biased = 0 then .finite negative fraction (-1074)
  else .finite negative (Nat.pow 2 52 + fraction) ((biased : Int) - 1075)

/-- The magnitude of a finite double, cut to an integer. -/
def truncated (mantissa : Nat) (exponent : Int) : Nat :=
  mantissa * Nat.pow 2 exponent.toNat / Nat.pow 2 (-exponent).toNat

/-- The double has no fraction. -/
def Binary.isIntegral : Binary → Bool
  | .finite _ m e => m * Nat.pow 2 e.toNat % Nat.pow 2 (-e).toNat == 0
  | _ => false

/-- The integer part of a finite double, toward zero. -/
def Binary.toInt? : Binary → Option Int
  | .finite negative m e =>
    some (if negative then -(truncated m e : Int) else (truncated m e : Int))
  | _ => none

/-- The double is neither an infinity nor not a number. -/
def Binary.isFinite : Binary → Bool
  | .finite .. => true
  | _ => false

/-- The double is a finite number. -/
def isFinite (x : Float) : Bool := (Binary.ofFloat x).isFinite

/-- The double is a finite number without a fraction. -/
def isIntegral (x : Float) : Bool := (Binary.ofFloat x).isIntegral

/-- The integer part of a finite double, toward zero. -/
def toInt? (x : Float) : Option Int := (Binary.ofFloat x).toInt?

/-- The double nearest to an integer, an infinity beyond the range. -/
def ofInt : Int → Float
  | .ofNat n => Float.ofNat n
  | .negSucc n => -Float.ofNat (n + 1)

theorem Binary.toInt?_isSome (b : Binary) : b.toInt?.isSome = b.isFinite := by
  cases b <;> rfl

end Storyline.Decimal
