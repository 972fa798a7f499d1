import Storyline.Decimal.Shortest
import Storyline.Json.Value

/-!
# The leaves of a value

What stands at the ends of a value, and whether its whole numbers keep to a limit.

- `Json.leaves`, `Json.doubles`, `Json.wholes`: the leaves, and the numbers among them;
- `Json.fits`: no whole number is longer than a limit.
-/

namespace Storyline.Json

mutual

/-- The values in a value that are neither lists nor objects. -/
def leaves : Json → List Json
  | .arr xs => itemLeaves xs
  | .obj ms => memberLeaves ms
  | v => [v]

/-- The leaves of items. -/
def itemLeaves : List Json → List Json
  | [] => []
  | x :: xs => leaves x ++ itemLeaves xs

/-- The leaves of members. -/
def memberLeaves : List (String × Json) → List Json
  | [] => []
  | (_, v) :: ms => leaves v ++ memberLeaves ms

end

/-- The double that a value is. -/
def double? : Json → Option Float
  | .float x => some x
  | _ => none

/-- The whole number that a value is. -/
def whole? : Json → Option Int
  | .int n => some n
  | _ => none

/-- The doubles in a value, in order. -/
def doubles (v : Json) : List Float := v.leaves.filterMap double?

/-- The whole numbers in a value, in order. -/
def wholes (v : Json) : List Int := v.leaves.filterMap whole?

/-- No whole number in the value has more digits than the limit allows. -/
def fits (limit : Option Nat) (v : Json) : Bool :=
  v.wholes.all fun n => ! limit.any (· < Decimal.digitCount n.natAbs)

end Storyline.Json
