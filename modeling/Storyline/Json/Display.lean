import Storyline.Decimal.Layout
import Storyline.Json.Value
import Storyline.Text.Quoted

/-!
# Values in running text

How a value shows inside a sentence or an address: texts as they are, and lists and
objects with everything inside them quoted.

- `Json.display`: the form;
- `Json.isTruthy`: whether a value counts as something.
-/

namespace Storyline.Json

mutual

/-- A value as it shows inside a list or an object. -/
def displayInner : Json → String
  | .null => "None"
  | .bool b => if b then "True" else "False"
  | .int n => Decimal.renderInt n
  | .float x => Decimal.Layout.plain.render x
  | .str s => Text.quote s
  | .arr xs => "[" ++ ", ".intercalate (displayItems xs) ++ "]"
  | .obj ms => "\x7b" ++ ", ".intercalate (displayMembers ms) ++ "\x7d"

/-- The items as they show. -/
def displayItems : List Json → List String
  | [] => []
  | x :: xs => displayInner x :: displayItems xs

/-- The members as they show. -/
def displayMembers : List (String × Json) → List String
  | [] => []
  | (k, v) :: ms => (Text.quote k ++ ": " ++ displayInner v) :: displayMembers ms

end

/-- A value as it shows by itself. -/
def display : Json → String
  | .str s => s
  | v => displayInner v

/-- A value that is nonzero, nonempty, or true. -/
def isTruthy : Json → Bool
  | .null => false
  | .bool b => b
  | .int n => n != 0
  | .float x => x != 0.0
  | .str s => s != ""
  | .arr xs => ! xs.isEmpty
  | .obj ms => ! ms.isEmpty

end Storyline.Json
