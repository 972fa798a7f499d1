import Storyline.Json.Reader

/-!
# Halves that stand alone

An escape may write half of a surrogate pair alone.  A string with such a half can be held
and compared, but it is no text: it has no form in octets.  The reader puts a stretch of
marks into its place, and here it is found again.

- `Json.strings`: the strings in a value, names included;
- `Json.hasStretch`: a stretch of marks among characters;
- `Json.hasHalf`: a half stands alone in some string of a value.
-/

namespace Storyline.Json

mutual

/-- The strings in a value, the names of members included. -/
def strings : Json → List String
  | .str s => [s]
  | .arr xs => itemStrings xs
  | .obj ms => memberStrings ms
  | .null | .bool _ | .int _ | .float _ => []

/-- The strings in items. -/
def itemStrings : List Json → List String
  | [] => []
  | x :: xs => strings x ++ itemStrings xs

/-- The strings in members. -/
def memberStrings : List (String × Json) → List String
  | [] => []
  | (k, v) :: ms => k :: (strings v ++ memberStrings ms)

end

/-- Somewhere among the characters there are so many marks in a row. -/
def hasStretch (width : Nat) : List Char → Bool
  | [] => width == 0
  | c :: cs => (List.replicate width mark).isPrefixOf (c :: cs) || hasStretch width cs

/-- A half stands alone in some string of the value, where stretches of a width stand for
halves. -/
def hasHalf (v : Json) (width : Nat) : Bool := v.strings.any fun s => hasStretch width s.toList

end Storyline.Json
