import Storyline.Decimal.Layout
import Storyline.Json.Value
import Storyline.Text.Hex

/-!
# Writing JSON

A style says how items are separated, whether the text is spread over lines,
whether characters beyond ASCII are escaped, and how doubles are written.

- `Style.compact`: stored saves, without blanks;
- `Style.indented`: exported bundles, two blanks a level;
- `Style.spaced`: settings, in ASCII alone;
- `Json.write`: the text of a value in a style.
-/

namespace Storyline.Json

/-- The choices that fix the text of a value. -/
structure Style where
  comma : List Char
  colon : List Char
  lines : Bool
  ascii : Bool
  doubles : Decimal.Layout

/-- No blanks, characters beyond ASCII as they are, no number as null. -/
def Style.compact : Style := ⟨[','], [':'], false, false, .compact⟩

/-- One item a line, characters beyond ASCII as they are, no number as null. -/
def Style.indented : Style := ⟨[','], [':', ' '], true, false, .compact⟩

/-- A blank after every separator, everything beyond ASCII escaped. -/
def Style.spaced : Style := ⟨[',', ' '], [':', ' '], false, true, .settings⟩

/-- A long escape of one code unit. -/
def longEscape (n : Nat) : List Char := '\\' :: 'u' :: Text.hexDigits 4 n

/-- One character of a string. -/
def escapeChar (ascii : Bool) (c : Char) : List Char :=
  if c = '"' then ['\\', '"']
  else if c = '\\' then ['\\', '\\']
  else if c = '\n' then ['\\', 'n']
  else if c = '\r' then ['\\', 'r']
  else if c = '\t' then ['\\', 't']
  else if c.toNat = 0x08 then ['\\', 'b']
  else if c.toNat = 0x0c then ['\\', 'f']
  else if c.toNat < 0x20 then longEscape c.toNat
  else if ascii && 0x7f ≤ c.toNat then
    if c.toNat < 0x10000 then longEscape c.toNat
    else
      longEscape (0xd800 + (c.toNat - 0x10000) / 0x400)
        ++ longEscape (0xdc00 + (c.toNat - 0x10000) % 0x400)
  else [c]

/-- A string between its marks. -/
def writeString (ascii : Bool) (s : String) : List Char :=
  '"' :: s.toList.flatMap (escapeChar ascii) ++ ['"']

/-- A line break and the indentation of a level, in a style with lines. -/
def Style.break (s : Style) (level : Nat) : List Char :=
  if s.lines then '\n' :: List.replicate (2 * level) ' ' else []

mutual

/-- The text of a value inside `level` brackets. -/
def writeAt (s : Style) (level : Nat) : Json → List Char
  | .null => ['n', 'u', 'l', 'l']
  | .bool true => ['t', 'r', 'u', 'e']
  | .bool false => ['f', 'a', 'l', 's', 'e']
  | .int n => Decimal.intChars n
  | .float x => (s.doubles.render x).toList
  | .str t => writeString s.ascii t
  | .arr [] => ['[', ']']
  | .arr (x :: xs) =>
    '[' :: s.break (level + 1) ++ writeAt s (level + 1) x ++ writeItems s (level + 1) xs
      ++ s.break level ++ [']']
  | .obj [] => ['{', '}']
  | .obj ((k, v) :: ms) =>
    '{' :: s.break (level + 1) ++ writeString s.ascii k ++ s.colon ++ writeAt s (level + 1) v
      ++ writeMembers s (level + 1) ms ++ s.break level ++ ['}']

/-- The items after the first one, each after its separator. -/
def writeItems (s : Style) (level : Nat) : List Json → List Char
  | [] => []
  | x :: xs => s.comma ++ s.break level ++ writeAt s level x ++ writeItems s level xs

/-- The members after the first one, each after its separator. -/
def writeMembers (s : Style) (level : Nat) : List (String × Json) → List Char
  | [] => []
  | (k, v) :: ms =>
    s.comma ++ s.break level ++ writeString s.ascii k ++ s.colon ++ writeAt s level v
      ++ writeMembers s level ms

end

/-- The text of a value in a style. -/
def write (s : Style) (v : Json) : String := String.ofList (writeAt s 0 v)

@[simp] theorem writeItems_nil (s : Style) (level : Nat) : writeItems s level [] = [] := by
  rw [writeItems]

@[simp] theorem writeMembers_nil (s : Style) (level : Nat) : writeMembers s level [] = [] := by
  rw [writeMembers]

end Storyline.Json
