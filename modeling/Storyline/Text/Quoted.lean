import Storyline.Text.Hex
import Storyline.Text.Printable

/-!
# Quoted text

How a message shows an identifier: between quotation marks, with everything that
could not be read on a line written as an escape.

The marks are single ones, unless the text holds a single mark and no double one.
The mark in use and the backslash get a backslash; line feed, carriage return and
tab have their letters; any other unprintable character is given by its code
point in two, four or eight digits.

- `quote`: the quoted form.
-/

namespace Storyline.Text

/-- The mark that surrounds a quoted text. -/
def quoteMark (cs : List Char) : Char :=
  if cs.contains '\'' && ! cs.contains '"' then '"' else '\''

/-- One character between marks `mark`. -/
def quoteChar (mark c : Char) : List Char :=
  if c = mark || c = '\\' then ['\\', c]
  else if c = '\n' then ['\\', 'n']
  else if c = '\r' then ['\\', 'r']
  else if c = '\t' then ['\\', 't']
  else if isPrintable c then [c]
  else if c.toNat < 0x100 then '\\' :: 'x' :: hexDigits 2 c.toNat
  else if c.toNat < 0x10000 then '\\' :: 'u' :: hexDigits 4 c.toNat
  else '\\' :: 'U' :: hexDigits 8 c.toNat

/-- The quoted form of a text. -/
def quote (s : String) : String :=
  let mark := quoteMark s.toList
  String.ofList (mark :: s.toList.flatMap (quoteChar mark) ++ [mark])

/-- A printable character that is neither a mark nor a backslash is shown as it
is. -/
theorem quoteChar_of_isPrintable {mark c : Char} (h : isPrintable c = true) (hm : c ≠ mark)
    (hb : c ≠ '\\') : quoteChar mark c = [c] := by
  have hn : c ≠ '\n' := by rintro rfl; exact absurd h (by decide)
  have hr : c ≠ '\r' := by rintro rfl; exact absurd h (by decide)
  have ht : c ≠ '\t' := by rintro rfl; exact absurd h (by decide)
  simp [quoteChar, h, hm, hb, hn, hr, ht]

end Storyline.Text
