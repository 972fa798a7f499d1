/-!
# Blank characters

The characters that separate words in authored text, and the trimming of a list
of characters at its ends.  The class is wider than the four blanks of ASCII: it
has the separators of the control range and the spaces of Unicode, and it leaves
out the zero-width characters.

- `isBlank`: membership in the class;
- `isSpace`: the blanks that may stand around a number;
- `trim`: both ends cleared of a class of characters;
- `strip`: `trim` at blanks, on strings.
-/

namespace Storyline.Text

/-- The code points of the blank characters. -/
def blankCodes : List Nat :=
  [0x09, 0x0a, 0x0b, 0x0c, 0x0d, 0x1c, 0x1d, 0x1e, 0x1f, 0x20, 0x85, 0xa0, 0x1680,
   0x2000, 0x2001, 0x2002, 0x2003, 0x2004, 0x2005, 0x2006, 0x2007, 0x2008, 0x2009,
   0x200a, 0x2028, 0x2029, 0x202f, 0x205f, 0x3000]

/-- A character that separates words. -/
def isBlank (c : Char) : Bool := blankCodes.contains c.toNat

/-- A blank that is not one of the four separators of the control range: the blanks
that may stand around a number. -/
def isSpace (c : Char) : Bool := isBlank c && ! (0x1c ≤ c.toNat && c.toNat ≤ 0x1f)

/-- Drop the longest start whose characters all satisfy `p`. -/
def trimStart (p : Char → Bool) (cs : List Char) : List Char := cs.dropWhile p

/-- Drop the longest end whose characters all satisfy `p`. -/
def trimEnd (p : Char → Bool) (cs : List Char) : List Char := (cs.reverse.dropWhile p).reverse

/-- Drop both ends made of characters that satisfy `p`. -/
def trim (p : Char → Bool) (cs : List Char) : List Char := trimEnd p (trimStart p cs)

/-- The text without the blanks at its ends. -/
def strip (s : String) : String := String.ofList (trim isBlank s.toList)

@[simp] theorem trim_nil (p : Char → Bool) : trim p [] = [] := rfl

/-- A start that fails `p` is kept. -/
theorem trimStart_cons_of_not {p : Char → Bool} {c : Char} (h : p c = false) (cs : List Char) :
    trimStart p (c :: cs) = c :: cs := by
  simp [trimStart, List.dropWhile, h]

end Storyline.Text
