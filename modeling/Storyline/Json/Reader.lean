import Storyline.Decimal.Reading
import Storyline.Json.Value
import Storyline.Text.Hex

/-!
# Reading JSON

The text of one value, blanks around it allowed.  Beyond the standard the reader
knows the three spellings of doubles that are no numbers.  A whole number may have
at most `maxDigits` digits; a longer one is a fault of its own kind, since the text
is well formed.

- `Json.read`: the value of a text;
- `Json.readUnbounded`: the same without a limit on digits.

Every function takes the characters that are left and returns those it leaves.
The recursion is bounded by the length of the text, and so a value may be nested to
any depth.  A decoder that recurses on a stack gives up with an error of its own where
the stack ends; that limit is a property of the running program and is left out.

The strings here are texts of Unicode, and half of a surrogate pair that an escape
writes alone is no character.  What is read for it is a stretch of marks that is
longer than the text, so that it is told apart from every string without one.
-/

namespace Storyline.Json

/-- Why a text has no value. -/
inductive Fault where
  | malformed
  | numberTooLong
  deriving DecidableEq, Repr

/-- The longest whole number that is read. -/
def maxDigits : Nat := 4300

/-- A value read and the characters after it. -/
abbrev Reading (α : Type) := Except Fault (α × List Char)

/-- A character between tokens. -/
def isGap (c : Char) : Bool := c = ' ' || c = '\t' || c = '\n' || c = '\r'

/-- The characters from the next token on. -/
def skipGap (cs : List Char) : List Char := cs.dropWhile isGap

/-- The letter of a short escape, as a code point. -/
def shortEscape? (c : Char) : Option Nat :=
  match c with
  | '"' => some 0x22
  | '\\' => some 0x5c
  | '/' => some 0x2f
  | 'b' => some 0x08
  | 'f' => some 0x0c
  | 'n' => some 0x0a
  | 'r' => some 0x0d
  | 't' => some 0x09
  | _ => none

/-- Four hexadecimal digits. -/
def hex4? (a b c d : Char) : Option Nat := do
  let a ← Text.hexValue? a
  let b ← Text.hexValue? b
  let c ← Text.hexValue? c
  let d ← Text.hexValue? d
  return ((a * 16 + b) * 16 + c) * 16 + d

/-- The code units of a string up to its closing mark.  A unit is a character or
what a long escape says, possibly half of a surrogate pair. -/
def readUnits : List Char → Reading (List Nat)
  | [] => .error .malformed
  | '"' :: cs => .ok ([], cs)
  | '\\' :: 'u' :: a :: b :: c :: d :: cs =>
    match hex4? a b c d with
    | some n => (readUnits cs).map fun (us, rest) => (n :: us, rest)
    | none => .error .malformed
  | '\\' :: c :: cs =>
    match shortEscape? c with
    | some n => (readUnits cs).map fun (us, rest) => (n :: us, rest)
    | none => .error .malformed
  | c :: cs =>
    if c = '\\' || c.toNat < 0x20 then .error .malformed
    else (readUnits cs).map fun (us, rest) => (c.toNat :: us, rest)

/-- The first half of a surrogate pair. -/
def isHighHalf (n : Nat) : Bool := 0xd800 ≤ n && n < 0xdc00

/-- The second half of a surrogate pair. -/
def isLowHalf (n : Nat) : Bool := 0xdc00 ≤ n && n < 0xe000

/-- A half of a surrogate pair. -/
def isHalf (n : Nat) : Bool := isHighHalf n || isLowHalf n

/-- A character for private use, of which stretches are made. -/
def mark : Char := '\uf8ff'

/-- What is read for a half that stands alone: a stretch of marks, and after it the
character that tells which half it is. -/
def standIn (width n : Nat) : List Char :=
  List.replicate width mark ++ [Char.ofNat (0xf0000 + (n - 0xd800))]

/-- Characters from code units: two halves in order are one character. -/
def joinUnits (width : Nat) : List Nat → List Char
  | [] => []
  | [n] => if isHalf n then standIn width n else [Char.ofNat n]
  | n :: m :: us =>
    if isHighHalf n && isLowHalf m then
      Char.ofNat (0x10000 + (n - 0xd800) * 0x400 + (m - 0xdc00)) :: joinUnits width us
    else if isHalf n then standIn width n ++ joinUnits width (m :: us)
    else Char.ofNat n :: joinUnits width (m :: us)

/-- The string after an opening mark. -/
def readString (width : Nat) (cs : List Char) : Reading String :=
  (readUnits cs).map fun (us, rest) => (String.ofList (joinUnits width us), rest)

/-- The digits before the point: a single zero, or digits that start with
another one. -/
def readWhole : List Char → Option (List Char × List Char)
  | '0' :: cs => some (['0'], cs)
  | cs =>
    match Decimal.splitDigits cs with
    | ([], _) => none
    | split => some split

/-- The digits after a point, if a point with a digit follows. -/
def readFraction : List Char → Option (List Char × List Char)
  | '.' :: cs =>
    match Decimal.splitDigits cs with
    | ([], _) => none
    | split => some split
  | _ => none

/-- The number at the start of `cs`, after its sign. -/
def readNumber (limit : Option Nat) (negative : Bool) (cs : List Char) :
    Except Fault (Json × List Char) := do
  let (whole, cs) ← (readWhole cs).elim (throw .malformed) pure
  let fraction? := readFraction cs
  let cs := fraction?.elim cs (·.2)
  let exponent? := Decimal.readExponent cs
  let cs := exponent?.elim cs (·.2)
  if fraction?.isNone && exponent?.isNone then
    if limit.any (· < whole.length) then throw .numberTooLong
    let n : Int := Decimal.natOfDigits whole
    return (.int (if negative then -n else n), cs)
  else
    let fraction := fraction?.elim [] (·.1)
    let exponent := exponent?.elim 0 (·.1)
    return (.float (Decimal.floatOfParts negative whole fraction exponent), cs)

/-- A value that is neither a list nor an object. -/
def readScalar (limit : Option Nat) (width : Nat) (cs : List Char) : Reading Json :=
  match cs with
  | '"' :: cs => (readString width cs).map fun (s, rest) => (.str s, rest)
  | 'n' :: 'u' :: 'l' :: 'l' :: cs => .ok (.null, cs)
  | 't' :: 'r' :: 'u' :: 'e' :: cs => .ok (.bool true, cs)
  | 'f' :: 'a' :: 'l' :: 's' :: 'e' :: cs => .ok (.bool false, cs)
  | 'N' :: 'a' :: 'N' :: cs => .ok (.float (0.0 / 0.0), cs)
  | 'I' :: 'n' :: 'f' :: 'i' :: 'n' :: 'i' :: 't' :: 'y' :: cs => .ok (.float (1.0 / 0.0), cs)
  | '-' :: 'I' :: 'n' :: 'f' :: 'i' :: 'n' :: 'i' :: 't' :: 'y' :: cs =>
    .ok (.float (-(1.0 / 0.0)), cs)
  | '-' :: cs => readNumber limit true cs
  | cs => readNumber limit false cs

mutual

/-- The value at the start of `cs`, which is no gap. -/
def readValue (limit : Option Nat) (width fuel : Nat) (cs : List Char) :
    Except Fault (Json × List Char) :=
  match fuel with
  | 0 => .error .malformed
  | fuel + 1 =>
    match cs with
    | '[' :: cs =>
      match skipGap cs with
      | ']' :: rest => .ok (.arr [], rest)
      | cs => (readItems limit width fuel cs).map fun (xs, rest) => (.arr xs, rest)
    | '{' :: cs =>
      match skipGap cs with
      | '}' :: rest => .ok (.obj [], rest)
      | cs =>
        (readMembers limit width fuel cs).map fun (ms, rest) => (.obj (Members.ofList ms), rest)
    | cs => readScalar limit width cs

/-- The items of a list up to its closing bracket. -/
def readItems (limit : Option Nat) (width fuel : Nat) (cs : List Char) :
    Except Fault (List Json × List Char) :=
  match fuel with
  | 0 => .error .malformed
  | fuel + 1 => do
    let (x, cs) ← readValue limit width fuel cs
    match skipGap cs with
    | ',' :: cs =>
      let (xs, rest) ← readItems limit width fuel (skipGap cs)
      return (x :: xs, rest)
    | ']' :: rest => return ([x], rest)
    | _ => throw .malformed

/-- The members of an object up to its closing brace. -/
def readMembers (limit : Option Nat) (width fuel : Nat) (cs : List Char) :
    Except Fault (List (String × Json) × List Char) :=
  match fuel with
  | 0 => .error .malformed
  | fuel + 1 =>
    match cs with
    | '"' :: cs => do
      let (name, cs) ← readString width cs
      match skipGap cs with
      | ':' :: cs =>
        let (value, cs) ← readValue limit width fuel (skipGap cs)
        match skipGap cs with
        | ',' :: cs =>
          let (ms, rest) ← readMembers limit width fuel (skipGap cs)
          return ((name, value) :: ms, rest)
        | '}' :: rest => return ([(name, value)], rest)
        | _ => throw .malformed
      | _ => throw .malformed
    | _ => .error .malformed

end

/-- The width of the stretches in the value of a text.  No string in the text is so long. -/
def markWidth (cs : List Char) : Nat := cs.length + 1

/-- The value of a text under a limit on digits, gaps around it allowed. -/
def readChars (limit : Option Nat) (cs : List Char) : Except Fault Json := do
  let (value, rest) ← readValue limit (markWidth cs) (2 * cs.length + 2) (skipGap cs)
  if (skipGap rest).isEmpty then return value else throw .malformed

/-- The value of a text. -/
def read (text : String) : Except Fault Json := readChars (some maxDigits) text.toList

/-- The value of a text whose whole numbers may have any length. -/
def readUnbounded (text : String) : Except Fault Json := readChars none text.toList

end Storyline.Json
