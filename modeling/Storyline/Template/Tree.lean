/-!
# Templates

A template is a list of pieces: plain text, values to be shown, and blocks with a
body and perhaps a body for the other case.

- `Path`: a way to a value, segment by segment;
- `Argument`: what a helper or a block is given;
- `Piece`: a piece of a template;
- `unescape?`: the characters of a quoted name or text;
- `Piece.isSound`: whether all quoted names and texts can be read.
-/

namespace Storyline.Template

/-- A step of a path.  The characters of a name are as they were written. -/
inductive Segment where
  | name (written : List Char)
  | here
  | parent
  | parentData
  deriving DecidableEq, Repr

/-- A way to a value. -/
abbrev Path := List Segment

/-- What a helper or a block is given.  The characters of a text are as they were
written, after the quotation mark. -/
inductive Argument where
  | path (p : Path)
  | text (mark : Char) (written : List Char)
  | int (n : Int)
  | bool (b : Bool)
  | null
  | call (p : Path) (arguments : List Argument)
  | named (name : String) (value : Argument)

/-- A piece of a template. -/
inductive Piece where
  | text (s : String)
  | comment
  | value (escaped : Bool) (p : Path) (arguments : List Argument)
  | block (inverted : Bool) (name : String) (arguments : List Argument) (body other : List Piece)
  | inclusion

/-- The value of digits in a base. -/
def digitsValue? (base : Nat) (cs : List Char) : Option Nat :=
  cs.foldlM (fun n c =>
    let d :=
      if c.isDigit then some (c.toNat - 0x30)
      else if 'a' ≤ c ∧ c ≤ 'f' then some (c.toNat - 0x57)
      else if 'A' ≤ c ∧ c ≤ 'F' then some (c.toNat - 0x37)
      else none
    d.bind fun d => if d < base then some (n * base + d) else none) 0

/-- The character of a code point. -/
def charOf? (n : Nat) : Option Char :=
  if h : n.isValidChar then some ⟨n.toUInt32, by
    have := h
    simp only [Nat.isValidChar] at this
    simp only [UInt32.isValidChar, Nat.toUInt32, UInt32.toNat_ofNat', Nat.isValidChar]
    omega⟩ else none

/-- The number of digits after the letter of an escape. -/
def escapeWidth? : Char → Option Nat
  | 'x' => some 2
  | 'u' => some 4
  | 'U' => some 8
  | _ => none

/-- The character of an escape of one letter. -/
def shortEscape? : Char → Option Nat
  | '\\' => some 0x5c
  | '\'' => some 0x27
  | '"' => some 0x22
  | 'a' => some 0x07
  | 'b' => some 0x08
  | 'f' => some 0x0c
  | 'n' => some 0x0a
  | 'r' => some 0x0d
  | 't' => some 0x09
  | 'v' => some 0x0b
  | _ => none

/-- An octal digit. -/
def isOctal (c : Char) : Bool := '0' ≤ c && c ≤ '7'

/-- A character that no quotation can hold as it is: its own mark, a line break, or
the character of code point zero. -/
def endsQuotation (mark c : Char) : Bool :=
  c = mark || c = '\n' || c = '\r' || c.toNat = 0

/-- The characters that a quotation between marks stands for; escapes that are not
known stand for themselves. -/
def unescape (mark : Char) (fuel : Nat) (cs : List Char) : Option (List Char) :=
  match fuel, cs with
  | _, [] => some []
  | 0, _ => none
  | fuel + 1, '\\' :: c :: rest =>
    match shortEscape? c, escapeWidth? c with
    | some n, _ => do return (← charOf? n) :: (← unescape mark fuel rest)
    | none, some width =>
      if (rest.take width).length < width then none
      else do
        let n ← digitsValue? 16 (rest.take width)
        return (← charOf? n) :: (← unescape mark fuel (rest.drop width))
    | none, none =>
      if c = '\n' then unescape mark fuel rest
      else if isOctal c then do
        let digits := (c :: rest).take 3 |>.takeWhile isOctal
        let n ← digitsValue? 8 digits
        return (← charOf? n) :: (← unescape mark fuel (rest.drop (digits.length - 1)))
      else if c = '\r' || c.toNat = 0 then none
      else do return '\\' :: c :: (← unescape mark fuel rest)
  | _, ['\\'] => none
  | fuel + 1, c :: rest =>
    if endsQuotation mark c then none else do return c :: (← unescape mark fuel rest)

/-- The text that a quotation stands for. -/
def unescape? (mark : Char) (written : List Char) : Option String :=
  (unescape mark written.length written).map String.ofList

/-- Names are quoted between single marks. -/
def nameOf? (written : List Char) : Option String := unescape? '\'' written

/-- The names of a path can be read. -/
def Segment.isSound : Segment → Bool
  | .name written => (nameOf? written).isSome
  | _ => true

/-- The names of a path can be read. -/
def pathIsSound (p : Path) : Bool := p.all Segment.isSound

/-- A helper is called by a single segment. -/
def helperName? : Path → Option String
  | [.name written] => nameOf? written
  | _ => none

mutual

/-- All names and texts of an argument can be read. -/
def Argument.isSound : Argument → Bool
  | .path p => pathIsSound p
  | .text mark written => (unescape? mark written).isSome
  | .call p arguments => (helperName? p).isSome && argumentsAreSound arguments
  | .named _ value => value.isSound
  | _ => true

/-- All names and texts of some arguments can be read. -/
def argumentsAreSound : List Argument → Bool
  | [] => true
  | a :: as => a.isSound && argumentsAreSound as

end

mutual

/-- All names and texts of a piece can be read. -/
def Piece.isSound : Piece → Bool
  | .value _ p arguments => pathIsSound p && argumentsAreSound arguments
  | .block _ _ arguments body other =>
    argumentsAreSound arguments && piecesAreSound body && piecesAreSound other
  | _ => true

/-- All names and texts of some pieces can be read. -/
def piecesAreSound : List Piece → Bool
  | [] => true
  | p :: ps => p.isSound && piecesAreSound ps

end

end Storyline.Template
