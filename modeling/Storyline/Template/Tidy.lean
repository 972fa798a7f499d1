import Storyline.Text.Blank

/-!
# Blanks around tags

Before a template is read, blanks that belong to the layout of its source are taken
away: those beside a tag that carries a tilde, and the line break after a line that
holds nothing but tags of blocks, comments and other cases.

- `tidy`: the source without such blanks.

The rules are tried in order at each place: a tilde at the end of a tag, a tilde at
the start of a tag, a line of tags after a line break, a line of tags at the start
that opens blocks, a line of tags at the end that closes blocks.
-/

namespace Storyline.Template

/-- The brace that opens. -/
def leftBrace : Char := '\x7b'

/-- The brace that closes. -/
def rightBrace : Char := '\x7d'

/-- What starts a tag. -/
def tagStart : List Char := [leftBrace, leftBrace]

/-- What ends a tag. -/
def tagEnd : List Char := [rightBrace, rightBrace]

/-- What follows a front of the characters. -/
def afterFront? (front : List Char) (cs : List Char) : Option (List Char) :=
  if front.isPrefixOf cs then some (cs.drop front.length) else none

/-- A blank within a line. -/
def isLineBlank (c : Char) : Bool := c = ' ' || c = '\t'

/-- A brace of either kind. -/
def isBrace (c : Char) : Bool := c = leftBrace || c = rightBrace

/-- What a tag on a line of tags may be: the opening of a block, its closing, a
comment, or the start of the other case. -/
structure TagKinds where
  opening : Bool
  closing : Bool
  other : Bool

/-- The words of a tag for the other case; a further condition may follow. -/
def isOtherCase (body : List Char) : Bool :=
  body = "else".toList
    || ("else if ".toList.isPrefixOf body && "else if ".length < body.length)

/-- The tag between braces is one of the kinds. -/
def TagKinds.allows (k : TagKinds) (body : List Char) : Bool :=
  match body with
  | c :: _ :: _ =>
    (c = '#' && k.opening) || (c = '/' && k.closing) || c = '!' || (k.other && isOtherCase body)
  | _ => false

/-- The body of a tag without the tilde at its end. -/
def withoutTilde (body : List Char) : List Char :=
  if body.getLast? = some '~' then body.dropLast else body

/-- Tags of some kinds, one after another with blanks between them: their text
without the blanks, and what follows. -/
def lineOfTags (k : TagKinds) (fuel : Nat) (cs : List Char) : List Char × List Char :=
  match fuel with
  | 0 => ([], cs)
  | fuel + 1 =>
    match afterFront? tagStart (cs.dropWhile isLineBlank) with
    | none => ([], cs)
    | some inside =>
      let body := inside.takeWhile (! isBrace ·)
      match afterFront? tagEnd (inside.drop body.length) with
      | none => ([], cs)
      | some after =>
        if k.allows body then
          let (text, rest) := lineOfTags k fuel (after.dropWhile isLineBlank)
          (tagStart ++ withoutTilde body ++ tagEnd ++ text, rest)
        else ([], cs)

/-- What follows a line break. -/
def afterBreak? : List Char → Option (List Char)
  | '\r' :: '\n' :: cs => some cs
  | '\n' :: cs => some cs
  | _ => none

/-- Nothing follows but perhaps one line break. -/
def atLastLine (cs : List Char) : Bool := cs = [] || cs = ['\n']

/-- A tilde at the end of a tag, with the blanks after it. -/
def tildeEnd? (cs : List Char) : Option (List Char × List Char) :=
  (afterFront? ('~' :: tagEnd) cs).map fun rest => (tagEnd, rest.dropWhile Text.isBlank)

/-- A tilde at the start of a tag, with the blanks before it. -/
def tildeStart? (cs : List Char) : Option (List Char × List Char) :=
  (afterFront? (tagStart ++ ['~']) (cs.dropWhile Text.isBlank)).map fun rest => (tagStart, rest)

/-- A line of tags with the line break after it. -/
def tagLine? (k : TagKinds) (cs : List Char) : Option (List Char × List Char) :=
  let (text, rest) := lineOfTags k cs.length cs
  if text.isEmpty then none else (afterBreak? rest).map fun rest => (text, rest)

/-- A last line of tags with the line break before it. -/
def lastTagLine? (cs : List Char) : Option (List Char × List Char) :=
  (afterBreak? cs).bind fun line =>
    let (text, rest) := lineOfTags ⟨false, true, false⟩ line.length line
    if text.isEmpty || ! atLastLine rest then none else some (text, rest)

/-- The blanks to be taken away at a place: what stays instead, and what follows.
`before` is the character before the place, if there is one. -/
def tidyAt? (before : Option Char) (cs : List Char) : Option (List Char × List Char) :=
  tildeEnd? cs
    <|> tildeStart? cs
    <|> (if before = some '\n' then tagLine? ⟨true, true, true⟩ cs else none)
    <|> (if before = none then tagLine? ⟨true, false, false⟩ cs else none)
    <|> lastTagLine? cs

/-- The source from a place on, at most `fuel` places.  Each step goes on with fewer
characters. -/
def tidyFrom (fuel : Nat) (before : Option Char) (cs : List Char) : List Char :=
  match fuel, cs with
  | 0, cs => cs
  | _, [] => []
  | fuel + 1, c :: rest =>
    match tidyAt? before (c :: rest) with
    | some (text, after) =>
      let taken := (c :: rest).take ((c :: rest).length - after.length)
      text ++ tidyFrom fuel (taken.getLast?.or before) after
    | none => c :: tidyFrom fuel (some c) rest

/-- The source without the blanks of its layout. -/
def tidy (cs : List Char) : List Char := tidyFrom cs.length none cs

end Storyline.Template
