import Storyline.Decimal.Reading
import Storyline.Template.Scanner
import Storyline.Template.Tidy
import Storyline.Template.Tree
import Storyline.Text.Alphanumeric

/-!
# Reading templates

The grammar of templates, one scanner for each of its nouns.  A text that ends in the
middle of a piece loses that piece and is otherwise read; a piece that is wrong makes
the whole text wrong.

- `segment`, `path`: ways to values;
- `argumentList`: what helpers are given;
- `piece`, `pieces`: the pieces, with blocks inside blocks;
- `read?`: the template of a text.

The nesting of blocks and of calls is bounded by the length of the text.
-/

namespace Storyline.Template

open Scanner

/-- A character of a name. -/
def isNameChar (c : Char) : Bool := Text.isAlphanumeric c || c = '_' || c = '-' || c = '@'

/-- A character of the name of a named argument. -/
def isWordChar (c : Char) : Bool := Text.isAlphanumeric c || c = '_'

/-- What separates arguments. -/
def isSeparator (c : Char) : Bool := c = ' ' || c = '\t' || c = '\r' || c = '\n'

/-- Blanks, if there are any. -/
def blanks : Scanner Unit := do let _ ← run Text.isBlank

/-- The inside of the tag that starts the other case of a block. -/
def otherCase : Scanner Unit := do
  blanks
  char '^' <|> word ['e', 'l', 's', 'e']
  blanks
  word tagEnd

/-- A name, which may stand in brackets. -/
def symbol : Scanner (List Char) := do
  refuse otherCase
  let _ ← optional (char '[')
  let name ← someRun isNameChar
  let _ ← optional (char ']')
  return name

/-- A step of a path. -/
def segment : Scanner Segment :=
  (do char '['; let name ← someRun (· != ']'); char ']'; return .name name)
    <|> (do word ['@', '.', '.', '/']; return .parentData)
    <|> (do return .name (← symbol))
    <|> (do char '/'; return .here)
    <|> (do word ['.', '.', '/']; return .parent)
    <|> (do char '.'; return .here)

/-- A way to a value. -/
def path : Scanner Path := do
  refuse (char '/')
  Scanner.some segment

/-- The characters up to a mark; a mark after a backslash is passed over. -/
def quotedRun (mark : Char) : List Char → List Char × List Char
  | [] => ([], [])
  | '\\' :: '"' :: cs => let (a, b) := quotedRun mark cs; ('\\' :: '"' :: a, b)
  | '\\' :: '\'' :: cs => let (a, b) := quotedRun mark cs; ('\\' :: '\'' :: a, b)
  | c :: cs =>
    if c = mark then ([], c :: cs) else let (a, b) := quotedRun mark cs; (c :: a, b)

/-- A text between marks. -/
def quotation (mark : Char) : Scanner Argument := do
  char mark
  let written ← (fun cs => let (a, b) := quotedRun mark cs; ⟨b.isEmpty, .some (a, b)⟩)
  char mark
  return .text mark written

/-- A whole number. -/
def wholeNumber : Scanner Argument := do
  let sign ← optional (char '-')
  let digits ← someRun Decimal.isDigit
  let n : Int := Decimal.natOfDigits digits
  return .int (if sign.isSome then -n else n)

/-- A value that is written out. -/
def literal : Scanner Argument :=
  quotation '"' <|> quotation '\'' <|> wholeNumber
    <|> (do word "false".toList; return .bool false)
    <|> (do word "true".toList; return .bool true)
    <|> (do word "null".toList; return .null)
    <|> (do word "undefined".toList; return .null)

/-- A value, a way to one, or a call. -/
def operand (call : Scanner Argument) : Scanner Argument :=
  literal <|> (do return .path (← path)) <|> call

/-- An argument with a name. -/
def namedArgument (call : Scanner Argument) : Scanner Argument := do
  refuse otherCase
  let _ ← optional (char '[')
  let name ← someRun isWordChar
  let _ ← optional (char ']')
  char '='
  if name.length < 2 || (name.headD '0').isDigit then fail
  else return .named (String.ofList name) (← operand call)

/-- Arguments, each after a separator. -/
def argumentList (call : Scanner Argument) : Scanner (List Argument) :=
  many do
    let _ ← someRun isSeparator
    namedArgument call <|> operand call

/-- The call of a helper inside brackets, at most `fuel` calls deep. -/
def call : Nat → Scanner Argument
  | 0 => fail
  | fuel + 1 => do
    char '('
    blanks
    let p ← path
    let arguments ← argumentList (call fuel)
    blanks
    char ')'
    return .call p arguments

/-- The inside of a tag that shows a value, with the tag's end. -/
def valueInside (fuel : Nat) : Scanner (Path × List Argument) := do
  blanks
  let p ← path
  let arguments ← argumentList (call fuel)
  blanks
  word tagEnd
  return (p, arguments)

/-- The inside of a tag that opens a block, with the tag's end. -/
def blockInside (fuel : Nat) : Scanner (List Char × List Argument) := do
  blanks
  let name ← symbol
  let arguments ← argumentList (call fuel)
  blanks
  word tagEnd
  return (name, arguments)

/-- The tag that closes a block. -/
def closingTag (name : List Char) : Scanner Unit := do
  word tagStart
  char '/'
  let found ← symbol
  if found = name then word tagEnd else fail

/-- Plain text up to the next tag. -/
def plainText : List Char → List Char × List Char
  | [] => ([], [])
  | c :: cs =>
    if tagStart.isPrefixOf (c :: cs) then ([], c :: cs)
    else let (a, b) := plainText cs; (c :: a, b)

/-- A piece of plain text. -/
def textPiece : Scanner Piece := fun cs =>
  match plainText cs with
  | ([], _) => ⟨false, none⟩
  | (text, rest) => ⟨rest.isEmpty, .some (.text (String.ofList text), rest)⟩

/-- The characters before the first place where `p` reads something. -/
def upTo {α : Type} (p : Scanner α) : List Char → Attempt (List Char)
  | [] => ⟨true, .some ([], [])⟩
  | c :: cs =>
    let here := p (c :: cs)
    if here.found.isSome then ⟨here.metEnd, .some ([], c :: cs)⟩
    else
      let later := upTo p cs
      ⟨here.metEnd || later.metEnd, later.found.map fun (a, rest) => (c :: a, rest)⟩

/-- A comment. -/
def commentPiece : Scanner Piece := do
  word tagStart
  char '!'
  let _ ← upTo (word tagEnd)
  word tagEnd
  return .comment

/-- A value that is shown with its special characters escaped. -/
def escapedValue (fuel : Nat) : Scanner Piece := do
  word tagStart
  let (p, arguments) ← valueInside fuel
  return .value true p arguments

/-- A value that is shown as it is. -/
def plainValue (fuel : Nat) : Scanner Piece :=
  (do
    word tagStart
    char leftBrace
    let (p, arguments) ← valueInside fuel
    char rightBrace
    return .value false p arguments)
    <|> (do
      word tagStart
      char '&'
      let (p, arguments) ← valueInside fuel
      return .value false p arguments)

/-- The inclusion of another template. -/
def inclusionPiece (fuel : Nat) : Scanner Piece := do
  word tagStart
  char '>'
  blanks
  let _ ← Scanner.some segment
  let _ ← argumentList (call fuel)
  blanks
  word tagEnd
  return .inclusion

/-- The end of a block whose body is not read. -/
def rawEnd (name : List Char) : Scanner Unit := do
  word tagStart
  closingTag name
  word tagEnd

/-- A block whose body is not read. -/
def rawPiece (fuel : Nat) : Scanner Piece := do
  word tagStart
  word tagStart
  let (name, _) ← blockInside fuel
  word tagEnd
  let body ← upTo (rawEnd name)
  rawEnd name
  return .text (String.ofList body)

/-- The other case of a block; without one it is empty. -/
def otherPieces (body : Scanner (List Piece)) : Scanner (List Piece) := do
  let other ← optional do
    word tagStart
    otherCase
    body
  return other.getD []

/-- A block that starts with a mark. -/
def blockPiece (fuel : Nat) (body : Scanner (List Piece)) (inverted : Bool) (mark : Char) :
    Scanner Piece := do
  word tagStart
  char mark
  let (name, arguments) ← blockInside fuel
  let pieces ← body
  let other ← otherPieces body
  closingTag name
  return .block inverted (String.ofList name) arguments pieces other

/-- A piece, for a given reading of the bodies of blocks. -/
def piece (fuel : Nat) (body : Scanner (List Piece)) : Scanner Piece :=
  textPiece
    <|> blockPiece fuel body false '#'
    <|> blockPiece fuel body true '^'
    <|> commentPiece
    <|> escapedValue fuel
    <|> plainValue fuel
    <|> inclusionPiece fuel
    <|> rawPiece fuel

/-- Pieces with blocks at most `fuel` deep. -/
def pieces : Nat → Scanner (List Piece)
  | 0 => fail
  | fuel + 1 => many (piece fuel (pieces fuel))

/-- The template of a text.  What is left over after the last piece has to be cut
off by the end of the text. -/
def read? (text : String) : Option (List Piece) :=
  let cs := tidy text.toList
  let attempt := pieces (cs.length + 1) cs
  match attempt.found with
  | .some (ps, _) => if attempt.metEnd && piecesAreSound ps then .some ps else none
  | none => none

end Storyline.Template
