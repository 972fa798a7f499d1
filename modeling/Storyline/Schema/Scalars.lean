import Storyline.Decimal.Reading
import Storyline.Schema.Checked
import Storyline.Text.Blank
import Storyline.Text.Casing

/-!
# Texts, numbers and switches

The readers of single values.  They are lenient where a value of another kind has
one plain meaning: a number may be written as a text, a switch as one of a dozen
words or as zero or one, and a whole number as a double without a fraction.

- `string`, `oneOf`: texts, and texts from a list;
- `integer`, `integerAtLeast`: whole numbers;
- `number`: doubles;
- `switch`: truth values.
-/

namespace Storyline.Schema

/-- A text. -/
def string : Reader String
  | .str s => .good s
  | _ => .fail .notText

/-- A text that names one of the values of a kind. -/
def oneOf {α : Type} (ofName? : String → Option α) : Reader α
  | .str s =>
    match ofName? s with
    | some a => .good a
    | none => .fail .notListed
  | _ => .fail .notListed

/-- Digits in groups: single low lines may stand between digits.  The result holds
the digits alone. -/
def groupedDigits? : List Char → Option (List Char)
  | [] => none
  | [c] => if Decimal.isDigit c then some [c] else none
  | c :: '_' :: cs =>
    if Decimal.isDigit c then (groupedDigits? cs).map (c :: ·) else none
  | c :: cs => if Decimal.isDigit c then (groupedDigits? cs).map (c :: ·) else none

/-- A sign at the start, and the rest. -/
def splitSign : List Char → Bool × List Char
  | '-' :: cs => (true, cs)
  | '+' :: cs => (false, cs)
  | cs => (false, cs)

/-- The text without a point and zeros at its end. -/
def dropZeroFraction (cs : List Char) : List Char :=
  match cs.span (· != '.') with
  | (whole, '.' :: zeros) => if zeros.all (· == '0') then whole else cs
  | _ => cs

/-- The whole number that a text stands for: blanks around it, a sign, grouped
digits, and a fraction of zeros. -/
def integerOfText? (s : String) : Option Int :=
  let (negative, body) := splitSign (Text.trim Text.isSpace s.toList)
  (groupedDigits? (dropZeroFraction body)).map fun ds =>
    if negative then -(Decimal.natOfDigits ds : Int) else Decimal.natOfDigits ds

/-- The bound below which a double counts as a whole number. -/
def doubleIntegerBound : Nat := Nat.pow 2 63

/-- The whole number a double stands for. -/
def integerOfDouble (x : Float) : Checked Int :=
  match Decimal.toInt? x with
  | none => .fail .notFinite
  | some n =>
    if ! Decimal.isIntegral x then .fail .fraction
    else if n.natAbs < doubleIntegerBound then .good n
    else .fail .integerSize

/-- The bound below which a text counts as a whole number: at most 4300 digits. -/
def textIntegerBound : Nat := Nat.pow 10 4300

/-- The whole number a text stands for. -/
def integerOfText (s : String) : Checked Int :=
  match integerOfText? s with
  | none => .fail .integerText
  | some n => if n.natAbs < textIntegerBound then .good n else .fail .integerSize

/-- A whole number. -/
def integer : Reader Int
  | .int n => .good n
  | .bool b => .good (if b then 1 else 0)
  | .float x => integerOfDouble x
  | .str s => integerOfText s
  | _ => .fail .notInteger

/-- A whole number that is at least `low`. -/
def integerAtLeast (low : Int) : Reader Int := fun v =>
  (integer v).andThen fun n => if low ≤ n then .good n else .fail .tooSmall

/-- A whole number between two bounds. -/
def integerBetween (low high : Int) : Reader Int := fun v =>
  (integer v).andThen fun n =>
    if n < low then .fail .tooSmall else if high < n then .fail .tooLarge else .good n

/-- The words for off. -/
def offWords : List String := ["0", "off", "f", "false", "n", "no"]

/-- The words for on. -/
def onWords : List String := ["1", "on", "t", "true", "y", "yes"]

/-- A truth value from a word, in any mix of ASCII capitals. -/
def switchOfText? (s : String) : Option Bool :=
  let word := s.map Char.toLower
  if offWords.contains word then some false
  else if onWords.contains word then some true
  else none

/-- A truth value from zero or one. -/
def switchOfInt? : Int → Option Bool
  | 0 => some false
  | 1 => some true
  | _ => none

/-- A truth value. -/
def switch : Reader Bool
  | .bool b => .good b
  | .int n =>
    match switchOfInt? n with
    | some b => .good b
    | none => if n.natAbs < doubleIntegerBound then .fail .boolText else .fail .notBool
  | .float x =>
    match integerOfDouble x with
    | .good n =>
      match switchOfInt? n with
      | some b => .good b
      | none => .fail .boolText
    | .bad _ => .fail .notBool
  | .str s =>
    match switchOfText? s with
    | some b => .good b
    | none => .fail .boolText
  | _ => .fail .notBool

/-- Whole digits and digits after a point, with at least one digit in all. -/
def splitPoint? (cs : List Char) : Option (List Char × List Char × List Char) :=
  let (whole, rest) := Decimal.splitDigits cs
  let (fraction, rest) :=
    match rest with
    | '.' :: r => Decimal.splitDigits r
    | r => ([], r)
  if whole.isEmpty && fraction.isEmpty then none else some (whole, fraction, rest)

/-- The double that characters stand for: a sign, and either a name of a value that
is no number or digits with an optional point and exponent. -/
def numberOfChars? (cs : List Char) : Option Float :=
  let (negative, body) := splitSign cs
  let word := String.ofList (body.map Char.toLower)
  if word = "inf" || word = "infinity" then
    some (if negative then -(1.0 / 0.0) else 1.0 / 0.0)
  else if word = "nan" then some (0.0 / 0.0)
  else
    match splitPoint? body with
    | none => none
    | some (whole, fraction, []) => some (Decimal.floatOfParts negative whole fraction 0)
    | some (whole, fraction, rest) =>
      match Decimal.readExponent rest with
      | some (exponent, []) => some (Decimal.floatOfParts negative whole fraction exponent)
      | _ => none

/-- The text without its low lines, unless one stands at an end or beside
another. -/
def ungroup? (cs : List Char) : Option (List Char) :=
  let doubled := (cs.zip cs.tail).any fun p => p.1 = '_' && p.2 = '_'
  if cs.head? = some '_' || cs.getLast? = some '_' || doubled || ! cs.contains '_' then none
  else some (cs.filter (· != '_'))

/-- The double that a text stands for. -/
def numberOfText? (s : String) : Option Float :=
  match numberOfChars? (Text.trim Text.isSpace s.toList) with
  | some x => some x
  | none => (ungroup? s.toList).bind numberOfChars?

/-- A double. -/
def number : Reader Float
  | .float x => .good x
  | .int n =>
    let x := Decimal.ofInt n
    if Decimal.isFinite x then .good x else .fail .notNumber
  | .bool b => .good (if b then 1.0 else 0.0)
  | .str s =>
    match numberOfText? s with
    | some x => .good x
    | none => .fail .numberText
  | _ => .fail .notNumber

/-- The members of an object, whatever their values. -/
def anyMap : Reader Json.Members
  | .obj ms => .good ms
  | _ => .fail .notMap

/-- A text reads as the number that it stands for, if that is below the bound. -/
theorem integerOfText_eq_good {s : String} {n : Int} :
    integerOfText s = .good n ↔ integerOfText? s = some n ∧ n.natAbs < textIntegerBound := by
  unfold integerOfText
  cases integerOfText? s with
  | none => simp [Checked.fail]
  | some m =>
    rw [Option.some.injEq]
    dsimp only
    split
    · rw [Checked.good.injEq]
      exact ⟨fun e => ⟨e, e ▸ ‹_›⟩, And.left⟩
    · exact ⟨nofun, fun e => absurd (e.1 ▸ e.2) ‹_›⟩

@[simp] theorem string_str (s : String) : string (.str s) = .good s := rfl

@[simp] theorem integer_int (n : Int) : integer (.int n) = .good n := rfl

@[simp] theorem switch_bool (b : Bool) : switch (.bool b) = .good b := rfl

@[simp] theorem number_float (x : Float) : number (.float x) = .good x := rfl

end Storyline.Schema
