import Storyline.Decimal.Layout
import Storyline.Decimal.Shortest
import Storyline.Json.Reader
import Storyline.Schema.Scalars
import Storyline.Table

/-!
# Flags

A flag is a truth value, a whole number, a double or a text, and never changes
kind on its way through a save: the four kinds are told apart by how they were
written.

- `FlagValue`: the values;
- `FlagValue.isTrue`: how a flag counts as a condition;
- `FlagValue.spelling`: how authors write it in a comparison, and `FlagValue.Fault`, why it
  cannot be written;
- `Flags`: the flags of a save, in the order of their first setting.
-/

namespace Storyline

/-- The value of a flag. -/
inductive FlagValue where
  | bool (b : Bool)
  | int (n : Int)
  | float (x : Float)
  | str (s : String)
  deriving DecidableEq

/-- Flags by name, in the order of their first setting. -/
abbrev Flags := Table FlagValue

namespace FlagValue

instance : Inhabited FlagValue := ⟨.bool false⟩

/-- Nonzero, nonempty, or true. -/
def isTrue : FlagValue → Bool
  | .bool b => b
  | .int n => n != 0
  | .float x => x != 0.0
  | .str s => s != ""

/-- Why a value has no spelling: whole numbers are written with at most
`Json.maxDigits` digits, as they are read. -/
inductive Fault where
  | numberTooLong
  deriving DecidableEq, Repr

/-- The value as authors write it: truth values in small letters, doubles without
a fraction as whole numbers. -/
def spelling : FlagValue → Except Fault String
  | .bool b => .ok (if b then "true" else "false")
  | .int n =>
    if Json.maxDigits < Decimal.digitCount n.natAbs then .error .numberTooLong
    else .ok (Decimal.renderInt n)
  | .float x =>
    if Decimal.isIntegral x then
      match Decimal.toInt? x with
      | some n => .ok (Decimal.renderInt n)
      | none => .ok (Decimal.Layout.plain.render x)
    else .ok (Decimal.Layout.plain.render x)
  | .str s => .ok s

/-- The value in JSON, its kind kept. -/
def toJson : FlagValue → Json
  | .bool b => .bool b
  | .int n => .int n
  | .float x => .float x
  | .str s => .str s

/-- The flag value of a JSON value of one of the four kinds. -/
def ofJson? : Json → Option FlagValue
  | .bool b => some (.bool b)
  | .int n => some (.int n)
  | .float x => some (.float x)
  | .str s => some (.str s)
  | _ => none

/-- The issues of a value of none of the four kinds, one for each kind. -/
def kindIssues : List Schema.Issue :=
  [⟨.notBool, [.member "bool"]⟩, ⟨.notInteger, [.member "int"]⟩,
   ⟨.notNumber, [.member "float"]⟩, ⟨.notText, [.member "str"]⟩]

/-- A flag value, of whichever kind it is written. -/
def read : Schema.Reader FlagValue := fun v =>
  match ofJson? v with
  | some f => .good f
  | none => .bad kindIssues

@[simp] theorem read_toJson (f : FlagValue) : read f.toJson = .good f := by
  cases f <;> rfl

end FlagValue

namespace Flags

/-- The flags in JSON. -/
def toJson (f : Flags) : Json := .obj (f.entries.map fun e => (e.1, e.2.toJson))

/-- Members read as flags. -/
def readEntries : List (String × Json) → Schema.Checked (List (String × FlagValue))
  | [] => .good []
  | (k, v) :: ms =>
    (fun f fs => (k, f) :: fs) <$> (FlagValue.read v).inMember k <*> readEntries ms

/-- An object whose members are flags. -/
def read : Schema.Reader Flags
  | .obj ms => Table.ofList <$> readEntries ms
  | _ => .fail .notMap

end Flags

/-- The spelling of a flag that may be missing. -/
def spellingOf (value : Option FlagValue) : Except FlagValue.Fault String :=
  value.elim (.ok "undefined") FlagValue.spelling

end Storyline
