import Storyline.Decimal.Layout
import Storyline.Json.Value
import Storyline.Save
import Storyline.Text.Casing

/-!
# Older layouts of a save

A stored save carries the version of its layout.  Version 1 spells its members in
camel case and knows two members more; version 2 is the present one.

- `Migration.Fault`: why a save cannot be brought up to date;
- `Migration.snakeCase`, `Migration.snakeMembers`: the new spelling of a name, and of
  all names inside a value;
- `Migration.upgradeFirst`: the step from version 1 to version 2;
- `Migration.upgrade`: a save brought to a version.

The names of flags are the authors' own and are never respelt.
-/

namespace Storyline.Migration

/-- Why a save cannot be brought up to date. -/
inductive Fault where
  | notObject
  | flagsNotObject
  | badVersion
  | newer (version target : Int)
  | noStep (version : Int)
  deriving DecidableEq, Repr

/-- The wording of a fault. -/
def Fault.message : Fault → String
  | .notObject => "Save payload was not an object."
  | .flagsNotObject => "Save flags must be an object."
  | .badVersion => "Save version missing or invalid."
  | .newer version target =>
    "Save schema " ++ Decimal.renderInt version ++ " is newer than supported "
      ++ Decimal.renderInt target ++ "."
  | .noStep version =>
    "No migration available for save schema " ++ Decimal.renderInt version ++ "."

/-- A small letter or digit of ASCII: what a capital has to follow to start a word. -/
def endsWord (c : Char) : Bool := c.isLower || c.isDigit

/-- The characters with a low line before each ASCII capital that follows a small
letter or digit.  `before` is the character before the first one. -/
def markWords (before : Option Char) : List Char → List Char
  | [] => []
  | c :: cs =>
    if c.isUpper && before.any endsWord then '_' :: c :: markWords (some c) cs
    else c :: markWords (some c) cs

/-- The new spelling of a name: words divided by low lines, in small letters. -/
def snakeCase (name : String) : String :=
  Text.lower (String.ofList (markWords none name.toList))

mutual

/-- A value with every name inside it respelt.  Of two names that become one the
later value is kept. -/
def snakeNames : Json → Json
  | .arr xs => .arr (snakeItems xs)
  | .obj ms => .obj (Json.Members.ofList (snakeMembers ms))
  | v => v

/-- The items with every name inside them respelt. -/
def snakeItems : List Json → List Json
  | [] => []
  | x :: xs => snakeNames x :: snakeItems xs

/-- The members with their names and every name inside them respelt. -/
def snakeMembers : List (String × Json) → List (String × Json)
  | [] => []
  | (k, v) :: ms => (snakeCase k, snakeNames v) :: snakeMembers ms

end

/-- The members of version 1 that version 2 has no place for. -/
def droppedNames : List String := ["selectedDestination", "selectedFlight"]

/-- The flags of a save of version 1: an object, or nothing. -/
def flagsOf (ms : Json.Members) : Except Fault Json.Members :=
  match ms.get? "flags" with
  | none | some .null => .ok []
  | some (.obj flags) => .ok flags
  | some _ => .error .flagsNotObject

/-- The step from version 1 to version 2. -/
def upgradeFirst (ms : Json.Members) : Except Fault Json.Members :=
  (flagsOf ms).map fun flags =>
    let body := ms.filter fun m => ! droppedNames.contains m.1 && m.1 != "flags"
    let renamed := Json.Members.ofList (snakeMembers body)
    (renamed.insert "flags" (.obj flags)).insert "version" (.int 2)

/-- The version that members declare; a missing one or null means version 1. -/
def versionOf (ms : Json.Members) : Except Fault Int :=
  match ms.get? "version" with
  | none | some .null => .ok 1
  | some (.int n) => .ok n
  | some _ => .error .badVersion

/-- The members of a save brought from a version to another.  The only step leads
from version 1 to version 2. -/
def upgradeMembers (version target : Int) (ms : Json.Members) : Except Fault Json.Members :=
  if target < version then .error (.newer version target)
  else if version = target then .ok ms
  else if version = 1 then
    if target = 2 then upgradeFirst ms else (upgradeFirst ms).bind fun _ => .error (.noStep 2)
  else .error (.noStep version)

/-- A save brought to a version. -/
def upgradeTo (target : Int) : Json → Except Fault Json
  | .obj ms =>
    (versionOf ms).bind fun version => (upgradeMembers version target ms).map .obj
  | _ => .error .notObject

/-- A save brought to the present version. -/
def upgrade : Json → Except Fault Json := upgradeTo Save.currentVersion

/-- Members are brought to a version by nothing at all where they are of it, or by the one step
that there is. -/
theorem upgradeMembers_eq_ok {version target : Int} {ms ns : Json.Members}
    (h : upgradeMembers version target ms = .ok ns) :
    version = target ∧ ns = ms ∨ version = 1 ∧ target = 2 ∧ upgradeFirst ms = .ok ns := by
  unfold upgradeMembers at h
  split at h
  · cases h
  · split at h
    · rename_i heq
      exact .inl ⟨heq, (Except.ok.inj h).symm⟩
    · split at h
      · rename_i hfirst
        split at h
        · rename_i hsecond
          exact .inr ⟨hfirst, hsecond, h⟩
        · cases hstep : upgradeFirst ms <;> rw [hstep] at h <;> cases h
      · cases h

end Storyline.Migration
