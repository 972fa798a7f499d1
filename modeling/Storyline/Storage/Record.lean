import Storyline.Json.Halves
import Storyline.Storage.Fault
import Storyline.Time.Timestamp

/-!
# Stored records and bundles

What storage keeps is text.  A stored save is brought up to date and read; a bundle
carries all saves and settings from one storage to another.

- `readSave`: the save of a stored text;
- `instant`, `laterFirst`: when a save was last changed, and the order of listings;
- `Bundle`, `BundleData`: a bundle, and the forms in which one is imported;
- `Oddities`: what in import data is beyond JSON values of Unicode texts;
- `readBundle`: a bundle checked as a whole before anything of it is used.
-/

namespace Storyline.Storage

/-- The save of a stored text. -/
def readSave (text : String) : Except Failure Save :=
  match Json.read text with
  | .error .numberTooLong => .error (.escape .numberTooLong)
  | .error .malformed => .error (.fault (.unreadableSave .malformed))
  | .ok v =>
    match Migration.upgrade v with
    | .error f => .error (.fault (.unreadableSave (.migration f)))
    | .ok v =>
      match Save.read v with
      | .bad issues => .error (.fault (.unreadableSave (.invalid issues)))
      | .good s => .ok s

/-- When a save was last changed, in seconds; a text that is no moment counts as the
start of 1970. -/
def instant (s : Save) : Float := Time.seconds s.updatedAt

/-- Doubles in order as integers: the distance from zero in steps of the format, with
the sign. -/
def stepsFromZero (x : Float) : Int :=
  let bits := x.toBits.toNat
  if Nat.pow 2 63 ≤ bits then -((bits - Nat.pow 2 63 : Nat) : Int) else bits

/-- The order of listings: the later change first. -/
def laterFirst (a b : Save) : Bool :=
  decide (stepsFromZero (instant b) ≤ stepsFromZero (instant a))

/-- All saves and settings of a storage. -/
structure Bundle where
  version : Int
  exportedAt : String
  saves : List Save
  settings : Json.Members

namespace Bundle

/-- A bundle in JSON. -/
def toJson (b : Bundle) : Json :=
  .obj [("version", .int b.version), ("exported_at", .str b.exportedAt),
    ("saves", .arr (b.saves.map Save.toJson)), ("settings", .obj b.settings)]

open Schema in
/-- A bundle from its record. -/
def read : Reader Bundle := ofRecord fun ms =>
  Bundle.mk <$> required "version" integer ms
    <*> required "exported_at" string ms
    <*> withDefault "saves" [] (list Save.read) ms
    <*> withDefault "settings" [] anyMap ms

/-- The text of an exported bundle. -/
def toText (b : Bundle) : String := b.toJson.write .indented

end Bundle

/-- What in import data is beyond JSON values of Unicode texts: how wide the stretches
are that stand for halves of surrogate pairs, if there may be any, and the settings that
have other values, each with the value that is written for it, if there is one. -/
structure Oddities where
  width : Option Nat
  foreign : List (String × Option Json)

namespace Oddities

/-- Nothing is odd. -/
def plain : Oddities := ⟨none, []⟩

/-- What may be odd in a text. -/
def ofText (s : String) : Oddities := ⟨some (Json.markWidth s.toList), []⟩

/-- A half stands alone in some string of the value. -/
def tears (o : Oddities) (v : Json) : Bool := o.width.any v.hasHalf

/-- The text of a value in a style, unless a half stands alone in it. -/
def write (o : Oddities) (style : Json.Style) (v : Json) : Except Failure String :=
  if o.tears v then .error (.escape .halfInText) else .ok (v.write style)

/-- The value that is written for a setting, if there is one. -/
def valueOf (o : Oddities) (setting : String × Json) : Option Json :=
  (o.foreign.lookup setting.1).getD setting.2

end Oddities

/-- The forms in which a bundle is imported.  What a caller has made may be odd. -/
inductive BundleData where
  | text (s : String)
  | value (v : Json) (odd : Oddities)
  | bundle (b : Bundle) (odd : Oddities)

namespace BundleData

/-- The JSON value of import data.  A value that is itself a text is read. -/
def toJson : BundleData → Except Failure Json
  | .bundle b _ => .ok b.toJson
  | .text s | .value (.str s) _ =>
    match Json.read s with
    | .ok v => .ok v
    | .error .malformed => .error (.fault (.malformedBundle .notJson))
    | .error .numberTooLong => .error (.escape .numberTooLong)
  | .value v _ => .ok v

/-- What is odd in import data. -/
def oddities : BundleData → Oddities
  | .text s | .value (.str s) _ => .ofText s
  | .value _ odd | .bundle _ odd => odd

end BundleData

/-- A bundle refused. -/
def refuse {α : Type} (cause : BundleFault) : Except Failure α :=
  .error (.fault (.malformedBundle cause))

/-- The saves in the members of a bundle. -/
def savesOf (ms : Json.Members) : Except Failure (List Json) :=
  match ms.get? "saves" with
  | none => .ok []
  | some (.arr xs) => .ok xs
  | some _ => refuse .savesNotList

/-- The bundle in members whose version is supported: every save is brought up to
date before the whole is read. -/
def readContents (ms : Json.Members) : Except Failure Bundle := do
  let saves ← savesOf ms
  let upgraded ← (saves.mapM Migration.upgrade).mapError
    fun f => Failure.fault (.malformedBundle (.migration f))
  match Bundle.read (.obj (ms.insert "saves" (.arr upgraded))) with
  | .good b => return b
  | .bad issues => refuse (.invalid issues)

/-- The bundle in import data, if it is complete and not newer than supported. -/
def readBundle (supported : Int) (data : BundleData) : Except Failure Bundle := do
  match ← data.toJson with
  | .obj ms =>
    match Json.Members.get? "version" ms with
    | some (.int version) =>
      if supported < version then throw (.fault (.newerBundle version supported))
      else readContents ms
    | _ => refuse .noVersion
  | _ => refuse .notObject

end Storyline.Storage
