import Storyline.Json.Leaves
import Storyline.Storage.Record

/-!
# Storage over four primitives

A backend keeps texts under a kind and an id and can list the ids of a kind.  All
else is built on that, so that two backends cannot disagree on what it does.

- `Backend`: the primitives over a state;
- `Act`: a computation that may fail, where the state stays as far as it came;
- `Store`: a backend with the version of its bundles;
- `Store.getSave` to `Store.setSetting`: saves and settings, one at a time;
- `Store.clear` to `Store.importBundle`: all at once.
-/

namespace Storyline.Storage

/-- What a record is. -/
inductive Kind where
  | save
  | setting
  deriving DecidableEq, Repr

/-- The name of a kind of record. -/
def Kind.name : Kind → String
  | .save => "save"
  | .setting => "setting"

/-- A computation over the state of a storage. -/
abbrev Act (σ α : Type) := ExceptT Failure (StateM σ) α

/-- The primitives of a storage. -/
structure Backend (σ : Type) where
  read : Kind → String → Act σ (Option String)
  write : Kind → String → String → Act σ Unit
  remove : Kind → String → Act σ Unit
  ids : Kind → Act σ (List String)
  available : Act σ Bool

/-- A storage: its primitives, and the version of the bundles it writes and
accepts. -/
structure Store (σ : Type) where
  backend : Backend σ
  version : Int

variable {σ : Type}

/-- The value of a computation that cannot change the state. -/
def Act.ofExcept {α : Type} : Except Failure α → Act σ α
  | .ok a => pure a
  | .error e => throw e

namespace Store

/-- The save of an id. -/
def getSave (s : Store σ) (saveId : String) : Act σ (Option Save) := do
  match ← s.backend.read .save saveId with
  | none => return none
  | some text => some <$> Act.ofExcept (readSave text)

/-- The saves of ids; what is not there or cannot be read as a save is passed
over. -/
def readSaves (s : Store σ) : List String → Act σ (List Save)
  | [] => return []
  | saveId :: rest => do
    match ← s.backend.read .save saveId with
    | none => s.readSaves rest
    | some text =>
      match readSave text with
      | .ok save => return save :: (← s.readSaves rest)
      | .error (.fault _) => s.readSaves rest
      | .error e => throw e

/-- All saves, the latest change first. -/
def getAllSaves (s : Store σ) : Act σ (List Save) := do
  let ids ← s.backend.ids .save
  return (← s.readSaves ids).mergeSort laterFirst

/-- Keep a save under its id. -/
def saveSave (s : Store σ) (save : Save) : Act σ Unit :=
  s.backend.write .save save.id save.toText

/-- Forget the save of an id. -/
def deleteSave (s : Store σ) (saveId : String) : Act σ Unit := s.backend.remove .save saveId

/-- The value of a setting's text. -/
def readSetting (key text : String) : Except Failure Json :=
  match Json.read text with
  | .ok v => .ok v
  | .error .malformed => .error (.fault (.unreadableSetting key))
  | .error .numberTooLong => .error (.escape .numberTooLong)

/-- The value of a setting. -/
def getSetting (s : Store σ) (key : String) : Act σ (Option Json) := do
  match ← s.backend.read .setting key with
  | none => return none
  | some text => some <$> Act.ofExcept (readSetting key text)

/-- The text of a setting; `none` is a value that has no JSON form, and numbers with too
many digits are not written. -/
def settingText (key : String) : Option Json → Except Failure String
  | none => .error (.fault (.unserialisable key))
  | some v =>
    if v.fits (some Json.maxDigits) then .ok (v.write .spaced) else .error (.escape .numberTooLong)

/-- Give a setting a value. -/
def setSetting (s : Store σ) (key : String) (value : Option Json) : Act σ Unit := do
  s.backend.write .setting key (← Act.ofExcept (settingText key value))

/-- The settings of keys, added to those read before. -/
def readSettings (s : Store σ) : List String → Json.Members → Act σ Json.Members
  | [], settings => return settings
  | key :: rest, settings => do
    match ← s.backend.read .setting key with
    | none => s.readSettings rest settings
    | some text =>
      let v ← Act.ofExcept (readSetting key text)
      s.readSettings rest (settings.insert key v)

/-- All settings. -/
def allSettings (s : Store σ) : Act σ Json.Members := do
  s.readSettings (← s.backend.ids .setting) []

/-- Remove the records of a kind. -/
def clearKind (s : Store σ) (kind : Kind) : Act σ Unit := do
  (← s.backend.ids kind).forM (s.backend.remove kind)

/-- Remove every save and every setting. -/
def clear (s : Store σ) : Act σ Unit := do
  s.clearKind .save
  s.clearKind .setting

/-- The bundle of all saves and settings, as exported at a moment. -/
def bundle (s : Store σ) (now : String) : Act σ Bundle := do
  let saves ← s.getAllSaves
  let settings ← s.allSettings
  return ⟨s.version, now, saves, settings⟩

/-- The text of the bundle of all saves and settings, as long as no half of a surrogate
pair stands alone in them. -/
def exportBundle (s : Store σ) (now : String) : Act σ String := Bundle.toText <$> s.bundle now

/-- Keep a save that was imported. -/
def keepSave (s : Store σ) (odd : Oddities) (save : Save) : Act σ Unit := do
  s.backend.write .save save.id (← Act.ofExcept (odd.write .compact save.toJson))

/-- Keep a setting that was imported.  Its text is made before its key is encoded. -/
def keepSetting (s : Store σ) (odd : Oddities) (setting : String × Json) : Act σ Unit := do
  if odd.tears (.str setting.1) then
    let _ ← Act.ofExcept (settingText setting.1 (odd.valueOf setting))
    throw (.escape .halfInKey)
  else s.setSetting setting.1 (odd.valueOf setting)

/-- Keep every save and setting of a bundle, one after another. -/
def keepBundle (s : Store σ) (odd : Oddities) (b : Bundle) : Act σ Unit := do
  b.saves.forM (s.keepSave odd)
  b.settings.forM (s.keepSetting odd)

/-- Import a bundle.  Nothing is written unless the whole of it can be read, but what was
read may still have no text, and then the import ends half-way. -/
def importBundle (s : Store σ) (data : BundleData) : Act σ Unit := do
  let b ← Act.ofExcept (readBundle s.version data)
  s.keepBundle data.oddities b

/-- Whether the storage can be used. -/
def isAvailable (s : Store σ) : Act σ Bool := s.backend.available

end Store

end Storyline.Storage
