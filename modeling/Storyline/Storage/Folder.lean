import Storyline.Storage.Backend
import Storyline.Storage.Route
import Storyline.Text.Percent

/-!
# Storage in a folder

Records as files: one folder for saves and one for settings, below a folder for the
prefix.  The name of a file is the percent-encoded id with a suffix, so that no id
leaves its folder.  A record is written beside its place and then moved there.

- `Folder`: where the records lie;
- `Folder.fileName`, `Folder.idOfFile`: names from ids and back;
- `Folder.backend`: the primitives on a disk.
-/

namespace Storyline.Storage

/-- The place of a storage on a disk. -/
structure Folder where
  root : Route

namespace Folder

/-- The folder for a prefix below a base. -/
def ofBase (base : Route) (namespaceName : String) : Folder :=
  ⟨base.join (Route.read namespaceName)⟩

/-- The name of the folder of a kind of record. -/
def kindName : Kind → String
  | .save => "saves"
  | .setting => "settings"

/-- The folder of a kind of record. -/
def dir (f : Folder) (kind : Kind) : Route := f.root.below [kindName kind]

/-- The percent-encoded form of an id. -/
def stem (id : String) : String := String.ofList (Text.Percent.encode (fun _ => false) id.toList)

/-- The name of the file of an id. -/
def fileName (id : String) : String := stem id ++ ".json"

/-- The suffix of a name: from its last point on, unless that is the first or the
last character. -/
def suffix (name : List Char) : List Char :=
  let afterPoint := name.reverse.takeWhile (· != '.')
  if afterPoint.isEmpty || name.length ≤ afterPoint.length + 1 then []
  else '.' :: afterPoint.reverse

/-- A name without its suffix. -/
def withoutSuffix (name : List Char) : List Char :=
  name.take (name.length - (suffix name).length)

/-- The name under which a record is written before it is moved to its place. -/
def draftName (name : String) : String :=
  String.ofList (withoutSuffix name.toList) ++ ".tmp"

/-- The id of the record in a file. -/
def idOfFile (name : String) : String :=
  String.ofList (Text.Percent.decode (withoutSuffix name.toList))

/-- The path of the file of an id. -/
def path (f : Folder) (kind : Kind) (id : String) : Route := (f.dir kind).below [fileName id]

/-- The order of listings. -/
def idOrder (a b : String) : Bool := decide (a ≤ b)

/-- The text of a record. -/
def read (f : Folder) (kind : Kind) (id : String) : Act Disk (Option String) := do
  match (← get).lookup (f.path kind id).names with
  | .error .nameTooLong => throw (.escape .nameTooLong)
  | .error _ | .ok .directory => return none
  | .ok e =>
    match Disk.Entry.text? e with
    | some s => return some s
    | none => throw (.escape .notText)

/-- Carry out a step on the disk; a step that fails is reported as a fault. -/
def step (fault : Fault) (act : Disk → Except Disk.Fault Disk) : Act Disk Unit := do
  match act (← get) with
  | .ok d => set d
  | .error _ => throw (.fault fault)

/-- Write a record: beside its place first, then moved there. -/
def write (f : Folder) (kind : Kind) (id text : String) : Act Disk Unit := do
  let fault := Fault.cannotWrite (f.path kind id).written
  let draft := ((f.dir kind).below [draftName (fileName id)]).names
  step fault (·.makeDirs (f.dir kind).names)
  step fault (·.writeText draft text)
  step fault (·.rename draft (f.path kind id).names)

/-- Remove a record, if it is there. -/
def remove (f : Folder) (kind : Kind) (id : String) : Act Disk Unit := do
  match (← get).unlink (f.path kind id).names with
  | .ok d => set d
  | .error .notFound => return
  | .error _ => throw (.fault (.cannotDelete (f.path kind id).written))

/-- The ids of the files with the suffix of records, in order. -/
def ids (f : Folder) (kind : Kind) : Act Disk (List String) := do
  let d ← get
  match d.lookup (f.dir kind).names with
  | .ok .directory =>
    let names := (d.names (f.dir kind).names).filter fun n => ".json".toList.isSuffixOf n.toList
    return (names.map idOfFile).mergeSort idOrder
  | _ => return []

/-- The folder can be made and written to. -/
def available (f : Folder) : Act Disk Bool := do
  match (← get).makeDirs f.root.names with
  | .error _ => return false
  | .ok d =>
    set d
    match d.writeText (f.root.below [".write-check"]).names "ok" with
    | .error _ => return false
    | .ok marked =>
      set (marked.erase (f.root.below [".write-check"]).names)
      return true

/-- The primitives of a storage in a folder. -/
def backend (f : Folder) : Backend Disk where
  read := f.read
  write := f.write
  remove := f.remove
  ids := f.ids
  available := f.available

end Folder

end Storyline.Storage
