import Storyline.Text.Utf8

/-!
# A disk

Files and directories by path, as far as storage uses them.  A path is a list of
names.  A file holds a text, or octets that are no text.

- `Disk`: the entries of a disk;
- `Disk.readText?`, `Disk.writeText`, `Disk.makeDirs`, `Disk.rename`, `Disk.unlink`:
  the operations, with the ways in which they fail;
- `Disk.names`: the names in a directory.
-/

namespace Storyline.Storage

/-- A path, from the root of the disk. -/
abbrev Path := List String

/-- What is found at a path. -/
inductive Entry where
  | directory
  | text (s : String)
  | octets (bs : List Nat)
  deriving DecidableEq, Repr

/-- Files and directories. -/
structure Disk where
  entries : List (Path × Entry)

namespace Disk

/-- Why an operation on a disk fails. -/
inductive Fault where
  | notFound
  | notDirectory
  | isDirectory
  | exists
  | nameTooLong
  deriving DecidableEq, Repr

/-- The disk that holds nothing but its root. -/
def empty : Disk := ⟨[]⟩

/-- The entry at a path; the root is a directory. -/
def get? (d : Disk) (p : Path) : Option Entry :=
  if p = [] then some .directory else (d.entries.find? (·.1 = p)).map (·.2)

/-- Take the entry at a path away. -/
def erase (d : Disk) (p : Path) : Disk := ⟨d.entries.filter (·.1 != p)⟩

/-- Put an entry at a path. -/
def put (d : Disk) (p : Path) (e : Entry) : Disk := ⟨(d.erase p).entries ++ [(p, e)]⟩

/-- The number of octets that a name may have. -/
def maxName : Nat := 255

/-- A name is longer than a directory can hold. -/
def tooLong (p : Path) : Bool := p.any fun name => decide (maxName < name.utf8ByteSize)

/-- The paths above a path, from the root down. -/
def above (p : Path) : List Path := (List.range p.length).map p.take

/-- The entry at a path, which leads through directories up to its last name. -/
def lookup (d : Disk) (p : Path) : Except Fault Entry :=
  match ((above p).map d.get?).find? (· != some .directory) with
  | some none => .error .notFound
  | some _ => .error .notDirectory
  | none =>
    if tooLong p then .error .nameTooLong
    else
      match d.get? p with
      | some e => .ok e
      | none => .error .notFound

/-- Make a directory and those above it; a directory that is there is kept. -/
def makeDirs (d : Disk) (p : Path) : Except Fault Disk :=
  ((above p).drop 1 ++ [p]).foldlM (fun d q =>
    match d.get? q with
    | some .directory => .ok d
    | some _ => .error .exists
    | none => if tooLong q then .error .nameTooLong else .ok (d.put q .directory)) d

/-- Write a file. -/
def writeEntry (d : Disk) (p : Path) (e : Entry) : Except Fault Disk :=
  match d.lookup p with
  | .ok .directory => .error .isDirectory
  | .ok _ => .ok (d.put p e)
  | .error .notFound =>
    if d.get? p.dropLast = some .directory then .ok (d.put p e) else .error .notFound
  | .error f => .error f

/-- Write a text file. -/
def writeText (d : Disk) (p : Path) (s : String) : Except Fault Disk := d.writeEntry p (.text s)

/-- Give a file another path, in place of the file that is there. -/
def rename (d : Disk) (source target : Path) : Except Fault Disk :=
  match d.lookup source with
  | .error f => .error f
  | .ok e => ((d.erase source).writeEntry target e)

/-- Remove a file. -/
def unlink (d : Disk) (p : Path) : Except Fault Disk :=
  match d.lookup p with
  | .ok .directory => .error .isDirectory
  | .ok _ => .ok (d.erase p)
  | .error f => .error f

/-- The names in a directory. -/
def names (d : Disk) (p : Path) : List String :=
  d.entries.filterMap fun e =>
    if e.1.dropLast = p && e.1 != [] then e.1.getLast? else none

/-- Put a file on the disk together with the directories it lies in. -/
def install (d : Disk) (p : Path) (e : Entry) : Disk :=
  (((above p).drop 1).foldl (fun d q => if (d.get? q).isNone then d.put q .directory else d)
    d).put p e

/-- The text of a file, if it holds one. -/
def Entry.text? : Entry → Option String
  | .text s => some s
  | .octets bs => (Text.Utf8.decodeStrict? bs).map String.ofList
  | .directory => none

end Disk

end Storyline.Storage
