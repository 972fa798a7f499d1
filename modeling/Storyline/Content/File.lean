import Storyline.Content.Index
import Storyline.Json.Reader
import Storyline.Text.Utf8

/-!
# Pack files

A pack is kept in a file of JSON.  Loading it may fail in several ways, and the
stages come one after another: octets, text, value, record, index.

- `Source`: what is found at a path;
- `LoadFault`: why no index could be made;
- `Index.ofJson`, `Index.load`: the index of a value and of a file.
-/

namespace Storyline.Content

/-- What is found at the path of a pack: the octets of a file, or nothing that can
be read. -/
inductive Source where
  | missing
  | octets (bs : List Nat)

/-- Why no index could be made.  Octets that are no text and a number with too many
digits are faults of the file that are not reported as faults of content. -/
inductive LoadFault where
  | unreadable (path : String)
  | invalid (issues : List Schema.Issue)
  | duplicate (d : Duplicate)
  | notText
  | numberTooLong
  deriving DecidableEq, Repr

/-- The wording of the faults that are reported as faults of content. -/
def LoadFault.message? : LoadFault → Option String
  | .unreadable path => some ("Cannot read content pack " ++ path)
  | .invalid _ => some "Invalid content pack"
  | .duplicate d => some d.message
  | .notText | .numberTooLong => none

namespace Index

/-- The index of a pack given as a value. -/
def ofJson (v : Json) : Except LoadFault Index :=
  match Pack.read v with
  | .bad issues => .error (.invalid issues)
  | .good p => (ofPack p).mapError .duplicate

/-- The value in a file at a path. -/
def readSource (path : String) : Source → Except LoadFault Json
  | .missing => .error (.unreadable path)
  | .octets bs =>
    match Text.Utf8.decodeStrict? bs with
    | none => .error .notText
    | some cs =>
      match Json.readChars (some Json.maxDigits) cs with
      | .ok v => .ok v
      | .error .malformed => .error (.unreadable path)
      | .error .numberTooLong => .error .numberTooLong

/-- The index of the pack in a file at a path. -/
def load (path : String) (source : Source) : Except LoadFault Index :=
  readSource path source >>= ofJson

end Index

end Storyline.Content
