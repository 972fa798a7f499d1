import Storyline.Json.Reader
import Storyline.Migration
import Storyline.Schema.Checked
import Storyline.Text.Quoted

/-!
# Faults of storage

Why a record could not be read, written or imported.

- `RecordFault`: why a stored text is no save;
- `BundleFault`: why an import was refused;
- `Fault`: every fault that storage reports, with its wording;
- `Escape`: what goes wrong inside storage and is not reported as a fault of it;
- `Failure`: either.
-/

namespace Storyline.Storage

/-- Why a stored text is no save. -/
inductive RecordFault where
  | malformed
  | migration (f : Migration.Fault)
  | invalid (issues : List Schema.Issue)
  deriving DecidableEq, Repr

/-- Why an import was refused. -/
inductive BundleFault where
  | notJson
  | notObject
  | noVersion
  | savesNotList
  | migration (f : Migration.Fault)
  | invalid (issues : List Schema.Issue)
  deriving DecidableEq, Repr

/-- What storage reports. -/
inductive Fault where
  | unreadableSave (cause : RecordFault)
  | unreadableSetting (key : String)
  | unserialisable (key : String)
  | newerBundle (version supported : Int)
  | malformedBundle (cause : BundleFault)
  | cannotRead (path : String)
  | cannotWrite (path : String)
  | cannotDelete (path : String)
  | cannotConnect (address : String)
  | status (code : Nat)
  | timedOut (limit : String)
  | requestFailed (cause message : String)
  | notJson
  | unexpectedFormat
  | outOfOrder (message : String)
  deriving DecidableEq, Repr

/-- What goes wrong inside storage without being reported as a fault of it: a number
with too many digits, octets that are no text, a key that is no text, half of a
surrogate pair that stands alone in a text to be written or in a key, a file name
that is too long, a header beyond ASCII, an address that is none, and a listing
without end. -/
inductive Escape where
  | numberTooLong
  | notText
  | keyNotText
  | halfInText
  | halfInKey
  | nameTooLong
  | headerNotAscii
  | notAddress
  | endlessListing
  deriving DecidableEq, Repr

/-- A fault or an escape. -/
inductive Failure where
  | fault (f : Fault)
  | escape (e : Escape)
  deriving DecidableEq, Repr

/-- The wording of an import's fault. -/
def BundleFault.message : BundleFault → String
  | .notJson => "Import data is not valid JSON"
  | .notObject => "Import data must be a JSON object"
  | .noVersion => "Import data has no valid version"
  | .savesNotList => "Import data 'saves' must be a list"
  | .migration f => "Import data is invalid: " ++ f.message
  | .invalid _ => "Import data is invalid"

/-- The wording of a stored text's fault. -/
def RecordFault.message : RecordFault → String
  | .malformed | .invalid _ => "Stored save is unreadable"
  | .migration f => "Stored save is unreadable: " ++ f.message

/-- The wording of a fault. -/
def Fault.message : Fault → String
  | .unreadableSave cause => cause.message
  | .unreadableSetting key => "Setting " ++ Text.quote key ++ " is unreadable"
  | .unserialisable key => "Setting " ++ Text.quote key ++ " is not JSON-serialisable"
  | .newerBundle version supported =>
    "Import data version " ++ Decimal.renderInt version ++ " is newer than supported "
      ++ Decimal.renderInt supported
  | .malformedBundle cause => cause.message
  | .cannotRead path => "Cannot read " ++ path
  | .cannotWrite path => "Cannot write " ++ path
  | .cannotDelete path => "Cannot delete " ++ path
  | .cannotConnect address => "Cannot connect to storage service at " ++ address
  | .status code => "Storage service returned HTTP " ++ Decimal.renderInt code
  | .timedOut limit => "Storage service timed out after " ++ limit ++ "s"
  | .requestFailed cause message =>
    "Storage service request failed: " ++ cause ++ "(" ++ Text.quote message ++ ")"
  | .notJson => "Storage service returned a non-JSON body"
  | .unexpectedFormat => "Unexpected response format from storage service"
  | .outOfOrder message => message

/-- The issues that a fault is about. -/
def Fault.issues? : Fault → Option (List Schema.Issue)
  | .unreadableSave (.invalid issues) => some issues
  | .malformedBundle (.invalid issues) => some issues
  | _ => none

end Storyline.Storage
