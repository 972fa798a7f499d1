import Storyline.Config.EnvFile
import Storyline.Schema.Scalars
import Storyline.Storage.Folder
import Storyline.Storage.Service

/-!
# Configuration

What an installation may choose: how often games are saved, where they are kept, and
under which names.  Each choice has a default, a variable that sets it, and an
argument that overrides the variable.

- `Config`: the choices; `Config.read`, `Config.toJson`: from and to JSON;
- `Config.load`: the choices of variables, a file of variables, and arguments;
- `Config.home`: where the saves are kept.

A variable that is set to the empty text counts as not set.
-/

namespace Storyline

/-- The choices of an installation.  The interval between autosaves is in seconds, and
zero turns them off.  With an empty service address saves are kept in the data
folder. -/
structure Config where
  autosaveInterval : Float
  debug : Bool
  namespaceName : String
  dataFolder : Storage.Route
  serviceAddress : String
  session : String
  apiKey : String

namespace Config

open Schema

/-- A double that is at least zero. -/
def nonNegative : Reader Float := fun v =>
  (number v).andThen fun x => if 0.0 ≤ x then .good x else .fail .tooSmall

/-- A path. -/
def route : Reader Storage.Route
  | .str s => .good (Storage.Route.read s)
  | _ => .fail .notPath

/-- The choices of a record. -/
def read : Reader Config := ofRecord fun ms =>
  Config.mk <$> withDefault "autosave_interval" 30.0 nonNegative ms
    <*> withDefault "debug" false switch ms
    <*> withDefault "storage_prefix" "narrative" string ms
    <*> withDefault "data_dir" (Storage.Route.read "data") route ms
    <*> withDefault "storage_url" "" string ms
    <*> withDefault "session_id" "local" string ms
    <*> withDefault "api_key" "" string ms

/-- The choices in JSON. -/
def toJson (c : Config) : Json :=
  .obj [("autosave_interval", .float c.autosaveInterval), ("debug", .bool c.debug),
    ("storage_prefix", .str c.namespaceName), ("data_dir", .str c.dataFolder.written),
    ("storage_url", .str c.serviceAddress), ("session_id", .str c.session),
    ("api_key", .str c.apiKey)]

/-- The choices, with the variables that set them. -/
def variableNames : List (String × String) :=
  [("autosave_interval", "NARRATIVE_AUTOSAVE_INTERVAL"), ("debug", "NARRATIVE_DEBUG"),
   ("storage_prefix", "NARRATIVE_STORAGE_PREFIX"), ("data_dir", "NARRATIVE_DATA_DIR"),
   ("storage_url", "NARRATIVE_STORAGE_URL"), ("session_id", "NARRATIVE_SESSION_ID"),
   ("api_key", "NARRATIVE_API_KEY")]

/-- The choices that variables make. -/
def chosen (env : Table String) : Json.Members :=
  variableNames.filterMap fun v =>
    match env.get? v.2 with
    | none | some "" => none
    | some s => some (v.1, .str s)

/-- The configuration of variables, a file of variables, and arguments. -/
def load (env : Table String) (file : String) (arguments : Json.Members) : Checked Config :=
  read (.obj (arguments ++ chosen (EnvFile.load env file)))

/-- Where saves are kept. -/
inductive Home where
  | folder (f : Storage.Folder)
  | service (c : Storage.Client)

/-- The name of a way to keep saves. -/
def Home.name : Home → String
  | .folder _ => "LocalStorage"
  | .service _ => "RemoteStorage"

/-- The service at an address. -/
def client (c : Config) : Storage.Client :=
  { origin := Storage.Client.trimOrigin c.serviceAddress
    session := c.session
    namespaceName := c.namespaceName
    apiKey := c.apiKey
    timeout := .exact 10.0
    pageSize := 100 }

/-- Where the saves of an installation are kept. -/
def home (c : Config) : Home :=
  if c.serviceAddress = "" then .folder (Storage.Folder.ofBase c.dataFolder c.namespaceName)
  else .service c.client

/-- The variable of a choice is not read where an argument makes the choice. -/
theorem get?_arguments_append {name : String} {arguments chosen : Json.Members} {v : Json}
    (h : arguments.get? name = some v) : (arguments ++ chosen).get? name = some v := by
  induction arguments with
  | nil => simp [Json.Members.get?] at h
  | cons m ms ih =>
    simp only [List.cons_append, Json.Members.get?] at h ⊢
    split <;> simp_all

end Config

end Storyline
