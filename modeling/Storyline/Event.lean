import Storyline.Schema.Scalars

/-!
# Events

What observers of a game are told.  An event has a kind, a payload and a moment,
in milliseconds.

- `EventKind`: the fifteen kinds;
- `Event`: the record, with `read` and `toJson`.
-/

namespace Storyline

/-- What an event reports. -/
inductive EventKind where
  | phaseChanged
  | sceneChanged
  | dialogStarted
  | dialogAdvanced
  | dialogEnded
  | choiceMade
  | itemAdded
  | itemRemoved
  | memoryAdded
  | achievementUnlocked
  | flagChanged
  | saveCreated
  | saveLoaded
  | saveUpdated
  | error
  deriving DecidableEq, Repr

namespace EventKind

/-- All kinds of event. -/
def all : List EventKind :=
  [.phaseChanged, .sceneChanged, .dialogStarted, .dialogAdvanced, .dialogEnded, .choiceMade,
   .itemAdded, .itemRemoved, .memoryAdded, .achievementUnlocked, .flagChanged, .saveCreated,
   .saveLoaded, .saveUpdated, .error]

/-- The name of a kind of event. -/
def name : EventKind → String
  | .phaseChanged => "phase_changed"
  | .sceneChanged => "scene_changed"
  | .dialogStarted => "dialog_started"
  | .dialogAdvanced => "dialog_advanced"
  | .dialogEnded => "dialog_ended"
  | .choiceMade => "choice_made"
  | .itemAdded => "item_added"
  | .itemRemoved => "item_removed"
  | .memoryAdded => "memory_added"
  | .achievementUnlocked => "achievement_unlocked"
  | .flagChanged => "flag_changed"
  | .saveCreated => "save_created"
  | .saveLoaded => "save_loaded"
  | .saveUpdated => "save_updated"
  | .error => "error"

/-- The kind of event of a name. -/
def ofName? (name : String) : Option EventKind := all.find? (·.name = name)

theorem ofName?_name (k : EventKind) : ofName? k.name = some k := by cases k <;> decide

end EventKind

/-- One report to the observers of a game. -/
structure Event where
  kind : EventKind
  payload : Json.Members
  timestamp : Float

namespace Event

/-- An event in JSON. -/
def toJson (e : Event) : Json :=
  .obj [("type", .str e.kind.name), ("payload", .obj e.payload), ("timestamp", .float e.timestamp)]

open Schema in
/-- An event from its record. -/
def read : Reader Event := ofRecord fun ms =>
  Event.mk <$> required "type" (oneOf EventKind.ofName?) ms
    <*> withDefault "payload" [] anyMap ms
    <*> required "timestamp" number ms

end Event

end Storyline
