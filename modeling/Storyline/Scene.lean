import Storyline.Memory

/-!
# Scenes

A scene is a place with a background and hotspots.  It may name the node its dialog
enters at, and the script to look for that node in.

- `Hotspot`, `Scene`: the records;
- `read` and `toJson` of each.
-/

namespace Storyline

/-- What a hotspot leads to. -/
inductive HotspotKind where
  | dialog
  | scene
  | item
  | action
  deriving DecidableEq, Repr

/-- All kinds of hotspot. -/
def HotspotKind.all : List HotspotKind := [.dialog, .scene, .item, .action]

/-- The name of a kind of hotspot. -/
def HotspotKind.name : HotspotKind → String
  | .dialog => "dialog"
  | .scene => "scene"
  | .item => "item"
  | .action => "action"

/-- The kind of hotspot of a name. -/
def HotspotKind.ofName? (name : String) : Option HotspotKind := all.find? (·.name = name)

/-- A part of the picture that reacts to the player. -/
structure Hotspot where
  id : String
  x : Float
  y : Float
  width : Float
  height : Float
  label : String
  icon : Option String
  kind : HotspotKind
  targetId : String
  condition : Option String
  highlighted : Bool

/-- A place. -/
structure Scene where
  id : String
  phase : Phase
  name : String
  description : String
  background : String
  hotspots : List Hotspot
  entryDialogId : Option String
  entryScriptId : Option String
  bgm : Option String
  ambientSound : Option String

namespace Hotspot

/-- A hotspot in JSON. -/
def toJson (h : Hotspot) : Json :=
  .obj [("id", .str h.id), ("x", .float h.x), ("y", .float h.y), ("width", .float h.width),
    ("height", .float h.height), ("label", .str h.label), ("icon", .ofOption h.icon),
    ("type", .str h.kind.name), ("target_id", .str h.targetId),
    ("condition", .ofOption h.condition), ("highlighted", .bool h.highlighted)]

open Schema in
/-- A hotspot from its record. -/
def read : Reader Hotspot := ofRecord fun ms =>
  Hotspot.mk <$> required "id" string ms
    <*> required "x" number ms
    <*> required "y" number ms
    <*> required "width" number ms
    <*> required "height" number ms
    <*> withDefault "label" "" string ms
    <*> orNone "icon" string ms
    <*> required "type" (oneOf HotspotKind.ofName?) ms
    <*> required "target_id" string ms
    <*> orNone "condition" string ms
    <*> withDefault "highlighted" false switch ms

end Hotspot

namespace Scene

/-- A scene in JSON. -/
def toJson (s : Scene) : Json :=
  .obj [("id", .str s.id), ("phase", s.phase.toJson), ("name", .str s.name),
    ("description", .str s.description), ("background", .str s.background),
    ("hotspots", .arr (s.hotspots.map Hotspot.toJson)),
    ("entry_dialog_id", .ofOption s.entryDialogId),
    ("entry_script_id", .ofOption s.entryScriptId), ("bgm", .ofOption s.bgm),
    ("ambient_sound", .ofOption s.ambientSound)]

open Schema in
/-- A scene from its record. -/
def read : Reader Scene := ofRecord fun ms =>
  Scene.mk <$> required "id" string ms
    <*> required "phase" Phase.read ms
    <*> withDefault "name" "" string ms
    <*> withDefault "description" "" string ms
    <*> withDefault "background" "" string ms
    <*> withDefault "hotspots" [] (list Hotspot.read) ms
    <*> orNone "entry_dialog_id" string ms
    <*> orNone "entry_script_id" string ms
    <*> orNone "bgm" string ms
    <*> orNone "ambient_sound" string ms

end Scene

end Storyline
