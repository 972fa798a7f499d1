import Storyline.Dialog
import Storyline.Save
import Storyline.Scene

/-!
# Views

What a player sees at one moment: the live save with the scene and dialog that it
points to, and the state of the screen.

- `View`: the record, with `read` and `toJson`;
- `View.dialogMode`: whether a dialog runs, and whether it waits for a choice;
- `View.phasePosition`: how far the story is.
-/

namespace Storyline

/-- The state of the screen together with the live save. -/
structure View where
  isLoaded : Bool
  isLoading : Bool
  save : Option Save
  showDialog : Bool
  showChoices : Bool
  showMenu : Bool
  showInventory : Bool
  showMemories : Bool
  node : Option DialogNode
  script : Option Script
  typewriterComplete : Bool
  scene : Option Scene
  background : Option String
  characterSprite : Option String

/-- Whether a dialog runs. -/
inductive DialogMode where
  | none
  | active
  | awaitingChoice
  deriving DecidableEq, Repr

/-- The name of a dialog mode. -/
def DialogMode.name : DialogMode → String
  | .none => "none"
  | .active => "active"
  | .awaitingChoice => "awaiting_choice"

namespace View

/-- The view before any game is started. -/
def initial : View where
  isLoaded := false
  isLoading := false
  save := none
  showDialog := false
  showChoices := false
  showMenu := false
  showInventory := false
  showMemories := false
  node := none
  script := none
  typewriterComplete := false
  scene := none
  background := none
  characterSprite := none

/-- A dialog runs when there is a node, and it waits when choices are shown. -/
def dialogMode (v : View) : DialogMode :=
  if v.node.isNone then .none else if v.showChoices then .awaitingChoice else .active

/-- The position of the live save's phase. -/
def phasePosition? (v : View) : Option Nat := v.save.bind (·.currentPhase.index?)

/-- A view in JSON. -/
def toJson (v : View) : Json :=
  .obj [("is_loaded", .bool v.isLoaded), ("is_loading", .bool v.isLoading),
    ("save", v.save.elim .null Save.toJson), ("show_dialog", .bool v.showDialog),
    ("show_choices", .bool v.showChoices), ("show_menu", .bool v.showMenu),
    ("show_inventory", .bool v.showInventory), ("show_memories", .bool v.showMemories),
    ("current_dialog_node", v.node.elim .null DialogNode.toJson),
    ("current_dialog_script", v.script.elim .null Script.toJson),
    ("typewriter_complete", .bool v.typewriterComplete),
    ("current_scene", v.scene.elim .null Scene.toJson),
    ("current_background", .ofOption v.background),
    ("current_character_sprite", .ofOption v.characterSprite)]

open Schema in
/-- A view from its record. -/
def read : Reader View := ofRecord fun ms =>
  View.mk <$> withDefault "is_loaded" false switch ms
    <*> withDefault "is_loading" false switch ms
    <*> orNone "save" Save.read ms
    <*> withDefault "show_dialog" false switch ms
    <*> withDefault "show_choices" false switch ms
    <*> withDefault "show_menu" false switch ms
    <*> withDefault "show_inventory" false switch ms
    <*> withDefault "show_memories" false switch ms
    <*> orNone "current_dialog_node" DialogNode.read ms
    <*> orNone "current_dialog_script" Script.read ms
    <*> withDefault "typewriter_complete" false switch ms
    <*> orNone "current_scene" Scene.read ms
    <*> orNone "current_background" string ms
    <*> orNone "current_character_sprite" string ms

end View

end Storyline
