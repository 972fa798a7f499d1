import Storyline.Save

/-!
# Actions

The closed set of intents that an engine accepts.

- `Action`: the intents with their arguments;
- `Action.kind`: the name of an intent;
- `Action.read`, `Action.toJson`: from and to records.
-/

namespace Storyline

/-- Something that the player wants to happen. -/
inductive Action where
  | startNewGame (game : NewGame)
  | loadSave (saveId : String)
  | changePhase (phase : Phase)
  | changeScene (sceneId : String)
  | startDialog (scriptId : String)
  | advanceDialog
  | makeChoice (choiceId : String)
  | completeTypewriter
  | addItem (item : Item)
  | removeItem (itemId : String) (quantity : Int)
  | addMemory (memory : Memory)
  | setFlag (key : String) (value : FlagValue)
  | unlockAchievement (achievementId : String)
  | saveGame
  | toggleMenu
  | toggleInventory
  | toggleMemories

namespace Action

/-- The name of an intent. -/
def kind : Action → String
  | .startNewGame _ => "START_NEW_GAME"
  | .loadSave _ => "LOAD_SAVE"
  | .changePhase _ => "CHANGE_PHASE"
  | .changeScene _ => "CHANGE_SCENE"
  | .startDialog _ => "START_DIALOG"
  | .advanceDialog => "ADVANCE_DIALOG"
  | .makeChoice _ => "MAKE_CHOICE"
  | .completeTypewriter => "COMPLETE_TYPEWRITER"
  | .addItem _ => "ADD_ITEM"
  | .removeItem .. => "REMOVE_ITEM"
  | .addMemory _ => "ADD_MEMORY"
  | .setFlag .. => "SET_FLAG"
  | .unlockAchievement _ => "UNLOCK_ACHIEVEMENT"
  | .saveGame => "SAVE_GAME"
  | .toggleMenu => "TOGGLE_MENU"
  | .toggleInventory => "TOGGLE_INVENTORY"
  | .toggleMemories => "TOGGLE_MEMORIES"

/-- The argument of an intent, if it has one. -/
def payload? : Action → Option Json
  | .startNewGame game => some game.toJson
  | .loadSave saveId => some (.str saveId)
  | .changePhase phase => some phase.toJson
  | .changeScene sceneId => some (.str sceneId)
  | .startDialog scriptId => some (.str scriptId)
  | .makeChoice choiceId => some (.str choiceId)
  | .addItem item => some item.toJson
  | .removeItem itemId quantity => some (.obj (removalMembers itemId quantity))
  | .addMemory memory => some memory.toJson
  | .setFlag key value => some (.obj (settingMembers key value))
  | .unlockAchievement achievementId => some (.str achievementId)
  | _ => none

/-- An intent in JSON. -/
def toJson (a : Action) : Json :=
  .obj (("type", .str a.kind) :: a.payload?.toList.map fun p => ("payload", p))

open Schema in
/-- The records of the kinds of intent. -/
def readKind? : String → Option (Json.Members → Checked Action)
  | "START_NEW_GAME" => some fun ms => Action.startNewGame <$> required "payload" NewGame.read ms
  | "LOAD_SAVE" => some fun ms => Action.loadSave <$> required "payload" string ms
  | "CHANGE_PHASE" => some fun ms => Action.changePhase <$> required "payload" Phase.read ms
  | "CHANGE_SCENE" => some fun ms => Action.changeScene <$> required "payload" string ms
  | "START_DIALOG" => some fun ms => Action.startDialog <$> required "payload" string ms
  | "ADVANCE_DIALOG" => some fun _ => .good .advanceDialog
  | "MAKE_CHOICE" => some fun ms => Action.makeChoice <$> required "payload" string ms
  | "COMPLETE_TYPEWRITER" => some fun _ => .good .completeTypewriter
  | "ADD_ITEM" => some fun ms => Action.addItem <$> required "payload" Item.read ms
  | "REMOVE_ITEM" =>
    some fun ms =>
      (fun r => Action.removeItem r.1 r.2) <$> required "payload" (ofRecord removal) ms
  | "ADD_MEMORY" => some fun ms => Action.addMemory <$> required "payload" Memory.read ms
  | "SET_FLAG" =>
    some fun ms => (fun s => Action.setFlag s.1 s.2) <$> required "payload" (ofRecord setting) ms
  | "UNLOCK_ACHIEVEMENT" =>
    some fun ms => Action.unlockAchievement <$> required "payload" string ms
  | "SAVE_GAME" => some fun _ => .good .saveGame
  | "TOGGLE_MENU" => some fun _ => .good .toggleMenu
  | "TOGGLE_INVENTORY" => some fun _ => .good .toggleInventory
  | "TOGGLE_MEMORIES" => some fun _ => .good .toggleMemories
  | _ => none

/-- An intent from its record. -/
def read : Schema.Reader Action := Schema.tagged readKind?

end Action

end Storyline
