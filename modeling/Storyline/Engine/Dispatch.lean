import Storyline.Action
import Storyline.Engine.Saving
import Storyline.Template.DialogText

/-!
# Dispatching actions

What each action does.

- `Engine.advanceDialog`, `Engine.makeChoice`, `Engine.startDialog`: the dialog;
- `Engine.dispatch`: every action;
- `Engine.refuse`: an action that nobody knows;
- `Engine.dialogText`: the text of the current node.
-/

namespace Storyline

/-- Two finds of one node: nodes of content have ids of their own. -/
def DialogNode.isSame (a b : DialogNode) : Bool := a.id == b.id && a.scriptId == b.scriptId

namespace Engine

variable {σ : Type}

/-- Start the dialog of a script and land on its first node. -/
def startDialog (scriptId : String) : Run σ Unit := do
  match ← moveStage (·.startDialog scriptId) with
  | none => return
  | some n =>
    announceDialog
    landOn n

/-- Advance the dialog and land on the node that it moves to. -/
def advanceDialog : Run σ Unit := do
  let before := (← view).node
  let after ← moveStage (·.advanceDialog)
  match before, after with
  | some m, some n =>
    if n.id ≠ m.id then
      announce .dialogAdvanced [("from", .str m.id), ("to", .str n.id)]
      landOn n
  | some m, none => announce .dialogEnded [("last_node_id", .str m.id)]
  | none, _ => return

/-- Make a choice: its effects first, then the move to the node it leads to, unless
the effects have moved the dialog. -/
def makeChoice (choiceId : String) : Run σ Unit := do
  match (← view).node with
  | none => return
  | some current =>
    match current.choice? choiceId with
    | none => return
    | some choice =>
      drain maxDepth (choice.effects.map .effect)
      let stays := (← view).node.any (·.isSame current)
      let target ← if stays then moveStage (·.makeChoice choiceId) else pure none
      announce .choiceMade
        [("choice_id", .str choiceId), ("next_node_id", .ofOption (target.map (·.id)))]
      match target with
      | none => return
      | some n => landOn n

/-- Carry out an action.  A new game's save has the given id. -/
def dispatch (store : Storage.Store σ) (freshId : String) : Action → Run σ Unit
  | .startNewGame game => startNewGame store game freshId
  | .loadSave saveId => loadSave store saveId
  | .changePhase phase => changePhase landOn phase
  | .changeScene sceneId => changeScene landOn sceneId
  | .startDialog scriptId => startDialog scriptId
  | .advanceDialog => advanceDialog
  | .makeChoice choiceId => makeChoice choiceId
  | .completeTypewriter => changeStage (·.completeTypewriter)
  | .addItem item => do
    changeStage (·.addItem item)
    announce .itemAdded item.members
  | .removeItem itemId quantity => do
    changeStage (·.removeItem itemId quantity)
    announce .itemRemoved (removalMembers itemId quantity)
  | .addMemory memory => do
    changeStage (·.addMemory memory)
    announce .memoryAdded memory.members
  | .setFlag key value => do
    changeStage (·.setFlag key value)
    announce .flagChanged (settingMembers key value)
  | .unlockAchievement achievementId => do
    changeStage (·.unlockAchievement achievementId)
    announce .achievementUnlocked [("achievement_id", .str achievementId)]
  | .saveGame => saveGame store
  | .toggleMenu => changeStage (·.toggleMenu)
  | .toggleInventory => changeStage (·.toggleInventory)
  | .toggleMemories => changeStage (·.toggleMemories)

/-- An action of a kind that nobody knows. -/
def refuse (kind : String) : Run σ Unit := throw (.unknownAction kind)

/-- The text of the current node as the player reads it. -/
def dialogText (e : Engine σ) : Except TextFault (Option String) :=
  match e.stage.view.node with
  | none => .ok none
  | some n => (renderText n.text e.stage.view.save).map some

end Engine

end Storyline
