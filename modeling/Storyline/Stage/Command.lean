import Storyline.Stage.Dialog
import Storyline.Stage.Entry

/-!
# Commands to the stage

Everything that can be asked of a stage as a value, so that whole histories can be
written down.

- `Command`, `Answer`: what is asked and what comes back;
- `Stage.perform`: one command;
- `Stage.performAll`: a history.
-/

namespace Storyline.Stage

/-- Something asked of a stage.  A new game brings the id of its save. -/
inductive Command where
  | startNewGame (game : NewGame) (saveId : String)
  | loadSave (save : Save)
  | setLoading (loading : Bool)
  | changePhase (phase : Phase)
  | changeScene (sceneId : String)
  | startDialog (scriptId : String)
  | advanceDialog
  | makeChoice (choiceId : String)
  | endDialog
  | completeTypewriter
  | addItem (item : Item)
  | removeItem (itemId : String) (quantity : Int)
  | addMemory (memory : Memory)
  | unlockAchievement (achievementId : String)
  | setFlag (key : String) (value : FlagValue)
  | addPlayTime (seconds : Float)
  | toggleMenu
  | toggleInventory
  | toggleMemories

/-- What comes back from a command. -/
inductive Answer where
  | nothing
  | node (n : Option DialogNode)
  | scene (s : Option Scene)
  | save (s : Option Save)

/-- A stage together with the node that came back. -/
def ofNode (r : Option DialogNode × Stage) : Answer × Stage := (.node r.1, r.2)

/-- Carry out one command. -/
def perform (s : Stage) : Command → Answer × Stage
  | .startNewGame game saveId =>
    let s := s.startNewGame game saveId
    (.save s.view.save, s)
  | .loadSave save => (.nothing, s.loadSave save)
  | .setLoading loading => (.nothing, s.setLoading loading)
  | .changePhase phase => ofNode (s.changePhase phase)
  | .changeScene sceneId =>
    let (scene, s) := s.changeScene sceneId
    (.scene scene, s)
  | .startDialog scriptId => ofNode (s.startDialog scriptId)
  | .advanceDialog => ofNode s.advanceDialog
  | .makeChoice choiceId => ofNode (s.makeChoice choiceId)
  | .endDialog => (.nothing, s.endDialog)
  | .completeTypewriter => (.nothing, s.completeTypewriter)
  | .addItem item => (.nothing, s.addItem item)
  | .removeItem itemId quantity => (.nothing, s.removeItem itemId quantity)
  | .addMemory memory => (.nothing, s.addMemory memory)
  | .unlockAchievement achievementId => (.nothing, s.unlockAchievement achievementId)
  | .setFlag key value => (.nothing, s.setFlag key value)
  | .addPlayTime seconds => (.nothing, s.addPlayTime seconds)
  | .toggleMenu => (.nothing, s.toggleMenu)
  | .toggleInventory => (.nothing, s.toggleInventory)
  | .toggleMemories => (.nothing, s.toggleMemories)

/-- Carry out commands one after another, each dated by a moment. -/
def performAll (s : Stage) (history : List (String × Command)) : Stage :=
  history.foldl (fun s c => (({ s with now := c.1 } : Stage).perform c.2).2) s

@[simp] theorem performAll_nil (s : Stage) : s.performAll [] = s := rfl

/-- A history is its beginning and then the rest. -/
theorem performAll_append (s : Stage) (a b : List (String × Command)) :
    s.performAll (a ++ b) = (s.performAll a).performAll b := by
  simp [performAll]

end Storyline.Stage
