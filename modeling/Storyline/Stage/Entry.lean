import Storyline.Stage.Basic
import Storyline.Stage.Spot

/-!
# Entering a position

A position is a scene and a spot.  It is entered in two steps: the save's ids change
first, the view follows.  The background of the node wins over that of the scene.

- `Stage.enter`: both steps;
- `Stage.startNewGame`, `Stage.loadSave`: a game begins or goes on;
- `Stage.changePhase`, `Stage.changeScene`: the story moves.
-/

namespace Storyline.Stage

/-- The background at a position: the node's if it has one, or else the scene's. -/
def backgroundAt (scene : Option Scene) (spot : Option Spot) : Option String :=
  (spot.bind fun p => nonempty p.node.background) <|> nonempty (scene.map (·.background))

/-- The view at a position. -/
def viewAt (scene : Option Scene) (spot : Option Spot) (v : View) : View :=
  { v with
    scene := scene
    background := backgroundAt scene spot
    characterSprite := spot.bind (·.node.characterSprite)
    showDialog := spot.isSome
    showChoices := false
    node := spot.map (·.node)
    script := spot.map (·.script) }

/-- A save that stands at a spot, or at none. -/
def standAt (spot : Option Spot) (save : Save) : Save :=
  { save with
    currentDialogId := spot.map (·.node.id)
    currentDialogScriptId := spot.map (·.script.id) }

/-- Enter a position, with a change of the save besides. -/
def enter (s : Stage) (scene : Option Scene) (spot : Option Spot) (change : Save → Save) :
    Stage :=
  (s.changeSave fun save => change (standAt spot save)).changeView fun v =>
    { viewAt scene spot v with typewriterComplete := false }

/-- The save of a new game: at the start of the first phase, with nothing
collected. -/
def newSave (s : Stage) (game : NewGame) (saveId : String) : Save where
  id := saveId
  version := Save.currentVersion
  createdAt := s.now
  updatedAt := s.now
  name := none
  thumbnail := none
  player := ⟨game.playerName, game.playerAvatar⟩
  currentPhase := Phase.planning
  currentSceneId := ((s.content.phaseScene? Phase.planning).map (·.id)).getD ""
  currentDialogId := none
  currentDialogScriptId := none
  readDialogIds := []
  inventory := []
  memories := []
  achievements := []
  flags := ∅
  playTime := 0.0

/-- Begin a game: at the dialog of the first scene, or else at that of the first
phase. -/
def startNewGame (s : Stage) (game : NewGame) (saveId : String) : Stage :=
  let save := s.newSave game saveId
  let scene := s.content.scene? save.currentSceneId
  let spot := scene.bind s.content.sceneSpot? <|> s.content.phaseSpot? save.currentPhase
  enter { s with view := { s.view with isLoaded := true, isLoading := false, save := some save } }
    scene spot id

/-- A save of which the spot is not to be found stands at none. -/
def dropSpot (save : Save) : Save :=
  if (nonempty save.currentDialogId).isSome || (nonempty save.currentDialogScriptId).isSome then
    { save with currentDialogId := none, currentDialogScriptId := none }
  else save

/-- Go on with a save, at the position that its ids name. -/
def loadSave (s : Stage) (save : Save) : Stage :=
  let scene := s.content.scene? save.currentSceneId
  let spot := s.content.savedSpot? save
  s.changeView fun v =>
    { viewAt scene spot v with
      isLoaded := true
      isLoading := false
      save := some (if spot.isSome then save else dropSpot save)
      typewriterComplete := true }

/-- Go to the first scene and the first script of a phase. -/
def changePhase (s : Stage) (phase : Phase) : Option DialogNode × Stage :=
  let scene := s.content.phaseScene? phase
  let spot := s.content.phaseSpot? phase
  (spot.map (·.node),
    s.enter scene spot fun save =>
      { save with currentPhase := phase, currentSceneId := (scene.map (·.id)).getD "" })

/-- Go to a scene and to the dialog it enters at.  An unknown scene changes
nothing. -/
def changeScene (s : Stage) (sceneId : String) : Option Scene × Stage :=
  match s.content.scene? sceneId with
  | none => (none, s)
  | some scene =>
    (some scene,
      s.enter (some scene) (s.content.sceneSpot? scene) fun save =>
        { save with currentSceneId := scene.id })

end Storyline.Stage
