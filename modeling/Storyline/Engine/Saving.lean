import Storyline.Engine.Landing

/-!
# Saves of an engine

Games are written when they begin, when the player asks, and when the autosave timer
elapses.  Play time is counted before a save is written.  A fault of storage is told
to the observers and to the caller.

- `persist`, `saveGame`: writing;
- `startNewGame`, `loadSave`: a game begins or goes on;
- `autosave`: the timer elapses.
-/

namespace Storyline.Engine

variable {σ : Type}

/-- Write a save. -/
def persist (store : Storage.Store σ) (save : Save) : Run σ Unit := do
  match ← askStorage (store.saveSave save) with
  | .ok _ => return
  | .error (.fault f) =>
    announceError f.message
    throw (.storage (.fault f))
  | .error f => throw (.storage f)

/-- Count the time since it was last counted as played. -/
def countPlayTime : Run σ Unit := do
  let e ← get
  match e.session with
  | none => return
  | some since =>
    changeStage (·.addPlayTime (e.clock - since))
    modify fun e => { e with session := some e.clock }

/-- Write the live save. -/
def saveGame (store : Storage.Store σ) : Run σ Unit := do
  if (← view).save.isNone then return
  countPlayTime
  match (← view).save with
  | none => return
  | some save =>
    persist store save
    announce .saveUpdated [("save", save.toJson)]

/-- Let autosaves run, if they are wanted. -/
def startAutosave : Run σ Unit :=
  modify fun e => { e with autosaves := decide (0.0 < e.interval) }

/-- Start to count play time. -/
def startSession : Run σ Unit := modify fun e => { e with session := some e.clock }

/-- Begin a game under an id, and land on its first node. -/
def startNewGame (store : Storage.Store σ) (game : NewGame) (saveId : String) : Run σ Unit := do
  changeStage (·.startNewGame game saveId)
  startSession
  match (← view).save with
  | none => return
  | some save =>
    persist store save
    announce .saveCreated [("save", save.toJson)]
    startAutosave
    match (← view).node with
    | none => return
    | some n =>
      announceDialog
      landOn n

/-- The wording of a save that is not there. -/
def missingMessage (saveId : String) : String := "Save " ++ Text.quote saveId ++ " does not exist"

/-- Go on with a save.  One that is not there, or that cannot be read, leaves the
game as it is. -/
def loadSave (store : Storage.Store σ) (saveId : String) : Run σ Unit := do
  changeStage (·.setLoading true)
  match ← askStorage (store.getSave saveId) with
  | .error (.fault f) =>
    changeStage (·.setLoading false)
    announceError f.message
    throw (.storage (.fault f))
  | .error f => throw (.storage f)
  | .ok none =>
    changeStage (·.setLoading false)
    announceError (missingMessage saveId)
  | .ok (some save) =>
    changeStage (·.loadSave save)
    startSession
    let live := (← view).save
    announce .saveLoaded [("save", live.elim .null Save.toJson)]
    startAutosave

/-- The autosave timer elapses.  A fault of storage keeps it running, anything else
ends it. -/
def autosave (store : Storage.Store σ) (e : Engine σ) : Engine σ :=
  if e.autosaves then
    match saveGame store e with
    | (.ok _, e) => e
    | (.error (.storage (.fault _)), e) => e
    | (.error _, e) => { e with autosaves := false }
  else e

end Storyline.Engine
