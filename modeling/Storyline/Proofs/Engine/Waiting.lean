import Storyline.Proofs.Engine.Keeping

/-!
# Calls that wait for the storage

A call that asks the storage waits for the answer, and while it waits others go on: the timer
elapses during an action, or an action is taken while the timer's save is being written.  So such a
call is two parts, one up to the question and one from the answer on, and what happens to an engine
is a sequence of parts of all calls that are under way.

* `Engine.beginGame`, `Engine.finishGame`, …: the parts;
* `Engine.startNewGame_eq`, `Engine.saveGame_eq`, `Engine.loadSave_eq`: a call is its parts, with
  the question between them;
* `Engine.Part`, `Engine.Timed`: what happens between two waits, and when;
* `Engine.passAll`: parts one after another.
-/

namespace Storyline.Engine

variable {σ : Type}

/-! ## Parts of calls -/

/-- A game begins, and its save is to be written. -/
def beginGame (game : NewGame) (saveId : String) : Run σ (Option Save) := do
  changeStage (·.startNewGame game saveId)
  startSession
  return (← view).save

/-- Play time is counted, and the live save is to be written. -/
def beginSave : Run σ (Option Save) := do
  if (← view).save.isNone then return none
  countPlayTime
  return (← view).save

/-- A save is to be read. -/
def beginLoad : Run σ Unit := changeStage (·.setLoading true)

/-- What becomes of a write. -/
def settle : Except Storage.Failure Unit → Run σ Unit
  | .ok _ => pure ()
  | .error (.fault f) => do
    announceError f.message
    throw (.storage (.fault f))
  | .error f => throw (.storage f)

/-- The save of a new game was written, or not. -/
def finishGame (save : Save) (answer : Except Storage.Failure Unit) : Run σ Unit := do
  settle answer
  announce .saveCreated [("save", save.toJson)]
  startAutosave
  match (← view).node with
  | none => return
  | some n =>
    announceDialog
    landOn n

/-- The live save was written, or not. -/
def finishSave (save : Save) (answer : Except Storage.Failure Unit) : Run σ Unit := do
  settle answer
  announce .saveUpdated [("save", save.toJson)]

/-- The save of an id was read, or not. -/
def finishLoad (saveId : String) : Except Storage.Failure (Option Save) → Run σ Unit
  | .error (.fault f) => do
    changeStage (·.setLoading false)
    announceError f.message
    throw (.storage (.fault f))
  | .error f => throw (.storage f)
  | .ok none => do
    changeStage (·.setLoading false)
    announceError (missingMessage saveId)
  | .ok (some save) => do
    changeStage (·.loadSave save)
    startSession
    let live := (← view).save
    announce .saveLoaded [("save", live.elim .null Save.toJson)]
    startAutosave

section Calls

variable (store : Storage.Store σ)

/-- What is to be written is written, and then the call goes on. -/
def writeThen (finish : Save → Except Storage.Failure Unit → Run σ Unit) : Option Save → Run σ Unit
  | none => pure ()
  | some save => askStorage (store.saveSave save) >>= finish save

theorem persist_eq (save : Save) :
    persist store save = askStorage (store.saveSave save) >>= settle := by
  refine bind_congr fun answer => ?_
  rcases answer with (f | x) | u <;> rfl

theorem startNewGame_eq (game : NewGame) (saveId : String) :
    startNewGame store game saveId = beginGame game saveId >>= writeThen store finishGame := by
  unfold startNewGame beginGame
  rw [bind_assoc]
  refine bind_congr fun _ => ?_
  rw [bind_assoc]
  refine bind_congr fun _ => ?_
  rw [bind_assoc]
  refine bind_congr fun v => ?_
  rw [pure_bind]
  cases v.save with
  | none => rfl
  | some save =>
    dsimp only [writeThen, finishGame]
    rw [persist_eq, bind_assoc]
    rfl

theorem saveGame_eq : saveGame store = beginSave >>= writeThen store finishSave := by
  unfold saveGame beginSave
  rw [bind_assoc]
  refine bind_congr fun v => ?_
  cases v.save.isNone with
  | true => rfl
  | false =>
    rw [if_neg Bool.false_ne_true, if_neg Bool.false_ne_true, bind_assoc]
    refine bind_congr fun _ => ?_
    rw [bind_assoc]
    refine bind_congr fun w => ?_
    rw [pure_bind]
    cases w.save with
    | none => rfl
    | some save =>
      dsimp only [writeThen, finishSave]
      rw [persist_eq, bind_assoc]
      rfl

theorem loadSave_eq (saveId : String) :
    loadSave store saveId =
      beginLoad >>= fun _ => askStorage (store.getSave saveId) >>= finishLoad saveId := by
  refine bind_congr fun _ => bind_congr fun answer => ?_
  rcases answer with (f | x) | _ | save <;> rfl

end Calls

/-! ## What happens to an engine -/

/-- What happens to an engine between two waits: a whole move that gets its answers at once, or a
part of a call that waits.  Answers may be anything.  `stopTimer` is the end of the timer after a
failure that it does not pass over. -/
inductive Part where
  | move (m : Move)
  | beginGame (game : NewGame) (saveId : String)
  | finishGame (save : Save) (answer : Except Storage.Failure Unit)
  | beginSave
  | finishSave (save : Save) (answer : Except Storage.Failure Unit)
  | beginLoad
  | finishLoad (saveId : String) (answer : Except Storage.Failure (Option Save))
  | stopTimer

/-- The part is done; a fault goes to the caller, and the engine stays as far as it came. -/
def passPart (store : Storage.Store σ) (e : Engine σ) : Part → Engine σ
  | .move m => e.take store m
  | .beginGame game saveId => (Engine.beginGame game saveId e).2
  | .finishGame save answer => (Engine.finishGame save answer e).2
  | .beginSave => (Engine.beginSave e).2
  | .finishSave save answer => (Engine.finishSave save answer e).2
  | .beginLoad => (Engine.beginLoad e).2
  | .finishLoad saveId answer => (Engine.finishLoad saveId answer e).2
  | .stopTimer => { e with autosaves := false }

/-- A part, with the reading of the clock and the date at which it is done. -/
structure Timed where
  reading : Float
  now : String
  part : Part

/-- The engine at the moment of a part. -/
def clocked (e : Engine σ) (t : Timed) : Engine σ := { e.dated t.now with clock := t.reading }

/-- A part is done at its moment. -/
def pass (store : Storage.Store σ) (e : Engine σ) (t : Timed) : Engine σ :=
  (e.clocked t).passPart store t.part

/-- Parts one after another.  Nothing is said of which calls are under way, so the parts of any
calls may come in any order. -/
def passAll (store : Storage.Store σ) (e : Engine σ) (ts : List Timed) : Engine σ :=
  ts.foldl (pass store) e

end Storyline.Engine
