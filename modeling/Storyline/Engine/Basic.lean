import Storyline.Bus.Telling
import Storyline.Effect.Apply
import Storyline.Stage.Command
import Storyline.Storage.Backend

/-!
# The engine

The engine is the one entry for everything that a player does.  It moves the stage,
tells the observers, and keeps saves in a storage.

- `Engine`: the state;
- `Engine.Fault`: what a caller is told;
- `Engine.Run`: a computation of the engine, whose state stays as far as it came;
- `announce`, `changeStage`, `askStorage`: the three things it does.
-/

namespace Storyline

/-- The state of an engine over a storage.  `clock` is the reading of a clock that
only goes forward, and `session` the reading up to which play time is counted.
`interval` is the time between autosaves, and `autosaves` says whether they run. -/
structure Engine (σ : Type) where
  stage : Stage
  bus : Bus
  storage : σ
  clock : Float
  session : Option Float
  interval : Float
  autosaves : Bool

namespace Engine

/-- What a caller is told. -/
inductive Fault where
  | storage (f : Storage.Failure)
  | effectLoop
  | unknownEffect (u : Instruction.Unknown)
  | unknownAction (kind : String)
  deriving DecidableEq, Repr

/-- How deeply landings may be nested. -/
def maxDepth : Nat := 32

/-- The wording of a chain of landings that is too deep. -/
def loopMessage : String :=
  "Effect chain deeper than " ++ Decimal.renderInt maxDepth ++ "; cyclic content?"

/-- The wording of a kind of action that nobody knows. -/
def unknownActionMessage (kind : String) : String := "Unknown action type " ++ Text.quote kind

/-- A computation of an engine. -/
abbrev Run (σ α : Type) := ExceptT Fault (StateM (Engine σ)) α

variable {σ : Type}

/-- The engine over some content and a storage, before any game. -/
def start (content : Content.Index) (now : String) (storage : σ) (clock interval : Float) :
    Engine σ :=
  ⟨Stage.ofContent content now, Bus.empty, storage, clock, none, interval, false⟩

/-- Change the stage. -/
def changeStage (f : Stage → Stage) : Run σ Unit :=
  modify fun e => { e with stage := f e.stage }

/-- Move the stage and take what it answers. -/
def moveStage {α : Type} (f : Stage → α × Stage) : Run σ α :=
  modifyGet fun e => ((f e.stage).1, { e with stage := (f e.stage).2 })

/-- Tell the observers of an event. -/
def announce (kind : EventKind) (payload : Json.Members) : Run σ Unit :=
  modify fun e => { e with bus := e.bus.announce kind payload }

/-- Tell the observers of an error. -/
def announceError (message : String) : Run σ Unit :=
  announce .error [("message", .str message)]

/-- What the storage answers, whether it is a fault or not. -/
def askStorage {α : Type} (act : Storage.Act σ α) : Run σ (Except Storage.Failure α) :=
  modifyGet fun e => ((act e.storage).1, { e with storage := (act e.storage).2 })

/-- The live view. -/
def view : Run σ View := do return (← get).stage.view

/-- Tell the observers that a dialog runs. -/
def announceDialog : Run σ Unit := do
  let v ← view
  announce .dialogStarted [("script_id", .ofOption (v.script.map (·.id)))]

/-- Those of some choices whose conditions hold. -/
def offered (s : Stage) : List Choice → Except FlagValue.Fault (List Choice)
  | [] => .ok []
  | c :: cs => do
    let holds ← s.holds c.condition
    let rest ← offered s cs
    return if holds then c :: rest else rest

/-- The choices of the current node whose conditions hold. -/
def availableChoices (e : Engine σ) : Except FlagValue.Fault (List Choice) :=
  offered e.stage ((e.stage.view.node.map (·.choices)).getD [])

/-- Time goes by. -/
def tick (e : Engine σ) (seconds : Float) : Engine σ := { e with clock := e.clock + seconds }

/-- Stop autosaves and dismiss everyone. -/
def destroy (e : Engine σ) : Engine σ :=
  { e with autosaves := false, bus := e.bus.clear, stage := e.stage.dismissObservers }

end Engine

end Storyline
