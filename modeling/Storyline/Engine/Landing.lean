import Storyline.Engine.Basic

/-!
# Landing on nodes

Whenever the dialog is moved onto a node, the effects of that node are carried out.
Effects that change the scene or the phase move the dialog themselves and so land on
further nodes.  Such a chain may be `maxDepth` landings deep; a deeper one is taken
for a cycle and ends with an error.

- `carryOut`: one effect, for a given way of landing;
- `changePhase`, `changeScene`: the two moves that an effect can make;
- `drain`: instructions in order, with the landings that they cause.
-/

namespace Storyline.Engine

variable {σ : Type}

/-- The effects of a node as instructions. -/
def instructionsOf (n : DialogNode) : List Instruction := n.effects.map .effect

/-- Go to a phase and land on the node that it starts with. -/
def changePhase (land : DialogNode → Run σ Unit) (phase : Phase) : Run σ Unit := do
  let before := (← view).save.map (·.currentPhase)
  let node ← moveStage (·.changePhase phase)
  announce .phaseChanged
    [("from", before.elim .null Phase.toJson), ("to", phase.toJson)]
  match node with
  | none => return
  | some n =>
    announceDialog
    land n

/-- Go to a scene and land on the node that it enters at. -/
def changeScene (land : DialogNode → Run σ Unit) (sceneId : String) : Run σ Unit := do
  let before := (← view).scene.map (·.id)
  match ← moveStage (·.changeScene sceneId) with
  | none => return
  | some _ =>
    announce .sceneChanged [("from", .ofOption before), ("to", .str sceneId)]
    match (← view).node with
    | none => return
    | some n =>
      announceDialog
      land n

/-- Carry out an effect.  Sounds and shakes are left to the screen. -/
def carryOut (land : DialogNode → Run σ Unit) : Effect → Run σ Unit
  | .setFlag key value => do
    changeStage (·.setFlag key value)
    announce .flagChanged [("key", .str key), ("value", value.toJson)]
  | .addItem item => do
    changeStage (·.addItem item)
    announce .itemAdded item.members
  | .removeItem itemId quantity => do
    changeStage (·.removeItem itemId quantity)
    announce .itemRemoved [("item_id", .str itemId), ("quantity", .int quantity)]
  | .addMemory memory => do
    changeStage (·.addMemory memory)
    announce .memoryAdded memory.members
  | .unlockAchievement achievementId => do
    changeStage (·.unlockAchievement achievementId)
    announce .achievementUnlocked [("achievement_id", .str achievementId)]
  | .changeScene sceneId => changeScene land sceneId
  | .changePhase phase => changePhase land phase
  | .playSound _ => return
  | .shakeScreen _ _ => return

/-- Carry out an instruction. -/
def follow (land : DialogNode → Run σ Unit) : Instruction → Run σ Unit
  | .effect e => carryOut land e
  | .unknown kind => throw (.unknownEffect ⟨kind⟩)

/-- Carry out instructions in order, at most `depth` landings deep. -/
def drain : Nat → List Instruction → Run σ Unit
  | 0, _ => do
    announceError loopMessage
    throw .effectLoop
  | depth + 1, is => is.forM (follow fun n => drain depth (instructionsOf n))

@[simp] theorem drain_nil (depth : Nat) : drain (depth + 1) [] = (pure () : Run σ Unit) := rfl

theorem drain_cons (depth : Nat) (i : Instruction) (is : List Instruction) :
    (drain (depth + 1) (i :: is) : Run σ Unit) =
      follow (fun n => drain depth (instructionsOf n)) i >>= fun _ => drain (depth + 1) is := rfl

/-- Instructions one after another are carried out one after another. -/
theorem drain_append (depth : Nat) (is js : List Instruction) :
    (drain (depth + 1) (is ++ js) : Run σ Unit) =
      drain (depth + 1) is >>= fun _ => drain (depth + 1) js := by
  induction is with
  | nil => rfl
  | cons i is ih => rw [List.cons_append, drain_cons, ih, drain_cons, bind_assoc]

/-- Carry out instructions that a caller gives. -/
def execute (is : List Instruction) : Run σ Unit := drain maxDepth is

/-- Carry out the effects of a node that an action lands on. -/
def landOn (n : DialogNode) : Run σ Unit := drain maxDepth (instructionsOf n)

end Storyline.Engine
