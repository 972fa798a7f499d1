import Storyline.Effect.Rules
import Storyline.Event
import Storyline.Text.Quoted

/-!
# Applying effects

Effects change a save in order, and each one leaves a notification.  Effects on the
data of a save follow its rules.  Effects that move the dialog and effects for the
screen leave the save as it is; the former are marked, since the stage has to act on
them.

- `Notification`: what an effect leaves behind;
- `Effect.apply`: one effect;
- `Effect.applyAll`: a list of effects;
- `Instruction`: an effect, or a kind of effect that nobody knows.
-/

namespace Storyline

/-- What an effect leaves behind: an event's name for effects on data, the name of
the effect's kind otherwise. -/
structure Notification where
  kind : String
  payload : Json.Members
  control : Bool

namespace Notification

/-- A notification in JSON. -/
def toJson (n : Notification) : Json :=
  .obj [("type", .str n.kind), ("payload", .obj n.payload), ("control", .bool n.control)]

open Schema in
/-- A notification from its record. -/
def read : Reader Notification := ofRecord fun ms =>
  Notification.mk <$> required "type" string ms
    <*> withDefault "payload" [] anyMap ms
    <*> withDefault "control" false switch ms

end Notification

namespace Effect

/-- The event that an effect on data reports, and its payload. -/
def event? : Effect → Option (EventKind × Json.Members)
  | .setFlag key value => some (.flagChanged, settingMembers key value)
  | .addItem item => some (.itemAdded, item.members)
  | .removeItem itemId quantity => some (.itemRemoved, removalMembers itemId quantity)
  | .addMemory memory => some (.memoryAdded, memory.members)
  | .unlockAchievement achievementId =>
    some (.achievementUnlocked, [("achievement_id", .str achievementId)])
  | _ => none

/-- What an effect does to the data of a save. -/
def change (s : Save) : Effect → Save
  | .setFlag key value => s.setFlag key value
  | .addItem item => s.addItem item
  | .removeItem itemId quantity => s.removeItem itemId quantity
  | .addMemory memory => s.addMemory memory
  | .unlockAchievement achievementId => s.unlockAchievement achievementId
  | _ => s

/-- The notification of an effect. -/
def notification (e : Effect) : Notification :=
  match e.event? with
  | some (kind, payload) => ⟨kind.name, payload, false⟩
  | none => ⟨e.kind, e.payload, e.isControl⟩

/-- Apply one effect. -/
def apply (s : Save) (e : Effect) : Save × Notification := (e.change s, e.notification)

/-- Apply effects in order: the save at the end, and one notification each. -/
def applyAll (s : Save) (es : List Effect) : Save × List Notification :=
  (es.foldl change s, es.map notification)

@[simp] theorem applyAll_nil (s : Save) : applyAll s [] = (s, []) := rfl

/-- Applying a list is applying its first effect and then the others. -/
theorem applyAll_cons (s : Save) (e : Effect) (es : List Effect) :
    applyAll s (e :: es) =
      ((applyAll (e.apply s).1 es).1, (e.apply s).2 :: (applyAll (e.apply s).1 es).2) := rfl

/-- Effects that move the dialog and effects for the screen leave a save as it
is. -/
theorem change_of_event?_eq_none {e : Effect} (h : e.event? = none) (s : Save) :
    e.change s = s := by
  cases e <;> first | rfl | cases h

end Effect

/-- An entry of a list of effects that is to be carried out. -/
inductive Instruction where
  | effect (e : Effect)
  | unknown (kind : String)

namespace Instruction

/-- A kind of effect that nobody knows. -/
structure Unknown where
  kind : String
  deriving DecidableEq, Repr

/-- The wording of the fault. -/
def Unknown.message (u : Unknown) : String := "Unknown effect type " ++ Text.quote u.kind

/-- Carry out instructions in order, up to the first one that is unknown. -/
def run (s : Save) : List Instruction → Except Unknown (Save × List Notification)
  | [] => .ok (s, [])
  | .unknown kind :: _ => .error ⟨kind⟩
  | .effect e :: rest =>
    (run (e.change s) rest).map fun (last, notes) => (last, e.notification :: notes)

/-- Known instructions are carried out as effects. -/
theorem run_map_effect (s : Save) (es : List Effect) :
    run s (es.map .effect) = .ok (Effect.applyAll s es) := by
  induction es generalizing s with
  | nil => rfl
  | cons e es ih => simp [run, ih, Except.map, Effect.applyAll]

end Instruction

end Storyline
