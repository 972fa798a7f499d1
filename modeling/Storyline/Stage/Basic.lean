import Storyline.Condition
import Storyline.Content.Index
import Storyline.Effect.Rules
import Storyline.View

/-!
# The stage

The stage holds the live view over some content and shows every change of it to its
observers.  A change replaces the view as a whole; nothing is changed in place.

- `Stage`: the state;
- `Stage.show`: a new view, shown to the observers;
- `Stage.changeView`, `Stage.changeSave`: the two kinds of change;
- `Stage.addItem` to `Stage.addPlayTime`: changes of the live save's data;
- `Stage.subscribe`, `Stage.unsubscribe`: the observers.

Without a live save its data cannot change, and such a change shows nothing.
-/

namespace Storyline

/-- The live view over some content.  Changes are dated `now`.  `shown` keeps the
views that were shown, the latest first. -/
structure Stage where
  content : Content.Index
  view : View
  now : String
  observers : List String
  shown : List View

namespace Stage

/-- The stage of some content before any game. -/
def ofContent (content : Content.Index) (now : String) : Stage :=
  ⟨content, View.initial, now, [], []⟩

/-- Replace the view and show the new one. -/
def «show» (s : Stage) (v : View) : Stage := { s with view := v, shown := v :: s.shown }

/-- Change the view and show it. -/
def changeView (s : Stage) (f : View → View) : Stage := s.show (f s.view)

/-- Change the live save, date the change and show it. -/
def changeSave (s : Stage) (f : Save → Save) : Stage :=
  match s.view.save with
  | none => s
  | some save => s.show { s.view with save := some { f save with updatedAt := s.now } }

/-- Add an item. -/
def addItem (s : Stage) (item : Item) : Stage := s.changeSave (·.addItem item)

/-- Take some of an item. -/
def removeItem (s : Stage) (itemId : String) (quantity : Int) : Stage :=
  s.changeSave (·.removeItem itemId quantity)

/-- Keep a memory. -/
def addMemory (s : Stage) (memory : Memory) : Stage := s.changeSave (·.addMemory memory)

/-- Keep an achievement. -/
def unlockAchievement (s : Stage) (achievementId : String) : Stage :=
  s.changeSave (·.unlockAchievement achievementId)

/-- Give a flag a value. -/
def setFlag (s : Stage) (key : String) (value : FlagValue) : Stage :=
  s.changeSave (·.setFlag key value)

/-- Count time as played, unless there is none to count. -/
def addPlayTime (s : Stage) (seconds : Float) : Stage :=
  if seconds ≤ 0.0 then s
  else s.changeSave fun save => { save with playTime := save.playTime + seconds }

/-- The value of a flag of the live save. -/
def flag? (s : Stage) (key : String) : Option FlagValue :=
  s.view.save.bind fun save => save.flags.get? key

/-- Whether a condition holds for the flags of the live save; without a save it
does. -/
def holds (s : Stage) (condition : Option String) : Except FlagValue.Fault Bool :=
  match s.view.save with
  | none => .ok true
  | some save => Condition.evaluate condition save.flags

/-- Say whether something is being loaded. -/
def setLoading (s : Stage) (loading : Bool) : Stage :=
  s.changeView fun v => { v with isLoading := loading }

/-- Open or close the menu. -/
def toggleMenu (s : Stage) : Stage := s.changeView fun v => { v with showMenu := ! v.showMenu }

/-- Open or close the inventory. -/
def toggleInventory (s : Stage) : Stage :=
  s.changeView fun v => { v with showInventory := ! v.showInventory }

/-- Open or close the memories. -/
def toggleMemories (s : Stage) : Stage :=
  s.changeView fun v => { v with showMemories := ! v.showMemories }

/-- Add an observer; one may be added more than once. -/
def subscribe (s : Stage) (observer : String) : Stage :=
  { s with observers := s.observers ++ [observer] }

/-- Take an observer away once. -/
def unsubscribe (s : Stage) (observer : String) : Stage :=
  { s with observers := s.observers.erase observer }

/-- Take all observers away. -/
def dismissObservers (s : Stage) : Stage := { s with observers := [] }

@[simp] theorem view_show (s : Stage) (v : View) : (s.show v).view = v := rfl

@[simp] theorem shown_show (s : Stage) (v : View) : (s.show v).shown = v :: s.shown := rfl

@[simp] theorem content_show (s : Stage) (v : View) : (s.show v).content = s.content := rfl

@[simp] theorem now_show (s : Stage) (v : View) : (s.show v).now = s.now := rfl

/-- Without a live save nothing is changed. -/
theorem changeSave_of_none {s : Stage} (h : s.view.save = none) (f : Save → Save) :
    s.changeSave f = s := by
  simp [changeSave, h]

theorem changeSave_of_some {s : Stage} {save : Save} (h : s.view.save = some save)
    (f : Save → Save) :
    s.changeSave f = s.show { s.view with save := some { f save with updatedAt := s.now } } := by
  simp [changeSave, h]

end Stage

end Storyline
