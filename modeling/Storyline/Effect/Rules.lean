import Storyline.Save

/-!
# The rules of a save

What each kind of change does to a save.  The engine and the effects of a story go
through these five functions alone.

- `Save.setFlag`: a flag keeps its place when it is set again;
- `Save.addItem`: items of one id are stacked;
- `Save.removeItem`: an item goes away when nothing of it is left;
- `Save.addMemory`, `Save.unlockAchievement`: each is kept once.
-/

namespace Storyline.Save

/-- Give a flag a value. -/
def setFlag (s : Save) (key : String) (value : FlagValue) : Save :=
  { s with flags := s.flags.insert key value }

/-- The inventory with an item added to the ones of its id, or at the end. -/
def stack (inventory : List Item) (item : Item) : List Item :=
  if inventory.any (·.id = item.id) then
    inventory.map fun i =>
      if i.id = item.id then { i with quantity := i.quantity + item.quantity } else i
  else inventory ++ [item]

/-- Add an item. -/
def addItem (s : Save) (item : Item) : Save := { s with inventory := stack s.inventory item }

/-- What is left of an item when some of it is taken. -/
def taken (itemId : String) (quantity : Int) (i : Item) : Option Item :=
  if i.id ≠ itemId then some i
  else if i.quantity - quantity > 0 then some { i with quantity := i.quantity - quantity }
  else none

/-- Take some of an item; what the save does not hold cannot be taken. -/
def removeItem (s : Save) (itemId : String) (quantity : Int) : Save :=
  { s with inventory := s.inventory.filterMap (taken itemId quantity) }

/-- Keep a memory, unless one of its id is kept. -/
def addMemory (s : Save) (memory : Memory) : Save :=
  if s.memories.any (·.id = memory.id) then s else { s with memories := s.memories ++ [memory] }

/-- Keep an achievement, unless it is kept. -/
def unlockAchievement (s : Save) (achievementId : String) : Save :=
  if s.achievements.contains achievementId then s
  else { s with achievements := s.achievements ++ [achievementId] }

@[simp] theorem flags_setFlag (s : Save) (key : String) (value : FlagValue) :
    (s.setFlag key value).flags = s.flags.insert key value := rfl

@[simp] theorem inventory_addItem (s : Save) (item : Item) :
    (s.addItem item).inventory = stack s.inventory item := rfl

@[simp] theorem inventory_removeItem (s : Save) (itemId : String) (quantity : Int) :
    (s.removeItem itemId quantity).inventory = s.inventory.filterMap (taken itemId quantity) := rfl

end Storyline.Save
