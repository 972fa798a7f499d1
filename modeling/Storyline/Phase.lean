/-!
# Phases of a journey

A story runs through seven phases.  A phase is known by its name; a save may carry
the name of a phase that is not one of the seven, and such a phase has no
position.

- `Phase.order`: the seven phases, in order;
- `Phase.index?`: the position of a phase;
- `Phase.title`, `Phase.summary`: what players are shown.
-/

namespace Storyline

/-- A phase, by its name. -/
structure Phase where
  name : String
  deriving DecidableEq, Repr, Inhabited

namespace Phase

/-- Choosing where to go; every story starts here. -/
def planning : Phase := ⟨"planning"⟩

/-- A phase of the order together with what players are shown. -/
structure Entry where
  name : String
  title : String
  summary : String

/-- The seven phases with their titles. -/
def entries : List Entry :=
  [⟨"planning", "Planning", "Browse destinations and pick where to go."⟩,
   ⟨"booking", "Booking", "Choose a flight and a seat."⟩,
   ⟨"departure", "Departure", "Pack, get to the airport, check in."⟩,
   ⟨"traveling", "Traveling", "The flight itself."⟩,
   ⟨"destination", "Destination", "Explore, meet the locals, collect memories."⟩,
   ⟨"return", "Return", "Say goodbye and head back."⟩,
   ⟨"home", "Home", "Look back on the journey."⟩]

/-- The seven phases, in order. -/
def order : List Phase := entries.map fun e => ⟨e.name⟩

/-- The phase of a name, if it is one of the seven. -/
def ofName? (name : String) : Option Phase := order.find? (·.name = name)

/-- The position of a phase in the order. -/
def index? (p : Phase) : Option Nat := order.findIdx? (· = p)

/-- What players are shown of a phase. -/
def entry? (p : Phase) : Option Entry := entries.find? (·.name = p.name)

/-- A phase read by name has that name. -/
theorem name_of_ofName? {name : String} {p : Phase} (h : ofName? name = some p) :
    p.name = name := by
  have := List.find?_some h
  simpa using this

end Phase

end Storyline
