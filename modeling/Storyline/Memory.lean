import Storyline.Phase
import Storyline.Schema.Scalars

/-!
# Memories

A memory is a moment that the player has collected: a picture with a title.

- `Memory.read`, `Memory.toJson`: from and to JSON.
-/

namespace Storyline

/-- A collected moment. -/
structure Memory where
  id : String
  title : String
  description : String
  image : String
  acquiredAt : String
  sceneId : String
  phase : Option Phase
  deriving DecidableEq, Repr

/-- One of the seven phases, by name. -/
def Phase.read : Schema.Reader Phase := Schema.oneOf Phase.ofName?

/-- A phase in JSON. -/
def Phase.toJson (p : Phase) : Json := .str p.name

namespace Memory

open Schema in
/-- A memory from its record. -/
def read : Reader Memory := ofRecord fun ms =>
  Memory.mk <$> required "id" string ms
    <*> withDefault "title" "" string ms
    <*> withDefault "description" "" string ms
    <*> withDefault "image" "" string ms
    <*> withDefault "acquired_at" "" string ms
    <*> withDefault "scene_id" "" string ms
    <*> orNone "phase" Phase.read ms

/-- The members of the record of a memory. -/
def members (m : Memory) : Json.Members :=
  [("id", .str m.id), ("title", .str m.title), ("description", .str m.description),
   ("image", .str m.image), ("acquired_at", .str m.acquiredAt), ("scene_id", .str m.sceneId),
   ("phase", m.phase.elim .null Phase.toJson)]

/-- A memory in JSON. -/
def toJson (m : Memory) : Json := .obj m.members

end Memory

end Storyline
