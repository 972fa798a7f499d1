import Storyline.Dialog
import Storyline.Scene
import Storyline.Text.Quoted

/-!
# Content packs and their index

A pack is what authors write: scenes and scripts.  The index of a pack answers every
lookup of the stage by id or by phase, and a lookup that misses gives nothing.  Each
node in the index carries the id of the script that it was written in.

- `Pack`: scenes and scripts, with `read` and `toJson`;
- `Index.ofPack`: the index, if no id is used twice;
- `Index.scene?`, `Index.script?`, `Index.node?`, `Index.scriptOfNode?`: lookups by
  id;
- `Index.phaseScene?`, `Index.phaseScript?`: the first scene and script of a phase.
-/

namespace Storyline.Content

/-- The scenes and scripts of a story. -/
structure Pack where
  scenes : List Scene
  scripts : List Script

namespace Pack

/-- A pack in JSON. -/
def toJson (p : Pack) : Json :=
  .obj [("scenes", .arr (p.scenes.map Scene.toJson)),
    ("scripts", .arr (p.scripts.map Script.toJson))]

open Schema in
/-- A pack from its record. -/
def read : Reader Pack := ofRecord fun ms =>
  Pack.mk <$> withDefault "scenes" [] (list Scene.read) ms
    <*> withDefault "scripts" [] (list Script.read) ms

end Pack

/-- An id that a pack uses twice. -/
inductive Duplicate where
  | scene (id : String)
  | script (id : String)
  | node (id : String) (scriptId : String)
  deriving DecidableEq, Repr

/-- The wording of the fault. -/
def Duplicate.message : Duplicate → String
  | .scene id => "Duplicate scene id " ++ Text.quote id
  | .script id => "Duplicate dialog script id " ++ Text.quote id
  | .node id scriptId =>
    "Duplicate dialog node id " ++ Text.quote id ++ " (script " ++ Text.quote scriptId ++ ")"

/-- The records of a pack by id and by phase. -/
structure Index where
  scenes : Table Scene
  scripts : Table Script
  nodes : Table DialogNode
  phaseScenes : Table Scene
  phaseScripts : Table Script

namespace Index

/-- The index of an empty pack. -/
def empty : Index := ⟨∅, ∅, ∅, ∅, ∅⟩

instance : Inhabited Index := ⟨empty⟩

/-- Add a scene; the first scene of a phase is where the phase starts. -/
def addScene (i : Index) (s : Scene) : Except Duplicate Index :=
  if i.scenes.contains s.id then .error (.scene s.id)
  else .ok { i with
    scenes := i.scenes.insert s.id s
    phaseScenes := i.phaseScenes.insertIfNew s.phase.name s }

/-- Add the nodes of a script, marked as its own. -/
def addNodes (scriptId : String) :
    List DialogNode → Table DialogNode → Except Duplicate (Table DialogNode)
  | [], nodes => .ok nodes
  | n :: ns, nodes =>
    if nodes.contains n.id then .error (.node n.id scriptId)
    else addNodes scriptId ns (nodes.insert n.id (n.inScript scriptId))

/-- The script with its nodes marked as its own. -/
def owned (s : Script) : Script := { s with nodes := s.nodes.map (·.inScript s.id) }

/-- Add a script with its nodes; the first script of a phase is where its dialog
starts. -/
def addScript (i : Index) (s : Script) : Except Duplicate Index :=
  if i.scripts.contains s.id then .error (.script s.id)
  else (addNodes s.id s.nodes i.nodes).map fun nodes => { i with
    nodes := nodes
    scripts := i.scripts.insert s.id (owned s)
    phaseScripts := i.phaseScripts.insertIfNew s.phase.name (owned s) }

/-- The index of a pack.  Of several ids used twice, scenes are named before
scripts and the earlier one before the later. -/
def ofPack (p : Pack) : Except Duplicate Index := do
  let withScenes ← p.scenes.foldlM addScene empty
  p.scripts.foldlM addScript withScenes

/-- The scene of an id. -/
def scene? (i : Index) (sceneId : String) : Option Scene := i.scenes.get? sceneId

/-- The script of an id. -/
def script? (i : Index) (scriptId : String) : Option Script := i.scripts.get? scriptId

/-- The node of an id. -/
def node? (i : Index) (nodeId : String) : Option DialogNode := i.nodes.get? nodeId

/-- The scene that a phase starts in. -/
def phaseScene? (i : Index) (p : Phase) : Option Scene := i.phaseScenes.get? p.name

/-- The script that a phase starts with. -/
def phaseScript? (i : Index) (p : Phase) : Option Script := i.phaseScripts.get? p.name

/-- The script that a node was written in. -/
def scriptOfNode? (i : Index) (nodeId : String) : Option Script :=
  (i.node? nodeId).bind fun n => n.scriptId.bind i.script?

/-- The same content, where the scripts that phases start with hand out their nodes
unmarked. -/
def withUnmarkedPhaseScripts (i : Index) : Index :=
  { i with
    phaseScripts := Table.ofList <| i.phaseScripts.entries.map fun e =>
      (e.1, { e.2 with nodes := e.2.nodes.map fun n => { n with scriptId := none } }) }

end Index

end Storyline.Content
