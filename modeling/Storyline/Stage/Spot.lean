import Storyline.Content.Index
import Storyline.Save

/-!
# Spots

A spot is a place in a dialog: a node together with the script that it is found in.
Where a scene, a phase, a script or a save leads to a spot, the spot is looked up in
the content; what leads nowhere gives no spot.

- `Spot`: the pair;
- `sceneSpot?`: where a scene enters its dialog;
- `phaseSpot?`: where a phase starts;
- `scriptSpot?`: where a script starts;
- `savedSpot?`: where a save stands.

An empty id is no id.
-/

namespace Storyline

/-- A node and the script that it is found in. -/
structure Spot where
  node : DialogNode
  script : Script

namespace Content.Index

/-- The script in which a scene's dialog is looked for: the one that the scene names,
or else the one that its node was written in. -/
def entryScript? (i : Index) (s : Scene) : Option Script :=
  match nonempty s.entryScriptId with
  | some scriptId => i.script? scriptId
  | none => (nonempty s.entryDialogId).bind i.scriptOfNode?

/-- The spot at which a scene enters its dialog. -/
def sceneSpot? (i : Index) (s : Scene) : Option Spot := do
  let nodeId ← nonempty s.entryDialogId
  let script ← i.entryScript? s
  let node ← script.node? nodeId
  return ⟨node, script⟩

/-- The spot at which a script starts. -/
def startSpot? (script : Script) : Option Spot := script.start?.map (⟨·, script⟩)

/-- The spot at which a phase starts. -/
def phaseSpot? (i : Index) (p : Phase) : Option Spot := (i.phaseScript? p).bind startSpot?

/-- The spot at which a script of the content starts. -/
def scriptSpot? (i : Index) (scriptId : String) : Option Spot :=
  (i.script? scriptId).bind startSpot?

/-- The spot at which a save stands. -/
def savedSpot? (i : Index) (save : Save) : Option Spot := do
  let scriptId ← nonempty save.currentDialogScriptId
  let script ← i.script? scriptId
  let node ← script.nodeOf? save.currentDialogId
  return ⟨node, script⟩

end Content.Index

end Storyline
