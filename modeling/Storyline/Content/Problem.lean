import Storyline.Content.Index

/-!
# Problems of a pack

What an author should mend before a story is played: references that lead nowhere,
and nodes that have both a next node and choices.

- `Problem`: what can be wrong, and its wording;
- `Index.problems`: everything that is wrong with a pack, in the order of the pack.
-/

namespace Storyline.Content

/-- Something that an author should mend. -/
inductive Problem where
  | entryDialog (sceneId nodeId : String)
  | entryScript (sceneId scriptId : String)
  | startNode (scriptId nodeId : String)
  | nextAndChoices (nodeId : String)
  | nextNode (nodeId next scriptId : String)
  | choiceTarget (nodeId choiceId target scriptId : String)
  | unknownScene (nodeId sceneId : String)
  deriving DecidableEq, Repr

/-- The wording of a problem. -/
def Problem.message : Problem → String
  | .entryDialog sceneId nodeId =>
    "scene " ++ sceneId ++ ": entry dialog " ++ Text.quote nodeId ++ " does not exist"
  | .entryScript sceneId scriptId =>
    "scene " ++ sceneId ++ ": entry script " ++ Text.quote scriptId ++ " does not exist"
  | .startNode scriptId nodeId =>
    "script " ++ scriptId ++ ": start node " ++ Text.quote nodeId ++ " is not in the script"
  | .nextAndChoices nodeId => "node " ++ nodeId ++ ": has both next and choices"
  | .nextNode nodeId next scriptId =>
    "node " ++ nodeId ++ ": next " ++ Text.quote next ++ " is not in script " ++ scriptId
  | .choiceTarget nodeId choiceId target scriptId =>
    "node " ++ nodeId ++ ": choice " ++ choiceId ++ " targets " ++ Text.quote target
      ++ ", not in script " ++ scriptId
  | .unknownScene nodeId sceneId =>
    "node " ++ nodeId ++ ": change_scene to unknown scene " ++ Text.quote sceneId

namespace Index

/-- A problem, if there is one. -/
def problemIf (wrong : Bool) (p : Problem) : List Problem := if wrong then [p] else []

/-- The problems of a scene: what it names has to exist. -/
def sceneProblems (i : Index) (s : Scene) : List Problem :=
  let entryDialog := (nonempty s.entryDialogId).toList.flatMap fun nodeId =>
    problemIf (i.node? nodeId).isNone (.entryDialog s.id nodeId)
  let entryScript := (nonempty s.entryScriptId).toList.flatMap fun scriptId =>
    problemIf (i.script? scriptId).isNone (.entryScript s.id scriptId)
  entryDialog ++ entryScript

/-- The problems of the effects at a node: a scene that is changed to has to
exist. -/
def effectProblems (i : Index) (nodeId : String) (es : List Effect) : List Problem :=
  es.flatMap fun e =>
    match e with
    | .changeScene sceneId =>
      problemIf (i.scene? sceneId).isNone (.unknownScene nodeId sceneId)
    | _ => []

/-- The problems of a node of a script: what it leads to has to be in the
script. -/
def nodeProblems (i : Index) (s : Script) (n : DialogNode) : List Problem :=
  let next := (nonempty n.next).toList.flatMap fun next =>
    problemIf (! n.choices.isEmpty) (.nextAndChoices n.id)
      ++ problemIf (s.node? next).isNone (.nextNode n.id next s.id)
  let targets := n.choices.flatMap fun c =>
    problemIf (s.node? c.nextId).isNone (.choiceTarget n.id c.id c.nextId s.id)
  next ++ targets ++ i.effectProblems n.id n.effects
    ++ n.choices.flatMap fun c => i.effectProblems n.id c.effects

/-- The problems of a script: the node it starts with has to be in it. -/
def scriptProblems (i : Index) (s : Script) : List Problem :=
  problemIf s.start?.isNone (.startNode s.id s.startNodeId)
    ++ s.nodes.flatMap (i.nodeProblems s)

/-- Everything that is wrong, scenes before scripts. -/
def problems (i : Index) : List Problem :=
  i.scenes.values.flatMap i.sceneProblems ++ i.scripts.values.flatMap i.scriptProblems

end Index

end Storyline.Content
