import Storyline.Stage.Basic
import Storyline.Stage.Spot

/-!
# Running a dialog

A dialog is entered at the start of a script and goes on node by node.  Advancing
does the first of these that applies: the text is revealed; the choices are shown;
the next node is taken; the dialog ends.

- `Stage.startDialog`, `Stage.endDialog`;
- `Stage.advanceDialog`, `Stage.makeChoice`: the ways from node to node;
- `Stage.moveTo`: what both do.

Backgrounds and sprites stay until a node brings others.
-/

namespace Storyline.Stage

/-- The pictures of a node over those that are shown. -/
def withPictures (n : DialogNode) (v : View) : View :=
  { v with
    background := nonempty n.background <|> v.background
    characterSprite := nonempty n.characterSprite <|> v.characterSprite }

/-- Start the dialog of a script.  An unknown script, and one without its start node,
change nothing. -/
def startDialog (s : Stage) (scriptId : String) : Option DialogNode × Stage :=
  match s.content.scriptSpot? scriptId with
  | none => (none, s)
  | some spot =>
    let stood := s.changeSave fun save =>
      { save with
        currentDialogId := some spot.node.id
        currentDialogScriptId := some spot.script.id }
    (some spot.node,
      stood.changeView fun v =>
        { withPictures spot.node v with
          showDialog := true
          showChoices := ! spot.node.choices.isEmpty
          node := some spot.node
          script := some spot.script
          typewriterComplete := false })

/-- The ids of read nodes with one more. -/
def markRead (nodeId : String) (ids : List String) : List String :=
  if ids.contains nodeId then ids else ids ++ [nodeId]

/-- Leave a node for another one; the node that is left counts as read. -/
def moveTo (s : Stage) (current target : DialogNode) : Stage :=
  let moved := s.changeSave fun save =>
    { save with
      readDialogIds := markRead current.id save.readDialogIds
      currentDialogId := some target.id }
  moved.changeView fun v =>
    { withPictures target v with
      node := some target
      showChoices := ! target.choices.isEmpty
      typewriterComplete := false }

/-- End the dialog. -/
def endDialog (s : Stage) : Stage :=
  let stood := s.changeSave fun save =>
    { save with currentDialogId := none, currentDialogScriptId := none }
  stood.changeView fun v =>
    { v with
      showDialog := false
      showChoices := false
      node := none
      script := none
      typewriterComplete := false }

/-- Show the text of the node as a whole. -/
def completeTypewriter (s : Stage) : Stage :=
  s.changeView fun v => { v with typewriterComplete := true }

/-- The node that a node names as its next one, in a script. -/
def nextNode? (script : Option Script) (n : DialogNode) : Option DialogNode := do
  let script ← script
  let nextId ← nonempty n.next
  script.node? nextId

/-- Advance the dialog; the result is the node at which it then stands. -/
def advanceDialog (s : Stage) : Option DialogNode × Stage :=
  match s.view.node with
  | none => (none, s)
  | some n =>
    if ! s.view.typewriterComplete then (some n, s.completeTypewriter)
    else if ! n.choices.isEmpty then
      (some n, s.changeView fun v => { v with showChoices := true })
    else
      match nextNode? s.view.script n with
      | some target => (some target, s.moveTo n target)
      | none => (none, s.endDialog)

/-- The node that the first choice of an id leads to, in a script. -/
def chosenNode? (script : Script) (n : DialogNode) (choiceId : String) : Option DialogNode := do
  let choice ← n.choice? choiceId
  script.node? choice.nextId

/-- Follow a choice of the current node.  A choice that leads nowhere changes
nothing. -/
def makeChoice (s : Stage) (choiceId : String) : Option DialogNode × Stage :=
  match s.view.node, s.view.script with
  | some n, some script =>
    match chosenNode? script n choiceId with
    | some target => (some target, s.moveTo n target)
    | none => (none, s)
  | _, _ => (none, s)

end Storyline.Stage
