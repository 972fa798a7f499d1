import Storyline.Item

/-!
# Dialogs

A script is a list of nodes, each one beat of speech or narration.  A node goes on
to the node it names as its next one, or offers choices, each of which names the
node it leads to.

- `Choice`, `DialogNode`, `Script`: the records;
- `DialogNode.choice?`: the first choice of an id;
- `Script.node?`: the first node of an id, where the empty id names no node;
- `read` and `toJson` of each.
-/

namespace Storyline

/-- The mood of a speaker. -/
inductive Emotion where
  | neutral
  | happy
  | sad
  | surprised
  | angry
  | thinking
  | excited
  deriving DecidableEq, Repr

/-- All moods. -/
def Emotion.all : List Emotion :=
  [.neutral, .happy, .sad, .surprised, .angry, .thinking, .excited]

/-- The name of a mood. -/
def Emotion.name : Emotion → String
  | .neutral => "neutral"
  | .happy => "happy"
  | .sad => "sad"
  | .surprised => "surprised"
  | .angry => "angry"
  | .thinking => "thinking"
  | .excited => "excited"

/-- The mood of a name. -/
def Emotion.ofName? (name : String) : Option Emotion := all.find? (·.name = name)

/-- An answer that the player may pick. -/
structure Choice where
  id : String
  text : String
  nextId : String
  condition : Option String
  effects : List Effect

/-- One beat of narration or speech.  `scriptId` is the script that the content
index found it in. -/
structure DialogNode where
  id : String
  speaker : String
  text : String
  emotion : Option Emotion
  background : Option String
  characterSprite : Option String
  choices : List Choice
  next : Option String
  effects : List Effect
  autoAdvance : Bool
  autoAdvanceDelay : Option Int
  scriptId : Option String

/-- A dialog: its nodes, and the id of the one it starts with. -/
structure Script where
  id : String
  phase : Phase
  title : String
  startNodeId : String
  nodes : List DialogNode

/-- The text of an optional id or path, where an empty one counts as none. -/
def nonempty (s : Option String) : Option String := s.filter (· != "")

namespace Choice

/-- A choice in JSON. -/
def toJson (c : Choice) : Json :=
  .obj [("id", .str c.id), ("text", .str c.text), ("next_id", .str c.nextId),
    ("condition", .ofOption c.condition), ("effects", .arr (c.effects.map Effect.toJson))]

open Schema in
/-- A choice from its record. -/
def read : Reader Choice := ofRecord fun ms =>
  Choice.mk <$> required "id" string ms
    <*> required "text" string ms
    <*> required "next_id" string ms
    <*> orNone "condition" string ms
    <*> withDefault "effects" [] (list Effect.read) ms

end Choice

namespace DialogNode

/-- The first choice of an id. -/
def choice? (n : DialogNode) (choiceId : String) : Option Choice :=
  n.choices.find? (·.id = choiceId)

/-- The node as found in a script. -/
def inScript (n : DialogNode) (scriptId : String) : DialogNode :=
  { n with scriptId := some scriptId }

/-- A node in JSON. -/
def toJson (n : DialogNode) : Json :=
  .obj [("id", .str n.id), ("speaker", .str n.speaker), ("text", .str n.text),
    ("emotion", .ofOption (n.emotion.map Emotion.name)), ("background", .ofOption n.background),
    ("character_sprite", .ofOption n.characterSprite),
    ("choices", .arr (n.choices.map Choice.toJson)), ("next", .ofOption n.next),
    ("effects", .arr (n.effects.map Effect.toJson)), ("auto_advance", .bool n.autoAdvance),
    ("auto_advance_delay", n.autoAdvanceDelay.elim .null .int),
    ("script_id", .ofOption n.scriptId)]

open Schema in
/-- A node from its record. -/
def read : Reader DialogNode := ofRecord fun ms =>
  DialogNode.mk <$> required "id" string ms
    <*> withDefault "speaker" "narrator" string ms
    <*> withDefault "text" "" string ms
    <*> orNone "emotion" (oneOf Emotion.ofName?) ms
    <*> orNone "background" string ms
    <*> orNone "character_sprite" string ms
    <*> withDefault "choices" [] (list Choice.read) ms
    <*> orNone "next" string ms
    <*> withDefault "effects" [] (list Effect.read) ms
    <*> withDefault "auto_advance" false switch ms
    <*> orNone "auto_advance_delay" integer ms
    <*> orNone "script_id" string ms

@[simp] theorem id_inScript (n : DialogNode) (scriptId : String) :
    (n.inScript scriptId).id = n.id := rfl

end DialogNode

namespace Script

/-- The first node of an id.  The empty id names no node. -/
def node? (s : Script) (nodeId : String) : Option DialogNode :=
  if nodeId = "" then none else s.nodes.find? (·.id = nodeId)

/-- The node of an optional id. -/
def nodeOf? (s : Script) (nodeId : Option String) : Option DialogNode := nodeId.bind s.node?

/-- The node that the script starts with. -/
def start? (s : Script) : Option DialogNode := s.node? s.startNodeId

/-- A script in JSON. -/
def toJson (s : Script) : Json :=
  .obj [("id", .str s.id), ("phase", s.phase.toJson), ("title", .str s.title),
    ("start_node_id", .str s.startNodeId), ("nodes", .arr (s.nodes.map DialogNode.toJson))]

open Schema in
/-- A script from its record. -/
def read : Reader Script := ofRecord fun ms =>
  Script.mk <$> required "id" string ms
    <*> required "phase" Phase.read ms
    <*> withDefault "title" "" string ms
    <*> required "start_node_id" string ms
    <*> withDefault "nodes" [] (list DialogNode.read) ms

theorem node?_empty (s : Script) : s.node? "" = none := rfl

/-- A node that is found has the id it was looked up by. -/
theorem id_of_node? {s : Script} {nodeId : String} {n : DialogNode}
    (h : s.node? nodeId = some n) : n.id = nodeId := by
  unfold node? at h
  split at h
  · cases h
  · simpa using List.find?_some h

/-- A node that is found is a node of the script. -/
theorem mem_of_node? {s : Script} {nodeId : String} {n : DialogNode}
    (h : s.node? nodeId = some n) : n ∈ s.nodes := by
  unfold node? at h
  split at h
  · cases h
  · exact List.mem_of_find?_eq_some h

end Script

end Storyline
