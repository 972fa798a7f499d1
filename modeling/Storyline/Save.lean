import Storyline.Item
import Storyline.Json.Writer

/-!
# Saves

A save is the durable record of one player's progress: who plays, where the story
stands, and everything collected on the way.

- `Save`: the record, with `read`, `toJson` and `toText`;
- `Save.item?`: an item of the inventory;
- `NewGame`: what is asked of a player before the first save.
-/

namespace Storyline

/-- Who plays. -/
structure Player where
  name : String
  avatar : Option String
  deriving DecidableEq, Repr

/-- What a new game starts from. -/
structure NewGame where
  playerName : String
  playerAvatar : Option String
  deriving DecidableEq, Repr

/-- The durable record of a player's progress. -/
structure Save where
  id : String
  version : Int
  createdAt : String
  updatedAt : String
  name : Option String
  thumbnail : Option String
  player : Player
  currentPhase : Phase
  currentSceneId : String
  currentDialogId : Option String
  currentDialogScriptId : Option String
  readDialogIds : List String
  inventory : List Item
  memories : List Memory
  achievements : List String
  flags : Flags
  playTime : Float

namespace Player

/-- A player in JSON. -/
def toJson (p : Player) : Json := .obj [("name", .str p.name), ("avatar", .ofOption p.avatar)]

open Schema in
/-- A player from a record. -/
def read : Reader Player := ofRecord fun ms =>
  Player.mk <$> required "name" string ms <*> orNone "avatar" string ms

end Player

namespace NewGame

/-- The start of a game in JSON. -/
def toJson (g : NewGame) : Json :=
  .obj [("player_name", .str g.playerName), ("player_avatar", .ofOption g.playerAvatar)]

open Schema in
/-- The start of a game from a record. -/
def read : Reader NewGame := ofRecord fun ms =>
  NewGame.mk <$> required "player_name" string ms <*> orNone "player_avatar" string ms

end NewGame

namespace Save

/-- The version of the layout in which saves are written. -/
def currentVersion : Int := 2

/-- The first item of an id in the inventory. -/
def item? (s : Save) (itemId : String) : Option Item := s.inventory.find? (·.id = itemId)

/-- A save in JSON. -/
def toJson (s : Save) : Json :=
  .obj [("id", .str s.id), ("version", .int s.version), ("created_at", .str s.createdAt),
    ("updated_at", .str s.updatedAt), ("name", .ofOption s.name),
    ("thumbnail", .ofOption s.thumbnail), ("player", s.player.toJson),
    ("current_phase", s.currentPhase.toJson), ("current_scene_id", .str s.currentSceneId),
    ("current_dialog_id", .ofOption s.currentDialogId),
    ("current_dialog_script_id", .ofOption s.currentDialogScriptId),
    ("read_dialog_ids", .texts s.readDialogIds),
    ("inventory", .arr (s.inventory.map Item.toJson)),
    ("memories", .arr (s.memories.map Memory.toJson)),
    ("achievements", .texts s.achievements), ("flags", s.flags.toJson),
    ("play_time", .float s.playTime)]

open Schema in
/-- A save from its record. -/
def read : Reader Save := ofRecord fun ms =>
  Save.mk <$> required "id" string ms
    <*> withDefault "version" currentVersion integer ms
    <*> required "created_at" string ms
    <*> required "updated_at" string ms
    <*> orNone "name" string ms
    <*> orNone "thumbnail" string ms
    <*> required "player" Player.read ms
    <*> required "current_phase" Phase.read ms
    <*> required "current_scene_id" string ms
    <*> orNone "current_dialog_id" string ms
    <*> orNone "current_dialog_script_id" string ms
    <*> withDefault "read_dialog_ids" [] (list string) ms
    <*> withDefault "inventory" [] (list Item.read) ms
    <*> withDefault "memories" [] (list Memory.read) ms
    <*> withDefault "achievements" [] (list string) ms
    <*> withDefault "flags" ∅ Flags.read ms
    <*> withDefault "play_time" 0.0 number ms

/-- The text under which a save is stored. -/
def toText (s : Save) : String := s.toJson.write .compact

end Save

end Storyline
