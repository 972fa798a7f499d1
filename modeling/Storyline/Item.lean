import Storyline.Flag
import Storyline.Memory

/-!
# Items and effects

An item lies in the inventory in some quantity and may carry effects for when it is
used; an effect changes a save, and one of them adds an item.  So the two are
defined together.

- `Item`, `Effect`: the two types;
- `Effect.kind`: the name of an effect's kind;
- `Item.toJson`, `Effect.toJson`: records in JSON;
- `Item.read`, `Effect.read`: records from JSON.

Reading follows the nesting of items inside effects inside items, which the depth
of the JSON value bounds.
-/

namespace Storyline

/-- What an item is. -/
inductive ItemKind where
  | ticket
  | souvenir
  | photo
  | document
  | consumable
  | keyItem
  deriving DecidableEq, Repr

/-- All kinds of item. -/
def ItemKind.all : List ItemKind := [.ticket, .souvenir, .photo, .document, .consumable, .keyItem]

/-- The name of a kind of item. -/
def ItemKind.name : ItemKind → String
  | .ticket => "ticket"
  | .souvenir => "souvenir"
  | .photo => "photo"
  | .document => "document"
  | .consumable => "consumable"
  | .keyItem => "key_item"

/-- The kind of item of a name. -/
def ItemKind.ofName? (name : String) : Option ItemKind := all.find? (·.name = name)

mutual

/-- A thing in the inventory. -/
structure Item where
  id : String
  name : String
  description : String
  kind : ItemKind
  icon : String
  quantity : Int
  usable : Bool
  useEffects : List Effect

/-- Something that happens to a save or to the stage. -/
inductive Effect where
  | setFlag (key : String) (value : FlagValue)
  | addItem (item : Item)
  | removeItem (itemId : String) (quantity : Int)
  | addMemory (memory : Memory)
  | unlockAchievement (achievementId : String)
  | changeScene (sceneId : String)
  | changePhase (phase : Phase)
  | playSound (sound : String)
  | shakeScreen (intensity : Float) (duration : Int)

end

/-- The name of an effect's kind. -/
def Effect.kind : Effect → String
  | .setFlag .. => "set_flag"
  | .addItem .. => "add_item"
  | .removeItem .. => "remove_item"
  | .addMemory .. => "add_memory"
  | .unlockAchievement .. => "unlock_achievement"
  | .changeScene .. => "change_scene"
  | .changePhase .. => "change_phase"
  | .playSound .. => "play_sound"
  | .shakeScreen .. => "shake_screen"

/-- Effects that move the dialog: they need the content and are not part of the
save's own rules. -/
def Effect.isControl : Effect → Bool
  | .changeScene .. | .changePhase .. => true
  | _ => false

/-- The payload of a removal. -/
def removalMembers (itemId : String) (quantity : Int) : Json.Members :=
  [("item_id", .str itemId), ("quantity", .int quantity)]

/-- The payload of a flag's setting. -/
def settingMembers (key : String) (value : FlagValue) : Json.Members :=
  [("key", .str key), ("value", value.toJson)]

/-- An effect's record around its payload. -/
def effectRecord (kind : String) (payload : Json.Members) : Json :=
  .obj [("type", .str kind), ("payload", .obj payload)]

mutual

/-- The members of an item's record. -/
def Item.members (i : Item) : Json.Members :=
  match i with
  | ⟨id, name, description, kind, icon, quantity, usable, useEffects⟩ =>
    [("id", .str id), ("name", .str name), ("description", .str description),
     ("type", .str kind.name), ("icon", .str icon), ("quantity", .int quantity),
     ("usable", .bool usable), ("use_effects", .arr (effectsJson useEffects))]

/-- The members of an effect's payload. -/
def Effect.payload (e : Effect) : Json.Members :=
  match e with
  | .setFlag key value => settingMembers key value
  | .addItem item => [("item", .obj item.members)]
  | .removeItem itemId quantity => removalMembers itemId quantity
  | .addMemory memory => [("memory", memory.toJson)]
  | .unlockAchievement achievementId => [("achievement_id", .str achievementId)]
  | .changeScene sceneId => [("scene_id", .str sceneId)]
  | .changePhase phase => [("phase", phase.toJson)]
  | .playSound sound => [("sound", .str sound)]
  | .shakeScreen intensity duration => [("intensity", .float intensity), ("duration", .int duration)]

/-- Effects as records. -/
def effectsJson : List Effect → List Json
  | [] => []
  | e :: es => effectRecord e.kind e.payload :: effectsJson es

end

/-- An effect in JSON. -/
def Effect.toJson (e : Effect) : Json := effectRecord e.kind e.payload

/-- An item in JSON. -/
def Item.toJson (i : Item) : Json := .obj i.members

theorem effectsJson_eq_map (es : List Effect) : effectsJson es = es.map Effect.toJson := by
  induction es with
  | nil => simp [effectsJson]
  | cons e es ih => simp [effectsJson, Effect.toJson, ih]

namespace Schema

/-- The payload of a flag's setting. -/
def setting (ms : Json.Members) : Checked (String × FlagValue) :=
  Prod.mk <$> required "key" string ms <*> required "value" FlagValue.read ms

/-- The payload of a removal: at least one is taken, and one if nothing is
said. -/
def removal (ms : Json.Members) : Checked (String × Int) :=
  Prod.mk <$> required "item_id" string ms <*> withDefault "quantity" 1 (integerAtLeast 1) ms

/-- A payload that is a record; one that may be left out reads as an empty one. -/
def inPayload {α : Type} (mayBeAbsent : Bool) (read : Json.Members → Checked α)
    (ms : Json.Members) : Checked α :=
  match ms.get? "payload" with
  | some v => (ofRecord read v).inMember "payload"
  | none => if mayBeAbsent then read [] else .bad [⟨.missing, [.member "payload"]⟩]

end Schema

open Schema

/-- The payloads of the kinds of effect, for a given reading of items. -/
def Effect.readPayload? (readItem : Reader Item) :
    String → Option (Json.Members → Checked Effect)
  | "set_flag" => some fun ms => (fun s => Effect.setFlag s.1 s.2) <$> setting ms
  | "add_item" => some fun ms => Effect.addItem <$> required "item" readItem ms
  | "remove_item" => some fun ms => (fun r => Effect.removeItem r.1 r.2) <$> removal ms
  | "add_memory" => some fun ms => Effect.addMemory <$> required "memory" Memory.read ms
  | "unlock_achievement" =>
    some fun ms => Effect.unlockAchievement <$> required "achievement_id" string ms
  | "change_scene" => some fun ms => Effect.changeScene <$> required "scene_id" string ms
  | "change_phase" => some fun ms => Effect.changePhase <$> required "phase" Phase.read ms
  | "play_sound" => some fun ms => Effect.playSound <$> withDefault "sound" "" string ms
  | "shake_screen" =>
    some fun ms => Effect.shakeScreen <$> withDefault "intensity" 1.0 number ms
      <*> withDefault "duration" 300 integer ms
  | _ => none

/-- The kinds of effect whose payload may be left out. -/
def Effect.hasPlainForm (kind : String) : Bool := kind = "play_sound" || kind = "shake_screen"

/-- The record of an effect of a kind, for a given reading of items. -/
def Effect.readKind? (readItem : Reader Item) (kind : String) :
    Option (Json.Members → Checked Effect) :=
  (Effect.readPayload? readItem kind).map (inPayload (Effect.hasPlainForm kind))

/-- An effect's record, for a given reading of items. -/
def Effect.readWith (readItem : Reader Item) : Reader Effect :=
  tagged (Effect.readKind? readItem)

/-- The members of an item's record, for a given reading of effects. -/
def Item.readMembers (readEffect : Reader Effect) (ms : Json.Members) : Checked Item :=
  Item.mk <$> required "id" string ms
    <*> withDefault "name" "" string ms
    <*> withDefault "description" "" string ms
    <*> withDefault "type" .keyItem (oneOf ItemKind.ofName?) ms
    <*> withDefault "icon" "" string ms
    <*> withDefault "quantity" 1 (integerAtLeast 0) ms
    <*> withDefault "usable" false switch ms
    <*> withDefault "use_effects" [] (list readEffect) ms

/-- An item's record with items nested at most `fuel` deep. -/
def Item.readWithin (fuel : Nat) : Reader Item :=
  match fuel with
  | 0 => fun _ => .fail .notRecord
  | n + 1 => ofRecord (Item.readMembers (Effect.readWith (Item.readWithin n)))

/-- An item from its record. -/
def Item.read : Reader Item := fun v => Item.readWithin (v.depth + 1) v

/-- An effect from its record. -/
def Effect.read : Reader Effect := fun v => Effect.readWith (Item.readWithin (v.depth + 1)) v

theorem ItemKind.ofName?_name (k : ItemKind) : ItemKind.ofName? k.name = some k := by
  cases k <;> decide

end Storyline
