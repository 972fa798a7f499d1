import Storyline.Save
import Storyline.Template.Render

/-!
# The text of dialogs

Dialog text may name what the live save knows: the player, the flags, the phase and
the scene.

- `textContext`: what a text can name;
- `renderText`: the text as the player reads it;
- `TextFault`: a text that cannot be shown.
-/

namespace Storyline

/-- A text that cannot be shown. -/
inductive TextFault where
  | unreadable
  deriving DecidableEq, Repr

/-- The wording of the fault. -/
def TextFault.message : TextFault → String
  | .unreadable => "Dialog text error"

/-- What a text can name; without a save all of it is empty. -/
def textContext : Option Save → Json
  | none => .obj [("player", .obj []), ("flags", .obj []), ("phase", .str ""), ("scene_id", .str "")]
  | some save =>
    .obj [("player", .obj [("name", .str save.player.name),
        ("avatar", .str (save.player.avatar.getD ""))]),
      ("flags", save.flags.toJson), ("phase", .str save.currentPhase.name),
      ("scene_id", .str save.currentSceneId)]

/-- A text holds the start of a tag. -/
def hasTag (text : List Char) : Bool :=
  match text with
  | [] => false
  | c :: cs => Template.tagStart.isPrefixOf (c :: cs) || hasTag cs

/-- A text as the player reads it.  A text without tags is read as it is. -/
def renderText (text : String) (save : Option Save) : Except TextFault String :=
  if hasTag text.toList then
    match Template.render? text (textContext save) with
    | some t => .ok t
    | none => .error .unreadable
  else .ok text

@[simp] theorem renderText_of_not_hasTag {text : String} (h : hasTag text.toList = false)
    (save : Option Save) : renderText text save = .ok text := by
  simp [renderText, h]

end Storyline
