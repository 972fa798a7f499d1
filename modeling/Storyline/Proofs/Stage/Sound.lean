import Storyline.Proofs.Save.Valid
import Storyline.Proofs.Stage.Position

/-!
# Valid saves on a stage

Where content, commands and loaded saves are valid, so is the live save after any
command: every change keeps its phase among the seven and its quantities in bounds.

* `Content.Index.Valid`: the nodes at all spots are valid;
* `Save.Valid.addItem`, `Save.Valid.removeItem`, …: the rules of a save keep it valid;
* `Stage.Command.Valid`, `Stage.Sound`: valid commands, and what a stage keeps;
* `Stage.sound_perform`: a valid command keeps it.
-/

namespace Storyline

open Content

/-- The nodes at all spots of the content are valid. -/
def Content.Index.Valid (i : Index) : Prop := ∀ p, i.HasSpot p → p.node.Valid

/-- The content of a pack that was read is valid. -/
theorem Content.Index.valid_of_ofPack {v : Json} {p : Pack} {i : Index}
    (hv : Pack.read v = .good p) (hp : Index.ofPack p = .ok i) : i.Valid := by
  rintro spot ⟨hscript, hnode⟩
  obtain ⟨s, hs, hscript⟩ := Index.exists_of_script? hp hscript
  have hmem : spot.node ∈ (Index.owned s).nodes := hscript ▸ Script.mem_of_node? hnode
  obtain ⟨n, hn, hnode⟩ := List.mem_map.mp hmem
  have hvalid : n.Valid := Pack.scripts_of_read hv s hs n hn
  rw [← hnode]
  exact ⟨hvalid.effects, hvalid.choices⟩

/-! ## The rules of a save -/

section Rules

variable {i j : Item} {s : Save}

/-- An item of which there is some other quantity. -/
theorem Item.Valid.withQuantity (h : i.Valid) {quantity : Int} (hq : 0 ≤ quantity) :
    ({ i with quantity := quantity } : Item).Valid :=
  Item.valid_iff.mpr ⟨hq, (Item.valid_iff.mp h).2⟩

theorem Save.Valid.setFlag (h : s.Valid) (key : String) (value : FlagValue) :
    (s.setFlag key value).Valid :=
  ⟨h.version, h.phase, h.inventory, h.memories⟩

theorem Save.Valid.addItem (h : s.Valid) (hj : j.Valid) : (s.addItem j).Valid := by
  refine ⟨h.version, h.phase, fun i hi => ?_, h.memories⟩
  rw [Save.inventory_addItem, Save.stack] at hi
  split at hi
  · obtain ⟨k, hk, rfl⟩ := List.mem_map.mp hi
    have hkv := h.inventory k hk
    split
    · have hkq := (Item.valid_iff.mp hkv).1
      have hjq := (Item.valid_iff.mp hj).1
      exact hkv.withQuantity (by omega)
    · exact hkv
  · rcases List.mem_append.mp hi with hi | hi
    · exact h.inventory i hi
    · rw [List.mem_singleton.mp hi]
      exact hj

theorem Save.Valid.removeItem (h : s.Valid) (itemId : String) (quantity : Int) :
    (s.removeItem itemId quantity).Valid := by
  refine ⟨h.version, h.phase, fun i hi => ?_, h.memories⟩
  rw [Save.inventory_removeItem] at hi
  obtain ⟨k, hk, hi⟩ := List.mem_filterMap.mp hi
  have hkv := h.inventory k hk
  unfold Save.taken at hi
  split at hi
  · rw [← Option.some_inj.mp hi]
    exact hkv
  · split at hi
    · rw [← Option.some_inj.mp hi]
      exact hkv.withQuantity (by omega)
    · cases hi

theorem Save.Valid.addMemory (h : s.Valid) {m : Memory} (hm : m.Valid) :
    (s.addMemory m).Valid := by
  unfold Save.addMemory
  split
  · exact h
  · refine ⟨h.version, h.phase, h.inventory, fun k hk => ?_⟩
    rcases List.mem_append.mp hk with hk | hk
    · exact h.memories k hk
    · rw [List.mem_singleton.mp hk]
      exact hm

theorem Save.Valid.unlockAchievement (h : s.Valid) (achievementId : String) :
    (s.unlockAchievement achievementId).Valid := by
  unfold Save.unlockAchievement
  split
  · exact h
  · exact ⟨h.version, h.phase, h.inventory, h.memories⟩

end Rules

namespace Stage

/-- What a command brings is valid. -/
def Command.Valid : Command → Prop
  | .loadSave save => save.Valid
  | .changePhase phase => phase.Known
  | .addItem item => item.Valid
  | .addMemory memory => memory.Valid
  | _ => True

/-- The live save is valid, if there is one. -/
def Live (s : Stage) : Prop := ∀ save ∈ s.view.save, save.Valid

section Live

variable {s : Stage}

theorem live_changeSave {f : Save → Save} (h : s.Live)
    (hf : ∀ save : Save, save.Valid → (f save).Valid) : (s.changeSave f).Live := by
  intro save hsave
  rw [view_changeSave] at hsave
  obtain ⟨old, hold, rfl⟩ := Option.map_eq_some_iff.mp hsave
  have hnew := hf old (h old hold)
  exact ⟨hnew.version, hnew.phase, hnew.inventory, hnew.memories⟩

theorem live_changeView {f : View → View} (h : s.Live) (hf : ∀ v, (f v).save = v.save) :
    (s.changeView f).Live := by
  intro save hsave
  rw [view_changeView, hf] at hsave
  exact h save hsave

theorem live_enter {scene : Option Scene} {spot : Option Spot} {change : Save → Save}
    (h : s.Live) (hf : ∀ save : Save, save.Valid → (change save).Valid) :
    (s.enter scene spot change).Live := by
  refine live_changeView (live_changeSave h fun save hsave => hf _ ?_) fun _ => rfl
  exact ⟨hsave.version, hsave.phase, hsave.inventory, hsave.memories⟩

theorem live_startNewGame (game : NewGame) (saveId : String) :
    (s.startNewGame game saveId).Live := by
  refine live_enter ?_ fun _ h => h
  intro save hsave
  have hnew : s.newSave game saveId = save := Option.some_inj.mp hsave
  rw [← hnew]
  exact ⟨rfl, Phase.known_planning, fun _ hi => absurd hi List.not_mem_nil,
    fun _ hm => absurd hm List.not_mem_nil⟩

theorem valid_dropSpot {save : Save} (h : save.Valid) : (dropSpot save).Valid := by
  unfold dropSpot
  split
  · exact ⟨h.version, h.phase, h.inventory, h.memories⟩
  · exact h

theorem live_loadSave {save : Save} (h : save.Valid) : (s.loadSave save).Live := by
  intro live hlive
  have hlive' : (if (s.content.savedSpot? save).isSome then save else dropSpot save) = live :=
    Option.some_inj.mp hlive
  rw [← hlive']
  split
  · exact h
  · exact valid_dropSpot h

theorem live_changePhase (h : s.Live) {phase : Phase} (hphase : phase.Known) :
    (s.changePhase phase).2.Live :=
  live_enter h fun _ hsave => ⟨hsave.version, hphase, hsave.inventory, hsave.memories⟩

theorem live_changeScene (h : s.Live) (sceneId : String) : (s.changeScene sceneId).2.Live := by
  unfold changeScene
  split
  · exact h
  · exact live_enter h fun _ hsave =>
      ⟨hsave.version, hsave.phase, hsave.inventory, hsave.memories⟩

/-- A change of the ids of the dialog, and of the view besides. -/
theorem live_move (h : s.Live) {f : Save → Save} {g : View → View}
    (hf : ∀ save : Save, save.Valid → (f save).Valid) (hg : ∀ v, (g v).save = v.save) :
    ((s.changeSave f).changeView g).Live :=
  live_changeView (live_changeSave h hf) hg

theorem live_startDialog (h : s.Live) (scriptId : String) :
    (s.startDialog scriptId).2.Live := by
  unfold startDialog
  split
  · exact h
  · exact live_move h (fun _ hs => ⟨hs.version, hs.phase, hs.inventory, hs.memories⟩)
      fun _ => rfl

theorem live_moveTo (h : s.Live) (current target : DialogNode) :
    (s.moveTo current target).Live :=
  live_move h (fun _ hs => ⟨hs.version, hs.phase, hs.inventory, hs.memories⟩) fun _ => rfl

theorem live_endDialog (h : s.Live) : s.endDialog.Live :=
  live_move h (fun _ hs => ⟨hs.version, hs.phase, hs.inventory, hs.memories⟩) fun _ => rfl

theorem live_advanceDialog (h : s.Live) : s.advanceDialog.2.Live := by
  unfold advanceDialog
  split
  · exact h
  · split
    · exact live_changeView h fun _ => rfl
    · split
      · exact live_changeView h fun _ => rfl
      · split
        · exact live_moveTo h _ _
        · exact live_endDialog h

theorem live_makeChoice (h : s.Live) (choiceId : String) : (s.makeChoice choiceId).2.Live := by
  unfold makeChoice
  split
  · split
    · exact live_moveTo h _ _
    · exact h
  · exact h

theorem live_addPlayTime (h : s.Live) (seconds : Float) : (s.addPlayTime seconds).Live := by
  unfold addPlayTime
  split
  · exact h
  · exact live_changeSave h fun _ hs => ⟨hs.version, hs.phase, hs.inventory, hs.memories⟩

/-- A valid command keeps the live save valid. -/
theorem live_perform (h : s.Live) {c : Command} (hc : c.Valid) : (s.perform c).2.Live := by
  cases c with
  | startNewGame game saveId => exact live_startNewGame game saveId
  | loadSave save => exact live_loadSave hc
  | changePhase phase => exact live_changePhase h hc
  | changeScene sceneId => exact live_changeScene h sceneId
  | startDialog scriptId => exact live_startDialog h scriptId
  | advanceDialog => exact live_advanceDialog h
  | makeChoice choiceId => exact live_makeChoice h choiceId
  | endDialog => exact live_endDialog h
  | addItem item => exact live_changeSave h fun _ hs => hs.addItem hc
  | removeItem itemId quantity => exact live_changeSave h fun _ hs => hs.removeItem itemId quantity
  | addMemory memory => exact live_changeSave h fun _ hs => hs.addMemory hc
  | unlockAchievement achievementId =>
    exact live_changeSave h fun _ hs => hs.unlockAchievement achievementId
  | setFlag key value => exact live_changeSave h fun _ hs => hs.setFlag key value
  | addPlayTime seconds => exact live_addPlayTime h seconds
  | setLoading _ => exact live_changeView h fun _ => rfl
  | completeTypewriter => exact live_changeView h fun _ => rfl
  | toggleMenu => exact live_changeView h fun _ => rfl
  | toggleInventory => exact live_changeView h fun _ => rfl
  | toggleMemories => exact live_changeView h fun _ => rfl

end Live

/-- The stage is over the content and stands at a spot of it, or at none, and its live
save is valid. -/
structure Sound (i : Index) (s : Stage) : Prop where
  content : s.content = i
  placed : ∃ spot, s.view.At i spot
  live : s.Live

section Sound

variable {i : Index} {s : Stage}

/-- Before any game a stage is sound. -/
theorem sound_ofContent (i : Index) (now : String) : (Stage.ofContent i now).Sound i :=
  ⟨rfl, ⟨none, View.at_initial i⟩, fun _ hsave => absurd hsave (Option.not_mem_none _)⟩

/-- A valid command keeps a stage sound. -/
theorem sound_perform (hi : i.Coherent) (h : s.Sound i) {c : Command} (hc : c.Valid) :
    (s.perform c).2.Sound i := by
  obtain ⟨spot, hspot⟩ := h.placed
  exact ⟨(content_perform s c).trans h.content, exists_at_perform hi h.content hspot c,
    live_perform h.live hc⟩

/-- The current node of a sound stage is valid. -/
theorem Sound.valid_node (hi : i.Valid) (h : s.Sound i) {n : DialogNode}
    (hn : s.view.node = some n) : n.Valid := by
  obtain ⟨spot, hspot⟩ := h.placed
  obtain ⟨p, rfl, rfl, -⟩ := exists_spot_of_node hspot hn
  exact hi p (hspot.found p rfl)

end Sound

/-! ## The node that is answered -/

section Answers

variable (s : Stage)

theorem node_changePhase (phase : Phase) :
    (s.changePhase phase).2.view.node = (s.changePhase phase).1 := by
  rw [changePhase, view_enter]
  rfl

theorem node_startDialog {scriptId : String} {n : DialogNode}
    (h : (s.startDialog scriptId).1 = some n) :
    (s.startDialog scriptId).2.view.node = some n := by
  unfold startDialog at h ⊢
  split at h
  · cases h
  · exact h

theorem node_advanceDialog : s.advanceDialog.2.view.node = s.advanceDialog.1 := by
  unfold advanceDialog
  split
  · assumption
  · rename_i n hn
    split
    · exact hn
    · split
      · exact hn
      · split <;> rfl

theorem node_makeChoice {choiceId : String} {n : DialogNode}
    (h : (s.makeChoice choiceId).1 = some n) :
    (s.makeChoice choiceId).2.view.node = some n := by
  unfold makeChoice at h ⊢
  split at h
  · split at h
    · exact h
    · cases h
  · cases h

end Answers

end Stage

end Storyline
