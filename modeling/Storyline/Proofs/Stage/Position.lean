import Storyline.Proofs.Content.Coherence
import Storyline.Stage.Command

/-!
# Where a stage stands

The position of a game is kept twice: the live save has the ids of a scene, a node and
a script, and the view has the records themselves.  After any history the two agree.

The invariant is carried by one spot: `View.At i v spot` says that the view `v` and
its save are at `spot`, or at none.  Each command of a stage leaves it at the old spot,
at none, or at a spot that a look-up found.

* `Content.Index.HasSpot`, `Save.Names`: a spot of the content, a save that names it;
* `View.At`: the invariant, with its spot;
* `View.Placed`: the same, said field by field;
* `Stage.exists_at_perform`, `Stage.exists_at_performAll`: one command, a history;
* `Stage.placed_performAll`: every history over the index of a pack.
-/

namespace Storyline

open Content

/-! ## Spots of the content -/

namespace Content.Index

/-- The spot's script is the indexed one of its id, and its node is the one that the
script finds under the node's id. -/
def HasSpot (i : Index) (p : Spot) : Prop :=
  i.script? p.script.id = some p.script ∧ p.script.node? p.node.id = some p.node

variable {i : Index}

/-- A node found in an indexed script makes a spot. -/
theorem hasSpot_of_node? {s : Script} {nodeId : String} {n : DialogNode}
    (hs : i.script? s.id = some s) (hn : s.node? nodeId = some n) : i.HasSpot ⟨n, s⟩ := by
  refine ⟨hs, ?_⟩
  show s.node? n.id = some n
  rw [Script.id_of_node? hn, hn]

theorem Coherent.script?_id (hi : i.Coherent) {k : String} {s : Script}
    (h : i.script? k = some s) : i.script? s.id = some s := by
  rw [hi.id_of_script h, h]

theorem Coherent.script?_of_entryScript? (hi : i.Coherent) {c : Scene} {s : Script}
    (h : i.entryScript? c = some s) : i.script? s.id = some s := by
  unfold entryScript? at h
  split at h
  · exact hi.script?_id h
  · obtain ⟨nodeId, -, h⟩ := Option.bind_eq_some_iff.mp h
    obtain ⟨n, -, h⟩ := Option.bind_eq_some_iff.mp h
    obtain ⟨scriptId, -, h⟩ := Option.bind_eq_some_iff.mp h
    exact hi.script?_id h

theorem Coherent.hasSpot_of_sceneSpot? (hi : i.Coherent) {c : Scene} {p : Spot}
    (h : i.sceneSpot? c = some p) : i.HasSpot p := by
  obtain ⟨nodeId, -, h⟩ := Option.bind_eq_some_iff.mp h
  obtain ⟨s, hs, h⟩ := Option.bind_eq_some_iff.mp h
  obtain ⟨n, hn, h⟩ := Option.bind_eq_some_iff.mp h
  rw [← Option.some_inj.mp h]
  exact hasSpot_of_node? (hi.script?_of_entryScript? hs) hn

theorem hasSpot_of_startSpot? {s : Script} {p : Spot} (hs : i.script? s.id = some s)
    (h : startSpot? s = some p) : i.HasSpot p := by
  obtain ⟨n, hn, rfl⟩ := Option.map_eq_some_iff.mp h
  exact hasSpot_of_node? hs hn

theorem Coherent.hasSpot_of_phaseSpot? (hi : i.Coherent) {phase : Phase} {p : Spot}
    (h : i.phaseSpot? phase = some p) : i.HasSpot p := by
  obtain ⟨s, hs, h⟩ := Option.bind_eq_some_iff.mp h
  exact hasSpot_of_startSpot? (hi.script_of_phase hs) h

theorem Coherent.hasSpot_of_scriptSpot? (hi : i.Coherent) {scriptId : String} {p : Spot}
    (h : i.scriptSpot? scriptId = some p) : i.HasSpot p := by
  obtain ⟨s, hs, h⟩ := Option.bind_eq_some_iff.mp h
  exact hasSpot_of_startSpot? (hi.script?_id hs) h

/-- The text of an optional id that is not empty. -/
theorem nonempty_eq_some {o : Option String} {k : String} (h : nonempty o = some k) :
    o = some k ∧ k ≠ "" := by
  obtain ⟨ho, hk⟩ := Option.filter_eq_some_iff.mp h
  exact ⟨ho, by simpa using hk⟩

/-- Where a save stands is a spot that the save names. -/
theorem Coherent.of_savedSpot? (hi : i.Coherent) {save : Save} {p : Spot}
    (h : i.savedSpot? save = some p) :
    i.HasSpot p ∧ save.currentDialogId = some p.node.id ∧
      save.currentDialogScriptId = some p.script.id := by
  obtain ⟨scriptId, hid, h⟩ := Option.bind_eq_some_iff.mp h
  obtain ⟨s, hs, h⟩ := Option.bind_eq_some_iff.mp h
  obtain ⟨n, hn, h⟩ := Option.bind_eq_some_iff.mp h
  obtain ⟨nodeId, hnode, hn⟩ := Option.bind_eq_some_iff.mp hn
  rw [← Option.some_inj.mp h]
  refine ⟨hasSpot_of_node? (hi.script?_id hs) hn, ?_, ?_⟩
  · rw [hnode, Script.id_of_node? hn]
  · rw [(nonempty_eq_some hid).1, hi.id_of_script hs]

end Content.Index

/-! ## The invariant -/

/-- The save has the ids of the spot; of no spot it has none, where an empty id is
none. -/
def Save.Names (save : Save) : Option Spot → Prop
  | some p =>
    save.currentDialogId = some p.node.id ∧ save.currentDialogScriptId = some p.script.id
  | none =>
    nonempty save.currentDialogId = none ∧ nonempty save.currentDialogScriptId = none

/-- Saves with the same ids name the same spots. -/
theorem Save.Names.of_ids {a b : Save} {spot : Option Spot} (h : a.Names spot)
    (hid : b.currentDialogId = a.currentDialogId)
    (hscript : b.currentDialogScriptId = a.currentDialogScriptId) : b.Names spot := by
  cases spot with
  | none => exact ⟨by rw [hid, h.1], by rw [hscript, h.2]⟩
  | some p => exact ⟨by rw [hid, h.1], by rw [hscript, h.2]⟩

namespace View

/-- The view and its save are at a spot, or at none. -/
structure At (i : Index) (v : View) (spot : Option Spot) : Prop where
  node : v.node = spot.map (·.node)
  script : v.script = spot.map (·.script)
  showDialog : v.showDialog = spot.isSome
  found : ∀ p ∈ spot, i.HasSpot p
  named : ∀ save ∈ v.save, save.Names spot
  scene : ∀ save ∈ v.save, ∀ c ∈ v.scene, c.id = save.currentSceneId
  choices : v.showChoices = true → ∃ p ∈ spot, p.node.choices ≠ []

/-- Node, script and the sign that a dialog runs come together; they are records of
the content; the live save has their ids and that of the scene; choices are shown only
where there are some. -/
structure Placed (i : Index) (v : View) : Prop where
  script_iff_node : v.script.isSome ↔ v.node.isSome
  showDialog_iff_node : v.showDialog = true ↔ v.node.isSome
  indexed : ∀ n s, v.node = some n → v.script = some s →
    i.script? s.id = some s ∧ s.node? n.id = some n
  named : ∀ save n s, v.save = some save → v.node = some n → v.script = some s →
    save.currentDialogId = some n.id ∧ save.currentDialogScriptId = some s.id
  unset : ∀ save, v.save = some save → v.node = none →
    (save.currentDialogId = none ∨ save.currentDialogId = some "") ∧
      (save.currentDialogScriptId = none ∨ save.currentDialogScriptId = some "")
  scene : ∀ save c, v.save = some save → v.scene = some c → c.id = save.currentSceneId
  choices : v.showChoices = true → ∃ n, v.node = some n ∧ n.choices ≠ []

theorem nonempty_eq_none {o : Option String} (h : nonempty o = none) :
    o = none ∨ o = some "" := by
  cases o with
  | none => exact Or.inl rfl
  | some k =>
    by_cases hk : k = ""
    · exact Or.inr (by rw [hk])
    · have hsome : nonempty (some k) = some k := by simp [nonempty, hk]
      rw [hsome] at h
      cases h

/-- A view at a spot, or at none, is placed. -/
theorem At.placed {i : Index} {v : View} {spot : Option Spot} (h : v.At i spot) :
    v.Placed i := by
  refine ⟨?_, ?_, ?_, ?_, ?_, fun save c hs hc => h.scene save hs c hc, ?_⟩
  · rw [h.script, h.node, Option.isSome_map, Option.isSome_map]
  · rw [h.showDialog, h.node, Option.isSome_map]
  · intro n s hn hs
    rw [h.node] at hn
    rw [h.script] at hs
    obtain ⟨p, hp, rfl⟩ := Option.map_eq_some_iff.mp hn
    rw [hp] at hs
    cases hs
    exact h.found p hp
  · intro save n s hsave hn hs
    rw [h.node] at hn
    rw [h.script] at hs
    obtain ⟨p, hp, rfl⟩ := Option.map_eq_some_iff.mp hn
    rw [hp] at hs
    cases hs
    have hnames := h.named save hsave
    rw [hp] at hnames
    exact hnames
  · intro save hsave hn
    rw [h.node, Option.map_eq_none_iff] at hn
    have hnames := h.named save hsave
    rw [hn] at hnames
    exact ⟨nonempty_eq_none hnames.1, nonempty_eq_none hnames.2⟩
  · intro hc
    obtain ⟨p, hp, hne⟩ := h.choices hc
    have hp' : spot = some p := hp
    exact ⟨p.node, by rw [h.node, hp']; rfl, hne⟩

/-- Before any game the view is at no spot. -/
theorem at_initial (i : Index) : initial.At i none := by
  constructor <;> simp [initial]

/-- A change of the view that leaves the position and the choices alone. -/
theorem At.of_eq {i : Index} {v w : View} {spot : Option Spot} (h : v.At i spot)
    (hnode : w.node = v.node) (hscript : w.script = v.script) (hshow : w.showDialog = v.showDialog)
    (hsave : w.save = v.save) (hscene : w.scene = v.scene)
    (hchoices : w.showChoices = v.showChoices) : w.At i spot where
  node := by rw [hnode, h.node]
  script := by rw [hscript, h.script]
  showDialog := by rw [hshow, h.showDialog]
  found := h.found
  named := by rw [hsave]; exact h.named
  scene := by rw [hsave, hscene]; exact h.scene
  choices := by rw [hchoices]; exact h.choices

end View

/-! ## Changes of the stage -/

namespace Stage

/-- The live save after a change of it. -/
theorem view_changeSave (s : Stage) (f : Save → Save) :
    (s.changeSave f).view =
      { s.view with save := s.view.save.map fun save => { f save with updatedAt := s.now } } := by
  unfold changeSave
  cases h : s.view.save with
  | none =>
    show s.view = { s.view with save := none }
    rw [← h]
  | some save => rfl

@[simp] theorem content_changeSave (s : Stage) (f : Save → Save) :
    (s.changeSave f).content = s.content := by
  unfold changeSave
  cases s.view.save <;> rfl

@[simp] theorem content_changeView (s : Stage) (f : View → View) :
    (s.changeView f).content = s.content := rfl

theorem view_changeView (s : Stage) (f : View → View) : (s.changeView f).view = f s.view := rfl

/-- A position entered: the view has the records, the save has the ids. -/
theorem view_enter (s : Stage) (scene : Option Scene) (spot : Option Spot) (change : Save → Save) :
    (s.enter scene spot change).view =
      { viewAt scene spot s.view with
        save := s.view.save.map fun save =>
          { change (standAt spot save) with updatedAt := s.now }
        typewriterComplete := false } := by
  rw [enter, view_changeView, view_changeSave]
  rfl

@[simp] theorem content_enter (s : Stage) (scene : Option Scene) (spot : Option Spot)
    (change : Save → Save) : (s.enter scene spot change).content = s.content := by
  simp [enter]

/-- After a position was entered, the view is at its spot. -/
theorem node_enter (s : Stage) (scene : Option Scene) (spot : Option Spot)
    (change : Save → Save) : (s.enter scene spot change).view.node = spot.map (·.node) := by
  rw [view_enter]
  rfl

theorem script_enter (s : Stage) (scene : Option Scene) (spot : Option Spot)
    (change : Save → Save) : (s.enter scene spot change).view.script = spot.map (·.script) := by
  rw [view_enter]
  rfl

theorem node_changeScene {s : Stage} {sceneId : String} {c : Scene}
    (h : s.content.scene? sceneId = some c) :
    (s.changeScene sceneId).2.view.node = (s.content.sceneSpot? c).map (·.node) := by
  rw [changeScene, h]
  exact node_enter ..

theorem changeScene_of_none {s : Stage} {sceneId : String} (h : s.content.scene? sceneId = none) :
    s.changeScene sceneId = (none, s) := by
  rw [changeScene, h]

theorem startDialog_of_none {s : Stage} {scriptId : String}
    (h : s.content.scriptSpot? scriptId = none) : s.startDialog scriptId = (none, s) := by
  rw [startDialog, h]

theorem startDialog_of_some {s : Stage} {scriptId : String} {p : Spot}
    (h : s.content.scriptSpot? scriptId = some p) :
    (s.startDialog scriptId).1 = some p.node ∧
      (s.startDialog scriptId).2.view.node = some p.node ∧
      (s.startDialog scriptId).2.view.script = some p.script := by
  rw [startDialog, h]
  exact ⟨rfl, rfl, rfl⟩

/-- A save that stands at a spot names it. -/
theorem names_standAt (spot : Option Spot) (save : Save) : (standAt spot save).Names spot := by
  cases spot with
  | none => exact ⟨rfl, rfl⟩
  | some p => exact ⟨rfl, rfl⟩

/-- A position that was entered is where the stage stands, provided that the change of
the save besides keeps the ids of the dialog and brings the id of the scene. -/
theorem at_enter {i : Index} {s : Stage} {scene : Option Scene} {spot : Option Spot}
    {change : Save → Save} (hfound : ∀ p ∈ spot, i.HasSpot p)
    (hid : ∀ save, (change save).currentDialogId = save.currentDialogId)
    (hscript : ∀ save, (change save).currentDialogScriptId = save.currentDialogScriptId)
    (hscene : ∀ save ∈ s.view.save, ∀ c ∈ scene,
      c.id = (change (standAt spot save)).currentSceneId) :
    (s.enter scene spot change).view.At i spot := by
  rw [view_enter]
  refine ⟨rfl, rfl, rfl, hfound, ?_, ?_, nofun⟩
  · intro save hsave
    obtain ⟨old, -, rfl⟩ := Option.map_eq_some_iff.mp hsave
    exact (names_standAt spot old).of_ids (hid _) (hscript _)
  · intro save hsave c hc
    obtain ⟨old, hold, rfl⟩ := Option.map_eq_some_iff.mp hsave
    exact hscene old hold c hc

/-- The save's own account of where it stands. -/
def ofPosition (save : Save) : String × Option String × Option String :=
  (save.currentSceneId, save.currentDialogId, save.currentDialogScriptId)

/-- A save that is changed but for its scene stays at the scene of the view. -/
theorem scene_map {i : Index} {v : View} {spot : Option Spot} {f : Save → Save}
    (hf : ∀ save, (f save).currentSceneId = save.currentSceneId) (h : v.At i spot) :
    ∀ save ∈ v.save.map f, ∀ c ∈ v.scene, c.id = save.currentSceneId := by
  intro save hsave c hc
  obtain ⟨old, hold, rfl⟩ := Option.map_eq_some_iff.mp hsave
  rw [hf, h.scene old hold c hc]

/-- A change of the save's data leaves the stage where it stands. -/
theorem at_changeSave {i : Index} {s : Stage} {spot : Option Spot} {f : Save → Save}
    (hf : ∀ save, ofPosition (f save) = ofPosition save) (h : s.view.At i spot) :
    (s.changeSave f).view.At i spot := by
  rw [view_changeSave]
  refine ⟨h.node, h.script, h.showDialog, h.found, ?_,
    scene_map (fun save => congrArg (·.1) (hf save)) h, h.choices⟩
  intro save hsave
  obtain ⟨old, hold, rfl⟩ := Option.map_eq_some_iff.mp hsave
  exact (h.named old hold).of_ids (congrArg (·.2.1) (hf old)) (congrArg (·.2.2) (hf old))

/-- Choices are shown where a node has some. -/
theorem ne_nil_of_shown {n : DialogNode} (h : (! n.choices.isEmpty) = true) : n.choices ≠ [] := by
  intro hnil
  rw [hnil] at h
  cases h

/-! ## Commands -/

section Commands

variable {i : Index} {s : Stage} {spot : Option Spot}

theorem at_startNewGame (hi : i.Coherent) (hs : s.content = i) (game : NewGame) (saveId : String) :
    ∃ spot, (s.startNewGame game saveId).view.At i spot := by
  refine ⟨_, at_enter ?_ (fun _ => rfl) (fun _ => rfl) ?_⟩
  · intro p hp
    rw [Option.mem_def, Option.orElse_eq_orElse, Option.orElse_eq_or] at hp
    rcases Option.or_eq_some_iff.mp hp with hscene | ⟨-, hphase⟩
    · obtain ⟨c, -, hc⟩ := Option.bind_eq_some_iff.mp hscene
      rw [hs] at hc
      exact hi.hasSpot_of_sceneSpot? hc
    · rw [hs] at hphase
      exact hi.hasSpot_of_phaseSpot? hphase
  · intro save hsave c hc
    have hnew : s.newSave game saveId = save := Option.some_inj.mp hsave
    rw [hs] at hc
    rw [← hnew]
    exact hi.id_of_scene hc

theorem at_loadSave (hi : i.Coherent) (hs : s.content = i) (save : Save) :
    (s.loadSave save).view.At i (i.savedSpot? save) := by
  have hscene : ∀ c ∈ i.scene? save.currentSceneId, c.id = save.currentSceneId :=
    fun c hc => hi.id_of_scene hc
  rw [loadSave, view_changeView, hs]
  refine ⟨rfl, rfl, rfl, fun p hp => (hi.of_savedSpot? hp).1, ?_, ?_, nofun⟩
  · intro live hlive
    rw [← Option.some_inj.mp hlive]
    cases hspot : i.savedSpot? save with
    | some p => exact (hi.of_savedSpot? hspot).2
    | none =>
      show (dropSpot save).Names none
      unfold dropSpot
      split
      · exact ⟨rfl, rfl⟩
      · rename_i hunset
        simpa [Save.Names] using hunset
  · intro live hlive c hc
    rw [← Option.some_inj.mp hlive, hscene c hc]
    show save.currentSceneId = (if _ then save else dropSpot save).currentSceneId
    unfold dropSpot
    split
    · rfl
    · split <;> rfl

theorem at_changePhase (hi : i.Coherent) (hs : s.content = i) (phase : Phase) :
    (s.changePhase phase).2.view.At i (i.phaseSpot? phase) := by
  rw [changePhase, hs]
  refine at_enter (fun p hp => hi.hasSpot_of_phaseSpot? hp) (fun _ => rfl) (fun _ => rfl) ?_
  intro save _ c hc
  have hc' : i.phaseScene? phase = some c := hc
  rw [hc']
  rfl

theorem at_changeScene (hi : i.Coherent) (hs : s.content = i) (h : s.view.At i spot)
    (sceneId : String) : ∃ spot, (s.changeScene sceneId).2.view.At i spot := by
  unfold changeScene
  split
  · exact ⟨spot, h⟩
  · rename_i c _
    refine ⟨_, at_enter ?_ (fun _ => rfl) (fun _ => rfl) ?_⟩
    · intro p hp
      rw [hs] at hp
      exact hi.hasSpot_of_sceneSpot? hp
    · intro save _ d hd
      rw [← Option.some_inj.mp hd]

theorem at_startDialog (hi : i.Coherent) (hs : s.content = i) (h : s.view.At i spot)
    (scriptId : String) : ∃ spot, (s.startDialog scriptId).2.view.At i spot := by
  unfold startDialog
  split
  · exact ⟨spot, h⟩
  · rename_i p hp
    rw [hs] at hp
    refine ⟨some p, ?_⟩
    rw [view_changeView, view_changeSave]
    refine ⟨rfl, rfl, rfl, ?_, ?_, scene_map (fun _ => rfl) h,
      fun hc => ⟨p, rfl, ne_nil_of_shown hc⟩⟩
    · intro q hq
      rw [← Option.some_inj.mp hq]
      exact hi.hasSpot_of_scriptSpot? hp
    · intro save hsave
      obtain ⟨old, -, rfl⟩ := Option.map_eq_some_iff.mp hsave
      exact ⟨rfl, rfl⟩

/-- A move goes to another node of the same script. -/
theorem at_moveTo {p : Spot} (h : s.view.At i (some p)) {nodeId : String} {target : DialogNode}
    (ht : p.script.node? nodeId = some target) (current : DialogNode) :
    (s.moveTo current target).view.At i (some ⟨target, p.script⟩) := by
  rw [moveTo, view_changeView, view_changeSave]
  refine ⟨rfl, h.script, h.showDialog, ?_, ?_, scene_map (fun _ => rfl) h,
    fun hc => ⟨_, rfl, ne_nil_of_shown hc⟩⟩
  · intro q hq
    rw [← Option.some_inj.mp hq]
    exact Index.hasSpot_of_node? (h.found p rfl).1 ht
  · intro save hsave
    obtain ⟨old, hold, rfl⟩ := Option.map_eq_some_iff.mp hsave
    exact ⟨rfl, (h.named old hold).2⟩

theorem at_endDialog (h : s.view.At i spot) : s.endDialog.view.At i none := by
  rw [endDialog, view_changeView, view_changeSave]
  refine ⟨rfl, rfl, rfl, fun p hp => (Option.not_mem_none p hp).elim, ?_,
    scene_map (fun _ => rfl) h, nofun⟩
  intro save hsave
  obtain ⟨old, -, rfl⟩ := Option.map_eq_some_iff.mp hsave
  exact ⟨rfl, rfl⟩

/-- The spot of a view that shows a node. -/
theorem exists_spot_of_node {v : View} {n : DialogNode} (h : v.At i spot)
    (hn : v.node = some n) : ∃ p, spot = some p ∧ p.node = n ∧ v.script = some p.script := by
  rw [h.node] at hn
  obtain ⟨p, hp, rfl⟩ := Option.map_eq_some_iff.mp hn
  refine ⟨p, hp, rfl, ?_⟩
  rw [h.script, hp]
  rfl

theorem at_completeTypewriter (h : s.view.At i spot) : s.completeTypewriter.view.At i spot := by
  rw [completeTypewriter, view_changeView]
  exact h.of_eq rfl rfl rfl rfl rfl rfl

/-- A line that was read is followed to the next node. -/
theorem advanceDialog_eq_moveTo {n m : DialogNode} (hn : s.view.node = some n)
    (hread : s.view.typewriterComplete = true) (hchoices : n.choices = [])
    (hm : nextNode? s.view.script n = some m) : s.advanceDialog = (some m, s.moveTo n m) := by
  simp [advanceDialog, hn, hread, hchoices, hm]

theorem at_advanceDialog (h : s.view.At i spot) :
    ∃ spot, s.advanceDialog.2.view.At i spot := by
  unfold advanceDialog
  split
  · exact ⟨spot, h⟩
  · rename_i n hn
    obtain ⟨p, rfl, rfl, hscript⟩ := exists_spot_of_node h hn
    split
    · exact ⟨some p, at_completeTypewriter h⟩
    · split
      · rename_i hc
        refine ⟨some p, ⟨h.node, h.script, h.showDialog, h.found, h.named, h.scene, ?_⟩⟩
        exact fun _ => ⟨p, rfl, ne_nil_of_shown hc⟩
      · split
        · rename_i target ht
          rw [hscript] at ht
          obtain ⟨nextId, -, ht⟩ := Option.bind_eq_some_iff.mp ht
          exact ⟨_, at_moveTo h ht p.node⟩
        · exact ⟨none, at_endDialog h⟩

theorem at_makeChoice (h : s.view.At i spot) (choiceId : String) :
    ∃ spot, (s.makeChoice choiceId).2.view.At i spot := by
  unfold makeChoice
  split
  · rename_i n script hn hscript
    obtain ⟨p, rfl, rfl, hp⟩ := exists_spot_of_node h hn
    have hps : p.script = script := Option.some_inj.mp (hp.symm.trans hscript)
    split
    · rename_i target ht
      obtain ⟨choice, -, ht⟩ := Option.bind_eq_some_iff.mp ht
      rw [← hps] at ht
      exact ⟨_, at_moveTo h ht p.node⟩
    · exact ⟨some p, h⟩
  · exact ⟨spot, h⟩

theorem at_addPlayTime (h : s.view.At i spot) (seconds : Float) :
    (s.addPlayTime seconds).view.At i spot := by
  unfold addPlayTime
  split
  · exact h
  · exact at_changeSave (fun _ => rfl) h

end Commands

/-- No command changes the content. -/
theorem content_perform (s : Stage) (c : Command) : (s.perform c).2.content = s.content := by
  cases c with
  | startDialog scriptId => simp only [perform, ofNode, startDialog]; split <;> simp
  | advanceDialog =>
    simp only [perform, ofNode, advanceDialog]
    split
    · rfl
    · split
      · rfl
      · split
        · rfl
        · split <;> simp [moveTo, endDialog]
  | makeChoice choiceId =>
    simp only [perform, ofNode, makeChoice]
    split
    · split <;> simp [moveTo]
    · rfl
  | changeScene sceneId => simp only [perform, changeScene]; split <;> simp
  | addPlayTime seconds => simp only [perform, addPlayTime]; split <;> simp
  | _ =>
    simp [perform, ofNode, startNewGame, loadSave, setLoading, changePhase, endDialog,
      completeTypewriter, addItem, removeItem, addMemory, unlockAchievement, setFlag, toggleMenu,
      toggleInventory, toggleMemories]

/-- A command leaves the stage at a spot, or at none. -/
theorem exists_at_perform {i : Index} {s : Stage} {spot : Option Spot} (hi : i.Coherent)
    (hs : s.content = i) (h : s.view.At i spot) (c : Command) :
    ∃ spot, (s.perform c).2.view.At i spot := by
  cases c with
  | startNewGame game saveId => exact at_startNewGame hi hs game saveId
  | loadSave save => exact ⟨_, at_loadSave hi hs save⟩
  | changePhase phase => exact ⟨_, at_changePhase hi hs phase⟩
  | changeScene sceneId => exact at_changeScene hi hs h sceneId
  | startDialog scriptId => exact at_startDialog hi hs h scriptId
  | advanceDialog => exact at_advanceDialog h
  | makeChoice choiceId => exact at_makeChoice h choiceId
  | endDialog => exact ⟨none, at_endDialog h⟩
  | addItem item => exact ⟨spot, at_changeSave (fun _ => rfl) h⟩
  | removeItem itemId quantity => exact ⟨spot, at_changeSave (fun _ => rfl) h⟩
  | addMemory memory =>
    refine ⟨spot, at_changeSave (fun save => ?_) h⟩
    unfold Save.addMemory
    split <;> rfl
  | unlockAchievement achievementId =>
    refine ⟨spot, at_changeSave (fun save => ?_) h⟩
    unfold Save.unlockAchievement
    split <;> rfl
  | setFlag key value => exact ⟨spot, at_changeSave (fun _ => rfl) h⟩
  | addPlayTime seconds => exact ⟨spot, at_addPlayTime h seconds⟩
  | setLoading _ => exact ⟨spot, h.of_eq rfl rfl rfl rfl rfl rfl⟩
  | completeTypewriter => exact ⟨spot, at_completeTypewriter h⟩
  | toggleMenu => exact ⟨spot, h.of_eq rfl rfl rfl rfl rfl rfl⟩
  | toggleInventory => exact ⟨spot, h.of_eq rfl rfl rfl rfl rfl rfl⟩
  | toggleMemories => exact ⟨spot, h.of_eq rfl rfl rfl rfl rfl rfl⟩

theorem performAll_cons (s : Stage) (c : String × Command) (cs : List (String × Command)) :
    s.performAll (c :: cs) = (({ s with now := c.1 } : Stage).perform c.2).2.performAll cs := rfl

/-- No history changes the content. -/
theorem content_performAll (s : Stage) (cs : List (String × Command)) :
    (s.performAll cs).content = s.content := by
  induction cs generalizing s with
  | nil => rfl
  | cons c cs ih => rw [performAll_cons, ih, content_perform]

/-- A history leaves the stage at a spot, or at none. -/
theorem exists_at_performAll {i : Index} (hi : i.Coherent) (cs : List (String × Command))
    {s : Stage} {spot : Option Spot} (hs : s.content = i) (h : s.view.At i spot) :
    ∃ spot, (s.performAll cs).view.At i spot := by
  induction cs generalizing s spot with
  | nil => exact ⟨spot, h⟩
  | cons c cs ih =>
    rw [performAll_cons]
    obtain ⟨next, hnext⟩ :=
      exists_at_perform (s := { s with now := c.1 }) hi hs h c.2
    exact ih ((content_perform _ c.2).trans hs) hnext

/-- After every history over the index of a pack, the view is placed.  Histories are
closed under beginnings, so it is placed after each of their commands. -/
theorem placed_performAll {p : Pack} {i : Index} (hp : Index.ofPack p = .ok i) (now : String)
    (history : List (String × Command)) :
    (((Stage.ofContent i now).performAll history).view).Placed i := by
  obtain ⟨spot, h⟩ := exists_at_performAll (Index.coherent_of_ofPack hp) history
    (s := Stage.ofContent i now) rfl (View.at_initial i)
  exact h.placed

/-- A gate whose keeper asks one question; whoever stays gets an answer. -/
def gatePack : Pack where
  scenes :=
    [{ id := "gate", phase := .planning, name := "Gate", description := "",
       background := "gate.png", hotspots := [], entryDialogId := some "ask",
       entryScriptId := none, bgm := none, ambientSound := none }]
  scripts :=
    [{ id := "keeper", phase := .planning, title := "Keeper", startNodeId := "ask",
       nodes :=
        [{ id := "ask", speaker := "keeper", text := "Stay?", emotion := none,
           background := none, characterSprite := none,
           choices := [⟨"yes", "Yes", "welcome", none, []⟩], next := none, effects := [],
           autoAdvance := false, autoAdvanceDelay := none, scriptId := none },
         { id := "welcome", speaker := "keeper", text := "Welcome.", emotion := none,
           background := none, characterSprite := none, choices := [], next := none,
           effects := [], autoAdvance := false, autoAdvanceDelay := none,
           scriptId := none }] }]

/-- At the gate, a game that stays is placed at the keeper's answer. -/
theorem placed_gate :
    ∃ i, Index.ofPack gatePack = .ok i ∧
      let s := (Stage.ofContent i "1").performAll
        [("2", .startNewGame ⟨"Ann", none⟩ "a"), ("3", .advanceDialog), ("4", .advanceDialog),
          ("5", .makeChoice "yes")]
      s.view.Placed i ∧ s.view.node.map (·.id) = some "welcome" :=
  ⟨_, rfl, placed_performAll (p := gatePack) rfl _ _, rfl⟩

end Stage

end Storyline
