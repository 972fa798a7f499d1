import Storyline.Proofs.Stage.Position

/-!
# Going on with a save

A game that is loaded from its live save stands where the live game stands, and the two
cannot be told apart afterwards: the same commands bring the same answers, and the saves
differ in their dates of change only.

An empty id counts as none, so the content must not use it: a scene or a script of the
empty id could be entered but not resumed.

* `View.HasScene`: the scene of the view is the one that its save names, or none is;
* `Stage.hasScene_performAll`: it holds after every history;
* `Stage.Alike`: two stages that differ in dates and in the rest of the screen;
* `Stage.Alike.performAll`: such stages stay alike and give the same answers;
* `Stage.save_loadSave_iff`: when a loaded save is kept as it is;
* `Stage.resumes_loadSave`: a loaded save is a game resumed.
-/

namespace Storyline

open Content

/-- The scene of the view is the one that the save names; it is none if the save names
none. -/
def View.HasScene (i : Index) (v : View) : Prop :=
  ∀ save ∈ v.save, v.scene = i.scene? save.currentSceneId

namespace Stage

/-! ## The scene of the save -/

section Scene

variable {i : Index} {s : Stage}

/-- A change of the save that keeps the id of its scene. -/
theorem hasScene_changeSave {f : Save → Save}
    (hf : ∀ save, (f save).currentSceneId = save.currentSceneId) (h : s.view.HasScene i) :
    (s.changeSave f).view.HasScene i := by
  rw [view_changeSave]
  intro save hsave
  obtain ⟨old, hold, rfl⟩ := Option.map_eq_some_iff.mp hsave
  show s.view.scene = i.scene? (f old).currentSceneId
  rw [hf, h old hold]

/-- A change of the view that keeps the save and the scene. -/
theorem hasScene_changeView {f : View → View} (hsave : ∀ v, (f v).save = v.save)
    (hscene : ∀ v, (f v).scene = v.scene) (h : s.view.HasScene i) :
    (s.changeView f).view.HasScene i := by
  rw [view_changeView]
  intro save hmem
  rw [hsave] at hmem
  rw [hscene, h save hmem]

/-- A position entered with the scene that the changed save names. -/
theorem hasScene_enter {scene : Option Scene} {spot : Option Spot} {change : Save → Save}
    (hscene : ∀ save ∈ s.view.save,
      scene = i.scene? (change (standAt spot save)).currentSceneId) :
    (s.enter scene spot change).view.HasScene i := by
  rw [view_enter]
  intro save hsave
  obtain ⟨old, hold, rfl⟩ := Option.map_eq_some_iff.mp hsave
  exact hscene old hold

theorem hasScene_startNewGame (hs : s.content = i) (game : NewGame) (saveId : String) :
    (s.startNewGame game saveId).view.HasScene i := by
  refine hasScene_enter fun save hsave => ?_
  have hnew : s.newSave game saveId = save := Option.some_inj.mp hsave
  rw [← hnew, hs]
  rfl

theorem hasScene_loadSave (hs : s.content = i) (save : Save) :
    (s.loadSave save).view.HasScene i := by
  intro live hlive
  have hkept : live.currentSceneId = save.currentSceneId := by
    have hlive' : (if (s.content.savedSpot? save).isSome then save else dropSpot save) = live :=
      Option.some_inj.mp hlive
    rw [← hlive']
    split
    · rfl
    · unfold dropSpot
      split <;> rfl
  show s.content.scene? save.currentSceneId = i.scene? live.currentSceneId
  rw [hkept, hs]

theorem hasScene_changePhase (hi : i.Coherent) (hfree : i.scene? "" = none)
    (hs : s.content = i) (phase : Phase) : (s.changePhase phase).2.view.HasScene i := by
  refine hasScene_enter fun save _ => ?_
  show s.content.phaseScene? phase = i.scene? (((s.content.phaseScene? phase).map (·.id)).getD "")
  rw [hs]
  cases hc : i.phaseScene? phase with
  | none => exact hfree.symm
  | some c => exact (hi.scene_of_phase hc).symm

theorem hasScene_changeScene (hi : i.Coherent) (hs : s.content = i) (h : s.view.HasScene i)
    (sceneId : String) : (s.changeScene sceneId).2.view.HasScene i := by
  unfold changeScene
  split
  · exact h
  · rename_i c hc
    rw [hs] at hc
    refine hasScene_enter fun save _ => ?_
    show some c = i.scene? c.id
    rw [hi.id_of_scene hc, hc]

/-- No move within a dialog changes the scene. -/
theorem hasScene_moveTo (h : s.view.HasScene i) (current target : DialogNode) :
    (s.moveTo current target).view.HasScene i :=
  hasScene_changeView (fun _ => rfl) (fun _ => rfl) (hasScene_changeSave (fun _ => rfl) h)

theorem hasScene_endDialog (h : s.view.HasScene i) : s.endDialog.view.HasScene i :=
  hasScene_changeView (fun _ => rfl) (fun _ => rfl) (hasScene_changeSave (fun _ => rfl) h)

theorem hasScene_startDialog (h : s.view.HasScene i) (scriptId : String) :
    (s.startDialog scriptId).2.view.HasScene i := by
  unfold startDialog
  split
  · exact h
  · exact hasScene_changeView (fun _ => rfl) (fun _ => rfl)
      (hasScene_changeSave (fun _ => rfl) h)

theorem hasScene_advanceDialog (h : s.view.HasScene i) :
    s.advanceDialog.2.view.HasScene i := by
  unfold advanceDialog
  split
  · exact h
  · split
    · exact hasScene_changeView (fun _ => rfl) (fun _ => rfl) h
    · split
      · exact hasScene_changeView (fun _ => rfl) (fun _ => rfl) h
      · split
        · exact hasScene_moveTo h _ _
        · exact hasScene_endDialog h

theorem hasScene_makeChoice (h : s.view.HasScene i) (choiceId : String) :
    (s.makeChoice choiceId).2.view.HasScene i := by
  unfold makeChoice
  split
  · split
    · exact hasScene_moveTo h _ _
    · exact h
  · exact h

/-- A command keeps the scene of the view with the save. -/
theorem hasScene_perform (hi : i.Coherent) (hfree : i.scene? "" = none) (hs : s.content = i)
    (h : s.view.HasScene i) (c : Command) : (s.perform c).2.view.HasScene i := by
  cases c with
  | startNewGame game saveId => exact hasScene_startNewGame hs game saveId
  | loadSave save => exact hasScene_loadSave hs save
  | changePhase phase => exact hasScene_changePhase hi hfree hs phase
  | changeScene sceneId => exact hasScene_changeScene hi hs h sceneId
  | startDialog scriptId => exact hasScene_startDialog h scriptId
  | advanceDialog => exact hasScene_advanceDialog h
  | makeChoice choiceId => exact hasScene_makeChoice h choiceId
  | endDialog => exact hasScene_endDialog h
  | addItem item => exact hasScene_changeSave (fun _ => rfl) h
  | removeItem itemId quantity => exact hasScene_changeSave (fun _ => rfl) h
  | addMemory memory =>
    refine hasScene_changeSave (fun save => ?_) h
    unfold Save.addMemory
    split <;> rfl
  | unlockAchievement achievementId =>
    refine hasScene_changeSave (fun save => ?_) h
    unfold Save.unlockAchievement
    split <;> rfl
  | setFlag key value => exact hasScene_changeSave (fun _ => rfl) h
  | addPlayTime seconds =>
    show (s.addPlayTime seconds).view.HasScene i
    unfold addPlayTime
    split
    · exact h
    · exact hasScene_changeSave (fun _ => rfl) h
  | setLoading _ => exact hasScene_changeView (fun _ => rfl) (fun _ => rfl) h
  | completeTypewriter => exact hasScene_changeView (fun _ => rfl) (fun _ => rfl) h
  | toggleMenu => exact hasScene_changeView (fun _ => rfl) (fun _ => rfl) h
  | toggleInventory => exact hasScene_changeView (fun _ => rfl) (fun _ => rfl) h
  | toggleMemories => exact hasScene_changeView (fun _ => rfl) (fun _ => rfl) h

/-- After every history the scene of the view is the one that the save names. -/
theorem hasScene_performAll (hi : i.Coherent) (hfree : i.scene? "" = none) (hs : s.content = i)
    (h : s.view.HasScene i) (cs : List (String × Command)) :
    (s.performAll cs).view.HasScene i := by
  induction cs generalizing s with
  | nil => exact h
  | cons c cs ih =>
    rw [performAll_cons]
    refine ih ((content_perform _ c.2).trans hs) ?_
    exact hasScene_perform (s := { s with now := c.1 }) hi hfree hs h c.2

end Scene

end Stage

/-! ## Saves without their dates of change -/

/-- The save without the date of its last change. -/
def Save.undated (save : Save) : Save := { save with updatedAt := "" }

/-- Saves that differ in the date of their last change only. -/
theorem Save.eq_of_undated {a b : Save} (h : a.undated = b.undated) :
    b = { a with updatedAt := b.updatedAt } := by
  have hb : b = { b.undated with updatedAt := b.updatedAt } := rfl
  rw [hb, ← h]
  rfl

/-- Views that agree in what the answers to commands depend on, but for the date of the
save. -/
structure View.Matches (v w : View) : Prop where
  node : v.node = w.node
  script : v.script = w.script
  typewriterComplete : v.typewriterComplete = w.typewriterComplete
  save : v.save.map Save.undated = w.save.map Save.undated

namespace Stage

/-! ## Stages alike -/

/-- Stages over the same content with views that match. -/
structure Alike (s t : Stage) : Prop where
  content : s.content = t.content
  view : s.view.Matches t.view

/-- The same came back, and the stages are alike again. -/
def Agree {α : Type} (r q : α × Stage) : Prop := r.1 = q.1 ∧ Alike r.2 q.2

theorem Alike.agree {α : Type} {s t : Stage} (h : Alike s t) (a : α) : Agree (a, s) (a, t) :=
  ⟨rfl, h⟩

section Alike

variable {s t : Stage}

/-- The same change of both saves, provided that it does not look at the date. -/
theorem Alike.changeSave (h : Alike s t) {f : Save → Save}
    (hf : ∀ a d, (f { a with updatedAt := d }).undated = (f a).undated) :
    Alike (s.changeSave f) (t.changeSave f) := by
  refine ⟨by simp [h.content], ?_⟩
  rw [view_changeSave, view_changeSave]
  refine ⟨h.view.node, h.view.script, h.view.typewriterComplete, ?_⟩
  have hsave := h.view.save
  cases hs : s.view.save with
  | none =>
    rw [hs, Option.map_none, eq_comm, Option.map_eq_none_iff] at hsave
    rw [hsave]
    rfl
  | some a =>
    rw [hs, Option.map_some, eq_comm, Option.map_eq_some_iff] at hsave
    obtain ⟨b, hb, hab⟩ := hsave
    have hdate : (f b).undated = (f a).undated := by
      rw [Save.eq_of_undated hab.symm]
      exact hf a b.updatedAt
    rw [hb]
    exact congrArg some hdate.symm

/-- The same change of both views, provided that it keeps matching views matching. -/
theorem Alike.changeView (h : Alike s t) {f : View → View}
    (hf : ∀ v w : View, v.Matches w → (f v).Matches (f w)) :
    Alike (s.changeView f) (t.changeView f) :=
  ⟨h.content, hf _ _ h.view⟩

theorem Alike.enter (h : Alike s t) (scene : Option Scene) (spot : Option Spot)
    {change : Save → Save}
    (hf : ∀ a d, (change { a with updatedAt := d }).undated = (change a).undated) :
    Alike (s.enter scene spot change) (t.enter scene spot change) :=
  (h.changeSave fun a d => hf (standAt spot a) d).changeView
    fun _ _ hv => ⟨rfl, rfl, rfl, hv.save⟩

theorem Alike.moveTo (h : Alike s t) (current target : DialogNode) :
    Alike (s.moveTo current target) (t.moveTo current target) := by
  unfold Stage.moveTo
  refine (h.changeSave ?_).changeView ?_
  · exact fun _ _ => rfl
  · exact fun _ _ hv => ⟨rfl, hv.script, rfl, hv.save⟩

theorem Alike.endDialog (h : Alike s t) : Alike s.endDialog t.endDialog := by
  unfold Stage.endDialog
  refine (h.changeSave ?_).changeView ?_
  · exact fun _ _ => rfl
  · exact fun _ _ hv => ⟨rfl, rfl, rfl, hv.save⟩

theorem Alike.completeTypewriter (h : Alike s t) :
    Alike s.completeTypewriter t.completeTypewriter :=
  h.changeView fun _ _ hv => ⟨hv.node, hv.script, rfl, hv.save⟩

theorem Alike.changePhase (h : Alike s t) (phase : Phase) :
    Agree (s.changePhase phase) (t.changePhase phase) := by
  unfold Stage.changePhase
  rw [← h.content]
  refine (h.enter _ _ ?_).agree _
  exact fun _ _ => rfl

theorem Alike.changeScene (h : Alike s t) (sceneId : String) :
    Agree (s.changeScene sceneId) (t.changeScene sceneId) := by
  unfold Stage.changeScene
  rw [← h.content]
  cases s.content.scene? sceneId with
  | none => exact h.agree _
  | some c =>
    refine (h.enter _ _ ?_).agree _
    exact fun _ _ => rfl

theorem Alike.startDialog (h : Alike s t) (scriptId : String) :
    Agree (s.startDialog scriptId) (t.startDialog scriptId) := by
  unfold Stage.startDialog
  rw [← h.content]
  cases s.content.scriptSpot? scriptId with
  | none => exact h.agree _
  | some p =>
    refine ((h.changeSave ?_).changeView ?_).agree _
    · exact fun _ _ => rfl
    · exact fun _ _ hv => ⟨rfl, rfl, rfl, hv.save⟩

theorem Alike.advanceDialog (h : Alike s t) : Agree s.advanceDialog t.advanceDialog := by
  unfold Stage.advanceDialog
  rw [← h.view.node, ← h.view.script, ← h.view.typewriterComplete]
  cases s.view.node with
  | none => exact h.agree _
  | some n =>
    dsimp only
    split
    · exact h.completeTypewriter.agree _
    · split
      · refine (h.changeView fun v w hv => ?_).agree _
        exact ⟨hv.node, hv.script, hv.typewriterComplete, hv.save⟩
      · cases nextNode? s.view.script n with
        | none => exact h.endDialog.agree _
        | some target => exact (h.moveTo n target).agree _

theorem Alike.makeChoice (h : Alike s t) (choiceId : String) :
    Agree (s.makeChoice choiceId) (t.makeChoice choiceId) := by
  unfold Stage.makeChoice
  rw [← h.view.node, ← h.view.script]
  cases s.view.node with
  | none => exact h.agree _
  | some n =>
    cases s.view.script with
    | none => exact h.agree _
    | some script =>
      dsimp only
      cases chosenNode? script n choiceId with
      | none => exact h.agree _
      | some target => exact (h.moveTo n target).agree _

theorem Alike.loadSave (h : Alike s t) (save : Save) :
    Alike (s.loadSave save) (t.loadSave save) := by
  unfold Stage.loadSave
  rw [← h.content]
  exact h.changeView fun _ _ _ => ⟨rfl, rfl, rfl, rfl⟩

end Alike

/-- Whether a command begins a new game. -/
def Command.beginsGame : Command → Bool
  | .startNewGame .. => true
  | _ => false

/-- A command within a game has the same answer from stages that are alike, and they
stay alike. -/
theorem Alike.perform {s t : Stage} (h : Alike s t) {c : Command} (hc : c.beginsGame = false) :
    Agree (s.perform c) (t.perform c) := by
  cases c with
  | startNewGame game saveId => cases hc
  | loadSave save => exact ⟨rfl, h.loadSave save⟩
  | changePhase phase =>
    obtain ⟨hanswer, hnext⟩ := h.changePhase phase
    exact ⟨congrArg Answer.node hanswer, hnext⟩
  | changeScene sceneId =>
    obtain ⟨hanswer, hnext⟩ := h.changeScene sceneId
    exact ⟨congrArg Answer.scene hanswer, hnext⟩
  | startDialog scriptId =>
    obtain ⟨hanswer, hnext⟩ := h.startDialog scriptId
    exact ⟨congrArg Answer.node hanswer, hnext⟩
  | advanceDialog =>
    obtain ⟨hanswer, hnext⟩ := h.advanceDialog
    exact ⟨congrArg Answer.node hanswer, hnext⟩
  | makeChoice choiceId =>
    obtain ⟨hanswer, hnext⟩ := h.makeChoice choiceId
    exact ⟨congrArg Answer.node hanswer, hnext⟩
  | endDialog => exact ⟨rfl, h.endDialog⟩
  | completeTypewriter => exact ⟨rfl, h.completeTypewriter⟩
  | addItem item => exact ⟨rfl, h.changeSave fun _ _ => rfl⟩
  | removeItem itemId quantity => exact ⟨rfl, h.changeSave fun _ _ => rfl⟩
  | addMemory memory =>
    refine ⟨rfl, h.changeSave fun a d => ?_⟩
    unfold Save.addMemory
    dsimp only
    split <;> rfl
  | unlockAchievement achievementId =>
    refine ⟨rfl, h.changeSave fun a d => ?_⟩
    unfold Save.unlockAchievement
    dsimp only
    split <;> rfl
  | setFlag key value => exact ⟨rfl, h.changeSave fun _ _ => rfl⟩
  | addPlayTime seconds =>
    refine ⟨rfl, ?_⟩
    show Alike (s.addPlayTime seconds) (t.addPlayTime seconds)
    unfold addPlayTime
    split
    · exact h
    · exact h.changeSave fun _ _ => rfl
  | setLoading _ | toggleMenu | toggleInventory | toggleMemories =>
    refine (h.changeView ?_).agree Answer.nothing
    exact fun _ _ hv => ⟨hv.node, hv.script, hv.typewriterComplete, hv.save⟩

/-- What comes back from commands carried out one after another. -/
def answers (s : Stage) : List (String × Command) → List Answer
  | [] => []
  | c :: cs =>
    let r := ({ s with now := c.1 } : Stage).perform c.2
    r.1 :: r.2.answers cs

/-- The same commands, at whatever moments, have the same answers from stages that are
alike, and the stages stay alike. -/
theorem Alike.performAll {s t : Stage} (h : Alike s t) {cs ds : List (String × Command)}
    (hsame : cs.map Prod.snd = ds.map Prod.snd) (hwithin : ∀ c ∈ cs, c.2.beginsGame = false) :
    s.answers cs = t.answers ds ∧ Alike (s.performAll cs) (t.performAll ds) := by
  induction cs generalizing s t ds with
  | nil =>
    rw [List.map_nil, eq_comm, List.map_eq_nil_iff] at hsame
    rw [hsame]
    exact ⟨rfl, h⟩
  | cons c cs ih =>
    obtain ⟨d, ds, rfl⟩ : ∃ d ds', ds = d :: ds' := by
      cases ds with
      | nil => cases hsame
      | cons d ds => exact ⟨d, ds, rfl⟩
    rw [List.map_cons, List.map_cons, List.cons.injEq] at hsame
    -- the dates of the two stages may differ, and nothing else that matters does
    have hdated : Alike { s with now := c.1 } { t with now := d.1 } := ⟨h.content, h.view⟩
    obtain ⟨hanswer, hnext⟩ := hdated.perform (hwithin c (List.mem_cons_self ..))
    rw [hsame.1] at hanswer hnext
    obtain ⟨hanswers, hlast⟩ := ih hnext hsame.2 fun e he => hwithin e (List.mem_cons_of_mem c he)
    rw [performAll_cons, performAll_cons, answers, answers, hsame.1]
    exact ⟨List.cons_eq_cons.mpr ⟨hanswer, hanswers⟩, hlast⟩

/-! ## Resuming -/

/-- The stage `t` resumes the game of the stage `s`: the save and what it points to are
the same, and once the text is revealed on both, further commands have the same answers
and lead to the same save but for the date of its last change. -/
structure Resumes (s t : Stage) : Prop where
  save : t.view.save = s.view.save
  scene : t.view.scene = s.view.scene
  node : t.view.node = s.view.node
  script : t.view.script = s.view.script
  showDialog : t.view.showDialog = s.view.showDialog
  goesOn : ∀ cs ds : List (String × Command), cs.map Prod.snd = ds.map Prod.snd →
    (∀ c ∈ cs, c.2.beginsGame = false) →
    s.completeTypewriter.answers cs = t.completeTypewriter.answers ds ∧
      (s.completeTypewriter.performAll cs).view.save.map Save.undated =
        (t.completeTypewriter.performAll ds).view.save.map Save.undated

/-- A spot of the content that a save names is where the save stands, unless its script
has the empty id. -/
theorem savedSpot?_of_hasSpot {i : Index} {p : Spot} (hfound : i.HasSpot p)
    (hne : p.script.id ≠ "") {save : Save} (hnames : save.Names (some p)) :
    i.savedSpot? save = some p := by
  obtain ⟨hscript, hnode⟩ := hfound
  have hid : nonempty save.currentDialogScriptId = some p.script.id := by
    rw [hnames.2]
    simp [nonempty, hne]
  unfold Index.savedSpot?
  rw [hid, Option.bind_eq_bind, Option.bind_some, hscript, Option.bind_eq_bind,
    Option.bind_some, Script.nodeOf?, hnames.1, Option.bind_some, hnode]
  rfl

/-- A save without the id of a script stands nowhere. -/
theorem savedSpot?_of_unset {i : Index} {save : Save}
    (h : nonempty save.currentDialogScriptId = none) : i.savedSpot? save = none := by
  unfold Index.savedSpot?
  rw [h]
  rfl

/-- Where no script has the empty id, a save stands at the spot that it names. -/
theorem savedSpot?_of_names {i : Index} (hfree : i.script? "" = none) {spot : Option Spot}
    (hfound : ∀ p ∈ spot, i.HasSpot p) {save : Save} (hnames : save.Names spot) :
    i.savedSpot? save = spot := by
  cases spot with
  | none => exact savedSpot?_of_unset hnames.2
  | some p =>
    refine savedSpot?_of_hasSpot (hfound p rfl) (fun hempty => ?_) hnames
    have hscript := (hfound p rfl).1
    rw [hempty, hfree] at hscript
    cases hscript

/-- A save that names no spot keeps its ids when it is loaded. -/
theorem dropSpot_of_names {save : Save} (h : save.Names none) : dropSpot save = save := by
  unfold dropSpot
  rw [h.1, h.2]
  rfl

/-- Loading the save of a view that is at a spot, or at none, keeps the save. -/
theorem save_loadSave {i : Index} {t : Stage} {spot : Option Spot} {save : Save}
    (ht : t.content = i) (hspot : i.savedSpot? save = spot) (hnames : save.Names spot) :
    (t.loadSave save).view.save = some save := by
  show some (if (t.content.savedSpot? save).isSome then save else dropSpot save) = some save
  rw [ht, hspot]
  cases spot with
  | none => rw [if_neg (by simp), dropSpot_of_names hnames]
  | some p => rfl

/-- Loading the save of a view keeps the save, unless it names a node in a script of the
empty id: then its ids are dropped. -/
theorem save_loadSave_iff {i : Index} {t : Stage} {spot : Option Spot} {save : Save}
    (ht : t.content = i) (hfound : ∀ p ∈ spot, i.HasSpot p) (hnames : save.Names spot) :
    (t.loadSave save).view.save = some save ↔
      (save.currentDialogScriptId = some "" → nonempty save.currentDialogId = none) := by
  cases spot with
  | none =>
    refine iff_of_true ?_ fun _ => hnames.1
    exact save_loadSave ht (savedSpot?_of_unset hnames.2) hnames
  | some p =>
    by_cases hempty : p.script.id = ""
    · have hscript : save.currentDialogScriptId = some "" := by rw [hnames.2, hempty]
      have hunset : nonempty save.currentDialogScriptId = none := by
        rw [hscript]
        rfl
      have hloaded : (t.loadSave save).view.save = some (dropSpot save) := by
        show some (if (t.content.savedSpot? save).isSome then save else dropSpot save) = _
        rw [ht, savedSpot?_of_unset hunset]
        rfl
      rw [hloaded]
      constructor
      · intro hsame _
        by_cases hid : nonempty save.currentDialogId = none
        · exact hid
        · have hdropped : (dropSpot save).currentDialogScriptId = none := by
            unfold dropSpot
            rw [if_pos (by simp [Option.isSome_iff_ne_none, hid])]
          rw [Option.some_inj.mp hsame, hscript] at hdropped
          cases hdropped
      · intro hid
        exact congrArg some (dropSpot_of_names ⟨hid hscript, hunset⟩)
    · refine iff_of_true ?_ fun hscript => absurd ?_ hempty
      · exact save_loadSave ht (savedSpot?_of_hasSpot (hfound p rfl) hempty hnames) hnames
      · exact Option.some_inj.mp (hnames.2.symm.trans hscript)

/-- A game goes on from its live save as if it had not been left, over the index of a
pack that uses the empty id for no scene and no script. -/
theorem resumes_loadSave {p : Pack} {i : Index} (hp : Index.ofPack p = .ok i)
    (hscene : i.scene? "" = none) (hscript : i.script? "" = none) (now now' : String)
    (history : List (String × Command)) {save : Save}
    (hsave : ((Stage.ofContent i now).performAll history).view.save = some save) :
    ((Stage.ofContent i now).performAll history).Resumes
      ((Stage.ofContent i now').loadSave save) := by
  have hi : i.Coherent := Index.coherent_of_ofPack hp
  obtain ⟨spot, hat⟩ :=
    exists_at_performAll hi history (s := Stage.ofContent i now) rfl (View.at_initial i)
  have hhas : ((Stage.ofContent i now).performAll history).view.HasScene i :=
    hasScene_performAll hi hscene (s := Stage.ofContent i now) rfl nofun history
  have hcontent : ((Stage.ofContent i now).performAll history).content = i :=
    content_performAll _ history
  generalize (Stage.ofContent i now).performAll history = s at *
  have hnames : save.Names spot := hat.named save hsave
  have hspot : i.savedSpot? save = spot := savedSpot?_of_names hscript hat.found hnames
  have hkept : ((Stage.ofContent i now').loadSave save).view.save = some save :=
    save_loadSave rfl hspot hnames
  have hnode : ((Stage.ofContent i now').loadSave save).view.node = s.view.node := by
    rw [hat.node, ← hspot]
    rfl
  have hscript' : ((Stage.ofContent i now').loadSave save).view.script = s.view.script := by
    rw [hat.script, ← hspot]
    rfl
  refine ⟨?_, ?_, hnode, hscript', ?_, ?_⟩
  · rw [hkept, hsave]
  · rw [hhas save hsave]
    rfl
  · rw [hat.showDialog, ← hspot]
    rfl
  · intro cs ds hsame hwithin
    have halike : Alike s.completeTypewriter
        ((Stage.ofContent i now').loadSave save).completeTypewriter := by
      refine ⟨hcontent, hnode.symm, hscript'.symm, rfl, ?_⟩
      exact congrArg (Option.map Save.undated) (hsave.trans hkept.symm)
    obtain ⟨hanswers, hlast⟩ := halike.performAll hsame hwithin
    exact ⟨hanswers, hlast.view.save⟩

/-- At the gate, a game that was left at the question is resumed there. -/
theorem resumes_gate :
    ∃ i save, Index.ofPack gatePack = .ok i ∧ i.scene? "" = none ∧ i.script? "" = none ∧
      let s := (Stage.ofContent i "1").performAll
        [("2", .startNewGame ⟨"Ann", none⟩ "a"), ("3", .advanceDialog)]
      s.view.save = some save ∧ save.currentDialogId = some "ask" ∧
        s.Resumes ((Stage.ofContent i "4").loadSave save) :=
  ⟨_, _, rfl, rfl, rfl, rfl, rfl,
    resumes_loadSave (p := gatePack) rfl rfl rfl "1" "4"
      [("2", .startNewGame ⟨"Ann", none⟩ "a"), ("3", .advanceDialog)] rfl⟩

end Stage

end Storyline
