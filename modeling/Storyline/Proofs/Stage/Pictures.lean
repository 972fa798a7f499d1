import Storyline.Proofs.Stage.Landing

/-!
# Pictures that stay

Whenever a position is entered the screen shows its pictures anew.  From then on each node that
becomes current puts its background and its sprite over those that are shown, and a node without
them leaves them as they are, whatever happens in between.

* `Stage.entered?`: the scene that a command enters;
* `Stage.landing?`: the node that it makes current by a transition;
* `Stretch`: the scene that was entered last, and the nodes that became current since;
* `View.Frames`, `frames_perform`: what a command that enters nothing does to the pictures;
* `View.Depicts`, `depicts_next`: the pictures of a stretch, kept by every command;
* `pictures_performAll`: after any history.
-/

namespace Storyline

open Content

namespace Stage

variable {s : Stage} {c : Command} {n : DialogNode}

/-- The scene that a command enters a position of.  A position may be without a scene, and a
change to an unknown scene enters none. -/
def entered? (s : Stage) : Command → Option (Option Scene)
  | .startNewGame game saveId => some (s.content.scene? (s.newSave game saveId).currentSceneId)
  | .loadSave save => some (s.content.scene? save.currentSceneId)
  | .changePhase phase => some (s.content.phaseScene? phase)
  | .changeScene sceneId => (s.content.scene? sceneId).map some
  | _ => none

/-- The node that a command makes current by a transition. -/
def landing? (s : Stage) : Command → Option DialogNode
  | .startNewGame game saveId => (s.startNewGame game saveId).view.node
  | .changePhase phase => (s.changePhase phase).1
  | .changeScene sceneId =>
    (s.changeScene sceneId).1.bind fun _ => (s.changeScene sceneId).2.view.node
  | .startDialog scriptId => (s.startDialog scriptId).1
  | .advanceDialog =>
    if s.view.typewriterComplete then
      s.view.node.bind fun m => if m.choices = [] then nextNode? s.view.script m else none
    else none
  | .makeChoice choiceId => (s.makeChoice choiceId).1
  | _ => none

/-- The function gives the node of the relation. -/
theorem landing?_eq_some_iff : s.landing? c = some n ↔ Lands s c n := by
  constructor
  · intro h
    cases c with
    | startNewGame game saveId => exact .newGame h
    | changePhase phase => exact .phase h
    | changeScene sceneId =>
      obtain ⟨scene, hscene, hnode⟩ := Option.bind_eq_some_iff.mp h
      exact .scene hscene hnode
    | startDialog scriptId => exact .script h
    | advanceDialog =>
      rw [landing?, Option.ite_none_right_eq_some, Option.bind_eq_some_iff] at h
      obtain ⟨hrevealed, m, hnode, h⟩ := h
      rw [Option.ite_none_right_eq_some] at h
      exact .next hnode hrevealed h.1 h.2
    | makeChoice choiceId => exact .choice h
    | _ => cases h
  · intro h
    cases h with
    | newGame h => exact h
    | phase h => exact h
    | scene hscene h => exact Option.bind_eq_some_iff.mpr ⟨_, hscene, h⟩
    | script h => exact h
    | next hnode hrevealed hchoices h =>
      rw [landing?, if_pos hrevealed, hnode, Option.bind_some, if_pos hchoices, h]
    | choice h => exact h

end Stage

/-- The scene of the position that was entered last, and the nodes that became current since, the
earliest first. -/
structure Stretch where
  scene : Option Scene
  nodes : List DialogNode

namespace Stretch

/-- Before anything was entered. -/
def blank : Stretch := ⟨none, []⟩

/-- A command begins a stretch anew, where the node that is current after it comes first, or it
goes on with the stretch, where the node that it lands on comes last. -/
def next (σ : Stretch) (s : Stage) (c : Stage.Command) : Stretch :=
  match s.entered? c with
  | some scene => ⟨scene, (s.perform c).2.view.node.toList⟩
  | none => ⟨σ.scene, σ.nodes ++ (s.landing? c).toList⟩

/-- The last picture of a kind among nodes.  The empty text is no picture. -/
def lastPicture (kind : DialogNode → Option String) (ns : List DialogNode) : Option String :=
  (ns.filterMap fun n => nonempty (kind n)).getLast?

/-- One more node. -/
theorem lastPicture_append (kind : DialogNode → Option String) (ns : List DialogNode)
    (n : Option DialogNode) :
    lastPicture kind (ns ++ n.toList) =
      ((n.bind fun n => nonempty (kind n)) <|> lastPicture kind ns) := by
  cases n with
  | none => rw [Option.toList_none, List.append_nil]; rfl
  | some n =>
    rw [lastPicture, Option.toList_some, List.filterMap_append, List.getLast?_append]
    cases h : nonempty (kind n) <;> simp [lastPicture, h]

theorem lastPicture_toList (kind : DialogNode → Option String) (n : Option DialogNode) :
    lastPicture kind n.toList = n.bind fun n => nonempty (kind n) := by
  rw [← List.nil_append n.toList, lastPicture_append]
  cases n.bind fun n => nonempty (kind n) <;> rfl

end Stretch

namespace View

/-- The later view has the scene of the earlier one and its pictures, under those of a node that
became current, if one did. -/
structure Frames (v w : View) (n : Option DialogNode) : Prop where
  scene : w.scene = v.scene
  node : ∀ m, w.node = some m → (n <|> v.node) = some m
  background : w.background = ((n.bind fun n => nonempty n.background) <|> v.background)
  sprite : w.characterSprite = ((n.bind fun n => nonempty n.characterSprite) <|> v.characterSprite)

/-- The view shows a stretch. -/
structure Depicts (v : View) (σ : Stretch) : Prop where
  scene : v.scene = σ.scene
  node : ∀ n, v.node = some n → σ.nodes.getLast? = some n
  background : v.background =
    (Stretch.lastPicture (·.background) σ.nodes <|> nonempty (σ.scene.map (·.background)))
  sprite : nonempty v.characterSprite = Stretch.lastPicture (·.characterSprite) σ.nodes

end View

namespace Stage

variable {s : Stage} {c : Command} {n : DialogNode}

/-! ## Commands that enter nothing -/

theorem frames_changeSave (s : Stage) (f : Save → Save) :
    s.view.Frames (s.changeSave f).view none := by
  rw [view_changeSave]
  exact ⟨rfl, fun _ h => h, rfl, rfl⟩

theorem frames_addPlayTime (s : Stage) (seconds : Float) :
    s.view.Frames (s.addPlayTime seconds).view none := by
  unfold addPlayTime
  split
  · exact ⟨rfl, fun _ h => h, rfl, rfl⟩
  · exact frames_changeSave s _

theorem frames_endDialog (s : Stage) : s.view.Frames s.endDialog.view none := by
  rw [endDialog, view_changeView, view_changeSave]
  exact ⟨rfl, fun n h => absurd h.symm (Option.some_ne_none n), rfl, rfl⟩

theorem frames_startDialog (s : Stage) (scriptId : String) :
    s.view.Frames (s.startDialog scriptId).2.view (s.startDialog scriptId).1 := by
  unfold startDialog
  split
  · exact ⟨rfl, fun _ h => h, rfl, rfl⟩
  · rw [view_changeView, view_changeSave]
    exact ⟨rfl, fun _ h => h, rfl, rfl⟩

theorem frames_moveTo (s : Stage) (m n : DialogNode) :
    s.view.Frames (s.moveTo m n).view (some n) := by
  rw [moveTo, view_changeView, view_changeSave]
  exact ⟨rfl, fun _ h => h, rfl, rfl⟩

theorem frames_makeChoice (s : Stage) (choiceId : String) :
    s.view.Frames (s.makeChoice choiceId).2.view (s.makeChoice choiceId).1 := by
  unfold makeChoice
  split
  · split
    · exact frames_moveTo s _ _
    · exact ⟨rfl, fun _ h => h, rfl, rfl⟩
  · exact ⟨rfl, fun _ h => h, rfl, rfl⟩

theorem frames_advanceDialog (s : Stage) :
    s.view.Frames s.advanceDialog.2.view (s.landing? .advanceDialog) := by
  cases hland : s.landing? .advanceDialog with
  | some n =>
    cases landing?_eq_some_iff.mp hland with
    | next hnode hrevealed hchoices hnext =>
      rw [advanceDialog_eq_moveTo hnode hrevealed hchoices hnext]
      exact frames_moveTo s _ n
  | none =>
    have hno : ∀ n, ¬ Lands s .advanceDialog n := fun n h => by
      rw [landing?_eq_some_iff.mpr h] at hland
      cases hland
    unfold advanceDialog
    split
    · exact ⟨rfl, fun _ h => h, rfl, rfl⟩
    · rename_i m hnode
      split
      · exact ⟨rfl, fun _ h => h, rfl, rfl⟩
      · rename_i hrevealed
        split
        · exact ⟨rfl, fun _ h => h, rfl, rfl⟩
        · rename_i hchoices
          split
          · rename_i target hnext
            exact absurd (.next hnode (by simpa using hrevealed) (by simpa using hchoices) hnext)
              (hno target)
          · exact frames_endDialog s

/-- A command that enters nothing puts the pictures of the node that it lands on over those that
are shown, and does nothing else to them. -/
theorem frames_perform (h : s.entered? c = none) :
    s.view.Frames (s.perform c).2.view (s.landing? c) := by
  cases c with
  | startNewGame | loadSave | changePhase => cases h
  | changeScene sceneId =>
    have hunknown : s.content.scene? sceneId = none := Option.map_eq_none_iff.mp h
    rw [landing?, perform, changeScene_of_none hunknown]
    exact ⟨rfl, fun _ h => h, rfl, rfl⟩
  | startDialog scriptId => exact frames_startDialog s scriptId
  | advanceDialog => exact frames_advanceDialog s
  | makeChoice choiceId => exact frames_makeChoice s choiceId
  | endDialog => exact frames_endDialog s
  | addPlayTime seconds => exact frames_addPlayTime s seconds
  | addItem | removeItem | addMemory | unlockAchievement | setFlag => exact frames_changeSave s _
  | setLoading | completeTypewriter | toggleMenu | toggleInventory | toggleMemories =>
    exact ⟨rfl, fun _ h => h, rfl, rfl⟩

/-! ## Commands that enter a position -/

/-- The pictures at a position are those of its node, over the background of its scene. -/
theorem depicts_position {v : View} {scene : Option Scene} {spot : Option Spot}
    (hscene : v.scene = scene) (hnode : v.node = spot.map (·.node))
    (hbackground : v.background = backgroundAt scene spot)
    (hsprite : v.characterSprite = spot.bind (·.node.characterSprite)) :
    v.Depicts ⟨scene, v.node.toList⟩ := by
  refine ⟨hscene, fun n hn => ?_, ?_, ?_⟩
  · rw [hn]
    rfl
  · rw [hbackground, Stretch.lastPicture_toList, hnode]
    cases spot <;> rfl
  · rw [hsprite, Stretch.lastPicture_toList, hnode]
    cases spot <;> rfl

theorem depicts_enter (s : Stage) (scene : Option Scene) (spot : Option Spot)
    (change : Save → Save) :
    (s.enter scene spot change).view.Depicts
      ⟨scene, (s.enter scene spot change).view.node.toList⟩ := by
  rw [view_enter]
  exact depicts_position rfl rfl rfl rfl

theorem depicts_of_entered {scene : Option Scene} (h : s.entered? c = some scene) :
    (s.perform c).2.view.Depicts ⟨scene, (s.perform c).2.view.node.toList⟩ := by
  cases c with
  | startNewGame game saveId =>
    cases h
    exact depicts_enter _ _ _ _
  | loadSave save =>
    cases h
    have hnode : (s.loadSave save).view.node = (s.content.savedSpot? save).map (·.node) := rfl
    exact depicts_position rfl hnode rfl rfl
  | changePhase phase =>
    cases h
    exact depicts_enter _ _ _ _
  | changeScene sceneId =>
    obtain ⟨found, hfound, rfl⟩ := Option.map_eq_some_iff.mp h
    rw [perform, changeScene, hfound]
    exact depicts_enter _ _ _ _
  | _ => cases h

/-! ## Histories -/

/-- What is nonempty is shown first. -/
theorem nonempty_orElse (a b : Option String) :
    nonempty (nonempty a <|> b) = (nonempty a <|> nonempty b) := by
  have hidem : nonempty (nonempty a) = nonempty a := by
    simp [nonempty, Option.filter_filter]
  cases h : nonempty a with
  | none => rfl
  | some x =>
    rw [h] at hidem
    exact hidem

/-- Every command goes on with what is shown. -/
theorem depicts_next {σ : Stretch} (hs : s.view.Depicts σ) (c : Command) :
    (s.perform c).2.view.Depicts (σ.next s c) := by
  unfold Stretch.next
  split
  · rename_i scene h
    exact depicts_of_entered h
  · rename_i h
    have hframes := frames_perform h
    refine ⟨hframes.scene.trans hs.scene, fun n hn => ?_, ?_, ?_⟩
    · have hcurrent := hframes.node n hn
      dsimp only
      cases hland : s.landing? c with
      | none =>
        rw [hland] at hcurrent
        rw [Option.toList_none, List.append_nil]
        exact hs.node n hcurrent
      | some m =>
        rw [hland] at hcurrent
        rw [Option.toList_some, List.getLast?_concat]
        exact hcurrent
    · rw [hframes.background, hs.background, Stretch.lastPicture_append]
      cases s.landing? c with
      | none => rfl
      | some n => cases h : nonempty n.background <;> simp [h]
    · rw [hframes.sprite, Stretch.lastPicture_append, ← hs.sprite]
      cases s.landing? c with
      | none => rfl
      | some n => exact nonempty_orElse _ _

/-- The stretch that a history ends in. -/
def stretch (s : Stage) (σ : Stretch) : List (String × Command) → Stretch
  | [] => σ
  | c :: cs => (s.after c).stretch (σ.next { s with now := c.1 } c.2) cs

theorem depicts_performAll {σ : Stretch} (hs : s.view.Depicts σ)
    (history : List (String × Command)) :
    (s.performAll history).view.Depicts (s.stretch σ history) := by
  induction history generalizing s σ with
  | nil => exact hs
  | cons c cs ih => exact ih (depicts_next (s := { s with now := c.1 }) hs c.2)

theorem depicts_blank (i : Index) (now : String) : (ofContent i now).view.Depicts .blank :=
  ⟨rfl, fun n h => absurd h.symm (Option.some_ne_none n), rfl, rfl⟩

/-- After any history over any content the screen shows the scene that was entered last.  Its
background is the last one of the nodes that became current since, or else that of the scene, and
its sprite is the last one of those nodes; a node on the screen is the last of them.  If the dialog
then ends and another one starts, both stay but for the pictures of the node it starts at. -/
theorem pictures_performAll (i : Index) (now : String) (history : List (String × Command)) :
    let s := (ofContent i now).performAll history
    let σ := (ofContent i now).stretch .blank history
    (s.view.scene = σ.scene ∧ (∀ n, s.view.node = some n → σ.nodes.getLast? = some n) ∧
      s.view.background =
        (Stretch.lastPicture (·.background) σ.nodes <|> nonempty (σ.scene.map (·.background))) ∧
      nonempty s.view.characterSprite = Stretch.lastPicture (·.characterSprite) σ.nodes) ∧
    ∀ (moment later scriptId : String),
      let ended : Stage := { s.after (moment, .endDialog) with now := later }
      let started := ended.startDialog scriptId
      started.2.view.background =
        ((started.1.bind fun n => nonempty n.background) <|> s.view.background) ∧
      started.2.view.characterSprite =
        ((started.1.bind fun n => nonempty n.characterSprite) <|> s.view.characterSprite) := by
  intro s σ
  have hdepicts : s.view.Depicts σ := depicts_performAll (depicts_blank i now) history
  refine ⟨⟨hdepicts.scene, hdepicts.node, hdepicts.background, hdepicts.sprite⟩, ?_⟩
  intro moment later scriptId ended started
  have hended : s.view.Frames ended.view none := frames_endDialog { s with now := moment }
  have hstarted : ended.view.Frames started.2.view started.1 := frames_startDialog ended scriptId
  exact ⟨hstarted.background.trans (by rw [hended.background]; rfl),
    hstarted.sprite.trans (by rw [hended.sprite]; rfl)⟩

/-- The pack of the gate with a picture of the hall at the keeper's question and an empty one at
the answer, and a sprite for each. -/
def hallPack : Pack :=
  { gatePack with scripts := gatePack.scripts.map fun r => { r with nodes := r.nodes.map fun n =>
      { n with
        background := some (if n.id = "ask" then "hall.png" else "")
        characterSprite := some n.id } } }

/-- In the hall the picture of the question stays over the answer, and over a second dialog. -/
example : ∃ i, Index.ofPack hallPack = .ok i ∧
    let s := (ofContent i "1").performAll
      [("2", .startNewGame ⟨"Ann", none⟩ "a"), ("3", .makeChoice "yes"), ("4", .endDialog)]
    s.view.background = some "hall.png" ∧ s.view.characterSprite = some "welcome" :=
  ⟨_, rfl, rfl, rfl⟩

end Stage

end Storyline
