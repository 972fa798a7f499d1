import Storyline.Proofs.Stage.Position

/-!
# What the observers are shown

After every command the view shows where the live save stands.  On the way there the
observers of the stage may be shown another view: a command that moves the game changes the
save first, and what has been on the screen until then is shown with the new save.

* `View.Shows`: the records on the screen are those that a save stands at; `View.Whole`: so
  it is for the live save of the view;
* `View.Alike`: two views with the same records;
* `Stage.Unfolding`: the views shown by a command that is not a load, from the view before it
  to the view after it; `Stage.Unfolds`: one stage becomes another that way, with
  `unfolds_perform`;
* `View.At.whole`, `Stage.Unfolding.torn_iff`: when what is shown is whole;
* `Stage.torn_shown_iff`: a view that is not whole is shown exactly when a command other than
  a load moves the live save away from what is on the screen.
-/

namespace Storyline

open Content

namespace View

/-- The records on the screen are those that the save stands at: it has the id of a node
exactly if one is on the screen, and the ids of the node, the script and the scene are those
of the records. -/
structure Shows (v : View) (save : Save) : Prop where
  set : (nonempty save.currentDialogId).isSome ↔ v.node.isSome
  node : ∀ n ∈ v.node, save.currentDialogId = some n.id
  script : ∀ s ∈ v.script, save.currentDialogScriptId = some s.id
  unset : v.script = none → nonempty save.currentDialogScriptId = none
  scene : ∀ c ∈ v.scene, c.id = save.currentSceneId

/-- The view shows where its save stands, if it has one. -/
def Whole (v : View) : Prop := ∀ save ∈ v.save, v.Shows save

/-- The views have the same records. -/
structure Alike (v w : View) : Prop where
  node : v.node = w.node
  script : v.script = w.script
  scene : v.scene = w.scene

variable {v w : View} {save : Save}

theorem Alike.shows_iff (h : v.Alike w) : v.Shows save ↔ w.Shows save := by
  constructor
  · rintro ⟨hset, hnode, hscript, hunset, hscene⟩
    exact ⟨h.node ▸ hset, h.node ▸ hnode, h.script ▸ hscript, h.script ▸ hunset, h.scene ▸ hscene⟩
  · rintro ⟨hset, hnode, hscript, hunset, hscene⟩
    exact ⟨h.node ▸ hset, h.node ▸ hnode, h.script ▸ hscript, h.script ▸ hunset, h.scene ▸ hscene⟩

/-- No spot of the content has a node without an id. -/
theorem id_ne_empty_of_hasSpot {i : Index} {p : Spot} (h : i.HasSpot p) : p.node.id ≠ "" := by
  intro hempty
  have hfound := h.2
  rw [hempty, Script.node?_empty] at hfound
  cases hfound

/-- A view at a spot, or at none, is whole. -/
theorem At.whole {i : Index} {spot : Option Spot} (h : v.At i spot) : v.Whole := by
  intro save hsave
  have hnames := h.named save hsave
  cases spot with
  | none =>
    have hnode : v.node = none := h.node
    have hscript : v.script = none := h.script
    refine ⟨?_, ?_, ?_, fun _ => hnames.2, h.scene save hsave⟩
    · rw [hnames.1, hnode]
      exact Iff.rfl
    · rw [hnode]
      exact fun n hn => nomatch hn
    · rw [hscript]
      exact fun s hs => nomatch hs
  | some p =>
    have hnode : v.node = some p.node := h.node
    have hscript : v.script = some p.script := h.script
    have hset : nonempty save.currentDialogId = some p.node.id := by
      rw [hnames.1]
      exact Option.filter_eq_some_iff.mpr ⟨rfl, by simpa using id_ne_empty_of_hasSpot (h.found p rfl)⟩
    refine ⟨?_, ?_, ?_, fun hnone => ?_, h.scene save hsave⟩
    · rw [hset, hnode]
      exact iff_of_true rfl rfl
    · rw [hnode]
      rintro n ⟨⟩
      exact hnames.1
    · rw [hscript]
      rintro s ⟨⟩
      exact hnames.2
    · rw [hscript] at hnone
      cases hnone

end View

namespace Stage

/-- The views, the latest first, that a command other than a load shows from the view
before it to the view after it. -/
inductive Unfolding (before after : View) : List View → Prop
  /-- Nothing changes. -/
  | quiet (h : after = before) : Unfolding before after []
  /-- What is on the screen stays. -/
  | still (h : after.Alike before) : Unfolding before after [after]
  /-- There is no game that could move. -/
  | saveless (h : after.save = none) : Unfolding before after [after]
  /-- The save is shown before the records are. -/
  | twice {half : View} (hsave : half.save = after.save) (h : half.Alike before) :
    Unfolding before after [after, half]

section Unfolding

variable {before after : View} {vs : List View}

theorem Unfolding.length_le (h : Unfolding before after vs) : vs.length ≤ 2 := by
  cases h with
  | quiet => exact Nat.zero_le 2
  | still | saveless => exact Nat.le_succ 1
  | twice => exact Nat.le_refl 2

/-- The last view that is shown, or the one before if none is, is the one after the
command. -/
theorem Unfolding.getD_head? (h : Unfolding before after vs) : vs.head?.getD before = after := by
  cases h with
  | quiet h => exact h.symm
  | still | saveless | twice => rfl

/-- Where the view afterwards is whole, one that is not is shown exactly if the records
before the command are not those that the save afterwards stands at. -/
theorem Unfolding.torn_iff (h : Unfolding before after vs) (hafter : after.Whole) :
    (∃ v ∈ vs, ¬v.Whole) ↔ ∃ save ∈ after.save, ¬before.Shows save := by
  cases h with
  | quiet heq =>
    refine iff_of_false (fun ⟨v, hv, _⟩ => nomatch hv) ?_
    rintro ⟨save, hsave, hnot⟩
    exact hnot (heq ▸ hafter save hsave)
  | still halike =>
    refine iff_of_false (fun ⟨v, hv, hnot⟩ => hnot (List.mem_singleton.mp hv ▸ hafter)) ?_
    rintro ⟨save, hsave, hnot⟩
    exact hnot (halike.shows_iff.mp (hafter save hsave))
  | saveless hnone =>
    refine iff_of_false (fun ⟨v, hv, hnot⟩ => hnot (List.mem_singleton.mp hv ▸ hafter)) ?_
    rw [hnone]
    exact fun ⟨save, hsave, _⟩ => nomatch hsave
  | @twice half hsave halike =>
    have hhalf : half.Whole ↔ ∀ save ∈ after.save, before.Shows save := by
      simp only [View.Whole, hsave, halike.shows_iff]
    have hpair : (∃ v ∈ [after, half], ¬v.Whole) ↔ ¬half.Whole := by
      constructor
      · rintro ⟨v, hv, hnot⟩
        rcases List.mem_cons.mp hv with rfl | hv
        · exact absurd hafter hnot
        · exact List.mem_singleton.mp hv ▸ hnot
      · exact fun hnot => ⟨half, List.mem_cons_of_mem _ (List.mem_singleton_self _), hnot⟩
    rw [hpair, hhalf]
    simp only [Classical.not_forall, exists_prop]

end Unfolding

/-- The stage becomes another one by showing the views of an unfolding. -/
def Unfolds (s t : Stage) : Prop :=
  ∃ vs, t.shown = vs ++ s.shown ∧ Unfolding s.view t.view vs

/-- A change of the save and then of the records. -/
theorem unfolds_enact (s : Stage) (f : Save → Save) {g : View → View}
    (hg : ∀ v, (g v).save = v.save) : s.Unfolds ((s.changeSave f).changeView g) := by
  cases hsave : s.view.save with
  | none =>
    rw [changeSave_of_none hsave]
    exact ⟨[g s.view], rfl, .saveless ((hg _).trans hsave)⟩
  | some save =>
    rw [changeSave_of_some hsave]
    exact ⟨[_, _], rfl, .twice (hg _).symm ⟨rfl, rfl, rfl⟩⟩

theorem unfolds_enter (s : Stage) (scene : Option Scene) (spot : Option Spot)
    (change : Save → Save) : s.Unfolds (s.enter scene spot change) :=
  unfolds_enact s _ fun _ => rfl

theorem unfolds_moveTo (s : Stage) (current target : DialogNode) :
    s.Unfolds (s.moveTo current target) :=
  unfolds_enact s _ fun _ => rfl

theorem unfolds_endDialog (s : Stage) : s.Unfolds s.endDialog :=
  unfolds_enact s _ fun _ => rfl

/-- A change of the save's data alone. -/
theorem unfolds_changeSave (s : Stage) (f : Save → Save) : s.Unfolds (s.changeSave f) := by
  cases hsave : s.view.save with
  | none =>
    rw [changeSave_of_none hsave]
    exact ⟨[], rfl, .quiet rfl⟩
  | some save =>
    rw [changeSave_of_some hsave]
    exact ⟨[_], rfl, .still ⟨rfl, rfl, rfl⟩⟩

/-- A change of the screen alone. -/
theorem unfolds_changeView (s : Stage) {g : View → View} (hg : ∀ v, (g v).Alike v) :
    s.Unfolds (s.changeView g) :=
  ⟨[_], rfl, .still (hg s.view)⟩

/-- Nothing is shown where nothing changes. -/
theorem unfolds_refl (s : Stage) : s.Unfolds s := ⟨[], rfl, .quiet rfl⟩

/-- A new game is shown where the former one, or none, is on the screen, and then where it
begins. -/
theorem unfolds_startNewGame (s : Stage) (game : NewGame) (saveId : String) :
    s.Unfolds (s.startNewGame game saveId) :=
  ⟨[_, _], rfl, .twice rfl ⟨rfl, rfl, rfl⟩⟩

theorem unfolds_changeScene (s : Stage) (sceneId : String) :
    s.Unfolds (s.changeScene sceneId).2 := by
  unfold changeScene
  split
  · exact unfolds_refl s
  · exact unfolds_enter s _ _ _

theorem unfolds_startDialog (s : Stage) (scriptId : String) :
    s.Unfolds (s.startDialog scriptId).2 := by
  unfold startDialog
  split
  · exact unfolds_refl s
  · exact unfolds_enact s _ fun _ => rfl

theorem unfolds_advanceDialog (s : Stage) : s.Unfolds s.advanceDialog.2 := by
  unfold advanceDialog
  split
  · exact unfolds_refl s
  · split
    · exact unfolds_changeView s fun _ => ⟨rfl, rfl, rfl⟩
    · split
      · exact unfolds_changeView s fun _ => ⟨rfl, rfl, rfl⟩
      · split
        · exact unfolds_moveTo s _ _
        · exact unfolds_endDialog s

theorem unfolds_makeChoice (s : Stage) (choiceId : String) :
    s.Unfolds (s.makeChoice choiceId).2 := by
  unfold makeChoice
  split
  · split
    · exact unfolds_moveTo s _ _
    · exact unfolds_refl s
  · exact unfolds_refl s

theorem unfolds_addPlayTime (s : Stage) (seconds : Float) : s.Unfolds (s.addPlayTime seconds) := by
  unfold addPlayTime
  split
  · exact unfolds_refl s
  · exact unfolds_changeSave s _

/-- The views that any command but a load shows. -/
theorem unfolds_perform (s : Stage) {c : Command} (hc : ∀ save, c ≠ .loadSave save) :
    s.Unfolds (s.perform c).2 := by
  cases c with
  | startNewGame game saveId => exact unfolds_startNewGame s game saveId
  | loadSave save => exact absurd rfl (hc save)
  | changePhase phase => exact unfolds_enter s _ _ _
  | changeScene sceneId => exact unfolds_changeScene s sceneId
  | startDialog scriptId => exact unfolds_startDialog s scriptId
  | advanceDialog => exact unfolds_advanceDialog s
  | makeChoice choiceId => exact unfolds_makeChoice s choiceId
  | endDialog => exact unfolds_endDialog s
  | addPlayTime seconds => exact unfolds_addPlayTime s seconds
  | addItem | removeItem | addMemory | unlockAchievement | setFlag =>
    exact unfolds_changeSave s _
  | setLoading | completeTypewriter | toggleMenu | toggleInventory | toggleMemories =>
    exact unfolds_changeView s fun _ => ⟨rfl, rfl, rfl⟩

/-- A load shows one view, the one after it. -/
theorem shown_loadSave (s : Stage) (save : Save) :
    (s.loadSave save).shown = (s.loadSave save).view :: s.shown := rfl

/-- After every history over a pack, a command shows at most two views, of which the last one
is whole and stays.  A view that is not whole is shown exactly when the command is not a load
and the save afterwards does not stand at the records that were on the screen before. -/
theorem torn_shown_iff {p : Pack} {i : Index} (hp : Index.ofPack p = .ok i) (now moment : String)
    (history : List (String × Command)) (c : Command) :
    let s := (Stage.ofContent i now).performAll history
    let t := (({ s with now := moment } : Stage).perform c).2
    ∃ vs, t.shown = vs ++ s.shown ∧ vs.length ≤ 2 ∧ vs.head?.getD s.view = t.view ∧ t.view.Whole ∧
      ((∃ v ∈ vs, ¬v.Whole) ↔
        (∀ save, c ≠ .loadSave save) ∧ ∃ save ∈ t.view.save, ¬s.view.Shows save) := by
  intro s t
  obtain ⟨spot, hspot⟩ := exists_at_performAll (Index.coherent_of_ofPack hp) history
    (s := Stage.ofContent i now) rfl (View.at_initial i)
  have hcontent : s.content = i := content_performAll _ _
  obtain ⟨later, hlater⟩ := exists_at_perform (s := { s with now := moment })
    (Index.coherent_of_ofPack hp) hcontent hspot c
  by_cases hc : ∀ save, c ≠ .loadSave save
  · obtain ⟨vs, hvs, hunfolds⟩ := unfolds_perform { s with now := moment } hc
    refine ⟨vs, hvs, hunfolds.length_le, hunfolds.getD_head?, hlater.whole, ?_⟩
    rw [hunfolds.torn_iff hlater.whole, and_iff_right hc]
  · obtain ⟨save, rfl⟩ : ∃ save, c = .loadSave save := by simpa using hc
    refine ⟨[t.view], shown_loadSave _ save, Nat.le_succ 1, rfl, hlater.whole, ?_⟩
    refine iff_of_false (fun ⟨v, hv, hnot⟩ => hnot (List.mem_singleton.mp hv ▸ hlater.whole)) ?_
    exact fun h => h.1 save rfl

/-- At the gate the game that begins is shown with the id of the keeper's question while no
node is on the screen. -/
theorem torn_shown_gate :
    ∃ i, Index.ofPack gatePack = .ok i ∧
      let t := ((Stage.ofContent i "1").perform (.startNewGame ⟨"Ann", none⟩ "a")).2
      t.shown.length = 2 ∧ t.view.Whole ∧ ∃ v ∈ t.shown, ¬v.Whole := by
  refine ⟨_, rfl, ?_⟩
  obtain ⟨vs, hvs, -, -, hwhole, htorn⟩ :=
    torn_shown_iff (p := gatePack) rfl "1" "1" [] (.startNewGame ⟨"Ann", none⟩ "a")
  refine ⟨rfl, hwhole, ?_⟩
  obtain ⟨v, hv, hnot⟩ := htorn.mpr ⟨fun _ => nofun, _, rfl, fun h => nomatch h.set.mp rfl⟩
  exact ⟨v, hvs ▸ List.mem_append_left _ hv, hnot⟩

end Stage

end Storyline
