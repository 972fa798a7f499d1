import Storyline.Proofs.Stage.Walking

/-!
# Landing on a node

A command can make a node current by a transition: it enters a position, starts a script, goes
on to the next node or follows a choice.  The dialog is then on the screen and the text of the
node is still to be revealed.  Whether the choices of the node are shown at once depends on the
way: a script that is started and a line that is followed show them, a position that is entered
does not.

* `Command.Enters`: the commands that enter a position;
* `Stage.Lands`: a command makes a node current by a transition;
* `View.Landed`: the view after that, with `landed_enter`, `landed_startDialog` and
  `landed_moveTo` for the three ways;
* `Stage.landed_perform`: every landing; `Stage.lands_of_perform`: no node becomes current in
  any other way, but by a load;
* `Stage.choices_of_lands`: what is shown after a landing, and when two landings on a node agree.
-/

namespace Storyline

open Content

namespace Stage

variable {s : Stage} {c : Command} {n : DialogNode}

/-- The command enters a position: a scene, and what is said there. -/
def Command.Enters : Command → Prop
  | .startNewGame _ _ | .changePhase _ | .changeScene _ => True
  | _ => False

instance : DecidablePred Command.Enters := fun c => by
  cases c <;> unfold Command.Enters <;> infer_instance

/-- The command makes the node current by a transition.  To advance does so only where it follows
a line to the next node. -/
inductive Lands (s : Stage) : Command → DialogNode → Prop
  | newGame {game : NewGame} {saveId : String} {n : DialogNode}
    (h : (s.startNewGame game saveId).view.node = some n) : Lands s (.startNewGame game saveId) n
  | phase {phase : Phase} {n : DialogNode} (h : (s.changePhase phase).1 = some n) :
    Lands s (.changePhase phase) n
  | scene {sceneId : String} {scene : Scene} {n : DialogNode}
    (hscene : (s.changeScene sceneId).1 = some scene)
    (h : (s.changeScene sceneId).2.view.node = some n) : Lands s (.changeScene sceneId) n
  | script {scriptId : String} {n : DialogNode} (h : (s.startDialog scriptId).1 = some n) :
    Lands s (.startDialog scriptId) n
  | next {m n : DialogNode} (hnode : s.view.node = some m)
    (hrevealed : s.view.typewriterComplete = true) (hchoices : m.choices = [])
    (h : nextNode? s.view.script m = some n) : Lands s .advanceDialog n
  | choice {choiceId : String} {n : DialogNode} (h : (s.makeChoice choiceId).1 = some n) :
    Lands s (.makeChoice choiceId) n

end Stage

namespace View

/-- The node is current and its text is still to be revealed. -/
structure Landed (v : View) (n : DialogNode) (choicesShown : Bool) : Prop where
  node : v.node = some n
  showDialog : v.showDialog = true
  unrevealed : v.typewriterComplete = false
  showChoices : v.showChoices = choicesShown

end View

namespace Stage

variable {s : Stage} {c : Command} {n : DialogNode}

/-! ## The ways to land -/

/-- A position that is entered does not show the choices of its node. -/
theorem landed_enter {scene : Option Scene} {spot : Option Spot} {change : Save → Save}
    (h : (s.enter scene spot change).view.node = some n) :
    (s.enter scene spot change).view.Landed n false := by
  have hspot : spot.map (·.node) = some n := (node_enter s scene spot change).symm.trans h
  obtain ⟨p, rfl, -⟩ := Option.map_eq_some_iff.mp hspot
  refine ⟨h, ?_, ?_, ?_⟩ <;> rw [view_enter] <;> rfl

theorem landed_changeScene {sceneId : String} {scene : Scene}
    (hscene : (s.changeScene sceneId).1 = some scene)
    (h : (s.changeScene sceneId).2.view.node = some n) :
    (s.changeScene sceneId).2.view.Landed n false := by
  cases hfound : s.content.scene? sceneId with
  | none =>
    rw [changeScene_of_none hfound] at hscene
    cases hscene
  | some found =>
    rw [changeScene, hfound] at h ⊢
    exact landed_enter h

theorem landed_startDialog {scriptId : String} (h : (s.startDialog scriptId).1 = some n) :
    (s.startDialog scriptId).2.view.Landed n (! n.choices.isEmpty) := by
  unfold startDialog at h ⊢
  split at h
  · cases h
  · cases h
    exact ⟨rfl, rfl, rfl, rfl⟩

/-- A line is followed where a dialog is on the screen, and it stays there. -/
theorem landed_moveTo (hshown : s.view.showDialog = true) (m n : DialogNode) :
    (s.moveTo m n).view.Landed n (! n.choices.isEmpty) := by
  refine ⟨rfl, ?_, rfl, rfl⟩
  rw [moveTo, view_changeView, view_changeSave]
  exact hshown

theorem makeChoice_of_some {choiceId : String} (h : (s.makeChoice choiceId).1 = some n) :
    ∃ m, s.view.node = some m ∧ (s.makeChoice choiceId).2 = s.moveTo m n := by
  unfold makeChoice at h ⊢
  split at h
  · rename_i m r hnode _
    split at h
    · cases h
      exact ⟨m, hnode, rfl⟩
    · cases h
  · cases h

/-- After a landing choices are shown if the node has some and no position was entered. -/
theorem landed_perform (hshown : s.view.node.isSome → s.view.showDialog = true)
    (h : Lands s c n) :
    (s.perform c).2.view.Landed n (! decide c.Enters && ! n.choices.isEmpty) := by
  cases h with
  | newGame h => exact landed_enter h
  | @phase phase _ h =>
    have hnode : (s.changePhase phase).2.view.node = some n := (node_enter s _ _ _).trans h
    exact landed_enter hnode
  | scene hscene h => exact landed_changeScene hscene h
  | script h => exact landed_startDialog h
  | @next m _ hnode hrevealed hchoices h =>
    show s.advanceDialog.2.view.Landed n _
    rw [advanceDialog_eq_moveTo hnode hrevealed hchoices h]
    exact landed_moveTo (hshown (by rw [hnode]; rfl)) m n
  | @choice choiceId _ h =>
    obtain ⟨m, hnode, hmoved⟩ := makeChoice_of_some h
    show (s.makeChoice choiceId).2.view.Landed n _
    rw [hmoved]
    exact landed_moveTo (hshown (by rw [hnode]; rfl)) m n

/-! ## No other way -/

theorem lands_of_changeScene {sceneId : String}
    (h : (s.changeScene sceneId).2.view.node = some n) :
    Lands s (.changeScene sceneId) n ∨ s.view.node = some n := by
  cases hfound : s.content.scene? sceneId with
  | none =>
    rw [changeScene_of_none hfound] at h
    exact .inr h
  | some found => exact .inl (.scene (by rw [changeScene, hfound]) h)

theorem lands_of_startDialog {scriptId : String}
    (h : (s.startDialog scriptId).2.view.node = some n) :
    Lands s (.startDialog scriptId) n ∨ s.view.node = some n := by
  cases hspot : s.content.scriptSpot? scriptId with
  | none =>
    rw [startDialog_of_none hspot] at h
    exact .inr h
  | some p =>
    obtain ⟨hanswer, hnode, -⟩ := startDialog_of_some hspot
    exact .inl (.script (hanswer.trans (hnode.symm.trans h)))

theorem lands_of_advanceDialog (h : s.advanceDialog.2.view.node = some n) :
    Lands s .advanceDialog n ∨ s.view.node = some n := by
  unfold advanceDialog at h
  split at h
  · exact .inr h
  · rename_i m hnode
    split at h
    · exact .inr h
    · rename_i hrevealed
      split at h
      · exact .inr h
      · rename_i hchoices
        split at h
        · rename_i target hnext
          cases h
          refine .inl (.next hnode ?_ ?_ hnext)
          · simpa using hrevealed
          · simpa using hchoices
        · cases h

theorem lands_of_makeChoice {choiceId : String}
    (h : (s.makeChoice choiceId).2.view.node = some n) :
    Lands s (.makeChoice choiceId) n ∨ s.view.node = some n := by
  unfold makeChoice at h
  split at h
  · rename_i m r hnode hscript
    split at h
    · rename_i target hchosen
      cases h
      refine .inl (.choice ?_)
      simp [makeChoice, hnode, hscript, hchosen]
    · exact .inr h
  · exact .inr h

/-- A node that is current after a command was landed on, or was current before, or the command
is a load. -/
theorem lands_of_perform (h : (s.perform c).2.view.node = some n) :
    Lands s c n ∨ s.view.node = some n ∨ ∃ save, c = .loadSave save := by
  by_cases hwalk : c.InWalk
  · rcases c.advances_or_chooses with rfl | ⟨choiceId, rfl⟩ | ⟨hadvance, hchoose⟩
    · exact (lands_of_advanceDialog h).imp_right .inl
    · exact (lands_of_makeChoice h).imp_right .inl
    · exact .inr (.inl ((stays_perform s hwalk hadvance hchoose).node.symm.trans h))
  · cases c with
    | startNewGame game saveId => exact .inl (.newGame h)
    | loadSave save => exact .inr (.inr ⟨save, rfl⟩)
    | changePhase phase => exact .inl (.phase ((node_enter s _ _ _).symm.trans h))
    | changeScene sceneId => exact (lands_of_changeScene h).imp_right .inl
    | startDialog scriptId => exact (lands_of_startDialog h).imp_right .inl
    | endDialog => cases h
    | _ => exact absurd trivial hwalk

/-! ## After a landing -/

/-- The mode of a dialog that was landed on. -/
theorem Command.dialogMode_of_landed {v : View}
    (h : v.Landed n (! decide c.Enters && ! n.choices.isEmpty)) :
    v.dialogMode = if n.choices ≠ [] ∧ ¬ c.Enters then .awaitingChoice else .active := by
  rw [View.dialogMode, h.node, h.showChoices]
  by_cases hchoices : n.choices = [] <;> by_cases henters : c.Enters <;> simp [hchoices, henters]

/-- After any history over the index of a pack, a node that a command lands on is current, with
the dialog on the screen and its text still to be revealed, and no command but a load makes a
node current in another way.  Its choices are shown if it has some, unless the command entered a
position: in the latter case they are hidden.  So two landings on one node, after whatever
histories, leave the dialog in the same mode exactly if the node has no choices, or both entered
a position, or neither did. -/
theorem choices_of_lands {p : Pack} {i : Index} (hp : Index.ofPack p = .ok i) {now : String}
    {history : List (String × Command)} (hs : (Stage.ofContent i now).performAll history = s)
    (moment : String) (c : Command) :
    let v := (s.after (moment, c)).view
    (∀ n, v.node = some n → Lands { s with now := moment } c n ∨ s.view.node = some n ∨
      ∃ save, c = .loadSave save) ∧
    ∀ n, Lands { s with now := moment } c n →
      v.node = some n ∧ v.showDialog = true ∧ v.typewriterComplete = false ∧
      (v.showChoices = true ↔ n.choices ≠ [] ∧ ¬ c.Enters) ∧
      ∀ (now' : String) (history' : List (String × Command)) (t : Stage) (moment' : String)
        (d : Command), (Stage.ofContent i now').performAll history' = t →
        Lands { t with now := moment' } d n →
          ((t.after (moment', d)).view.dialogMode = v.dialogMode ↔
            n.choices = [] ∨ (c.Enters ↔ d.Enters)) := by
  have hlanded : ∀ {now : String} {history : List (String × Command)} {s : Stage} {moment : String}
      {c : Command} {n : DialogNode}, (Stage.ofContent i now).performAll history = s →
      Lands { s with now := moment } c n →
        (s.after (moment, c)).view.Landed n (! decide c.Enters && ! n.choices.isEmpty) := by
    intro now history s moment c n hs h
    have hplaced := placed_performAll hp now history
    rw [hs] at hplaced
    exact landed_perform (s := { s with now := moment }) hplaced.showDialog_iff_node.mpr h
  refine ⟨fun n hn => lands_of_perform (s := { s with now := moment }) hn, fun n h => ?_⟩
  have hv := hlanded hs h
  refine ⟨hv.node, hv.showDialog, hv.unrevealed, ?_, fun now' history' t moment' d ht hd => ?_⟩
  · rw [hv.showChoices]
    by_cases henters : c.Enters <;> simp [henters]
  · rw [Command.dialogMode_of_landed hv, Command.dialogMode_of_landed (hlanded ht hd)]
    by_cases hchoices : n.choices = [] <;> by_cases hc : c.Enters <;> by_cases hd : d.Enters <;>
      simp [hchoices, hc, hd]

/-- At the gate the keeper's question has an answer to choose.  A game that begins there does not
show it, the script that is started there does. -/
theorem choices_of_lands_gate :
    ∃ i n, Index.ofPack gatePack = .ok i ∧ n.choices ≠ [] ∧
      let begun := (Stage.ofContent i "1").after ("2", .startNewGame ⟨"Ann", none⟩ "a")
      let started := begun.after ("3", .startDialog "keeper")
      begun.view.node = some n ∧ begun.view.showChoices = false ∧
        started.view.node = some n ∧ started.view.showChoices = true ∧
        started.view.dialogMode ≠ begun.view.dialogMode := by
  obtain ⟨i, hi, n, hchoices, hbegin, hstart⟩ : ∃ i, Index.ofPack gatePack = .ok i ∧
      ∃ n : DialogNode, n.choices ≠ [] ∧
        Lands { Stage.ofContent i "1" with now := "2" } (.startNewGame ⟨"Ann", none⟩ "a") n ∧
        Lands { (Stage.ofContent i "1").after ("2", .startNewGame ⟨"Ann", none⟩ "a") with
          now := "3" } (.startDialog "keeper") n :=
    ⟨_, rfl, _, List.cons_ne_nil _ _, .newGame rfl, .script rfl⟩
  have hempty : (Stage.ofContent i "1").performAll [] = Stage.ofContent i "1" := rfl
  have hbegun : (Stage.ofContent i "1").performAll [("2", .startNewGame ⟨"Ann", none⟩ "a")] =
      (Stage.ofContent i "1").after ("2", .startNewGame ⟨"Ann", none⟩ "a") := rfl
  obtain ⟨hnode, -, -, hhidden, -⟩ := (choices_of_lands hi hempty "2" _).2 n hbegin
  obtain ⟨hnode', -, -, hshown, hmode⟩ := (choices_of_lands hi hbegun "3" _).2 n hstart
  refine ⟨i, n, hi, hchoices, hnode, ?_, hnode', hshown.mpr ⟨hchoices, id⟩, fun hsame => ?_⟩
  · exact Bool.eq_false_iff.mpr fun h => (hhidden.mp h).2 trivial
  · rcases (hmode "1" [] _ "2" _ hempty hbegin).mp hsame.symm with hnone | hway
    · exact hchoices hnone
    · exact hway.mpr trivial

end Stage

end Storyline
