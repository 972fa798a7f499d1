import Storyline.Proofs.Engine.Acting
import Storyline.Proofs.Engine.Purity
import Storyline.Proofs.Stage.Progress

/-!
# Games that go on

Whatever an engine does, apart from beginning a game and loading one, it goes on with the live
save.  The courses of actions hold no command that replaces the save, so this needs nothing of the
content: effects may be nested, run into a cycle or end with an unknown one, and writes may fail.

* `Beat.Onward`, `Stage.continues_playAll`: beats that go on with the live save;
* `Beat.Moves`, `Engine.moves_of_commands`, `Engine.moves_choiceCourse`, …: courses have no other
  beats than those;
* `Engine.retimed_saveGame`: saving counts time as played, whether the write fails or not;
* `Engine.Move.Onward`, `Engine.continues_runAll`: one move, and a history;
* `Engine.progress_runAll`: what is never lost.
-/

namespace Storyline

open Content

/-! ## Beats -/

/-- The beat goes on with the live save. -/
def Beat.Onward : Beat → Prop
  | .command c => c.Onward
  | _ => True

/-- The beat tells something, carries an effect out, or moves the story or its dialog. -/
def Beat.Moves : Beat → Prop
  | .command c => c.Moves
  | _ => True

theorem Beat.Moves.onward {b : Beat} (h : b.Moves) : b.Onward := by
  cases b with
  | command c =>
    cases c with
    | startNewGame game saveId => cases h
    | loadSave save => cases h
    | _ => trivial
  | _ => trivial

namespace Stage

theorem continues_bring (s : Stage) (x : Effect) : s.Continues (s.bring x) := by
  cases x with
  | changeScene sceneId => exact continues_perform (c := .changeScene sceneId) trivial
  | changePhase phase => exact continues_perform (c := .changePhase phase) trivial
  | setFlag key value => exact continues_perform (c := .setFlag key value) trivial
  | addItem item => exact continues_perform (c := .addItem item) trivial
  | removeItem itemId quantity =>
    exact continues_perform (c := .removeItem itemId quantity) trivial
  | addMemory memory => exact continues_perform (c := .addMemory memory) trivial
  | unlockAchievement achievementId =>
    exact continues_perform (c := .unlockAchievement achievementId) trivial
  | playSound sound => exact .refl s
  | shakeScreen intensity duration => exact .refl s

theorem continues_play (s : Stage) {b : Beat} (hb : b.Onward) : s.Continues (s.play b) := by
  cases b with
  | command c => exact continues_perform hb
  | tell r => exact .refl s
  | effect x => exact continues_bring s x

theorem continues_playAll {t : List Beat} (ht : ∀ b ∈ t, b.Onward) (s : Stage) :
    s.Continues (s.playAll t) := by
  induction t generalizing s with
  | nil => exact .refl s
  | cons b t ih =>
    obtain ⟨hb, ht⟩ := List.forall_mem_cons.mp ht
    exact (continues_play s hb).trans (ih ht (s.play b))

end Stage

namespace Engine

/-! ## Courses -/

/-- All beats of the course go on with the live save. -/
def Course.Onward (c : Course) : Prop := ∀ b ∈ c.beats, b.Onward

/-- The course has no commands but those that move the story or its dialog. -/
def Course.Moves (c : Course) : Prop := ∀ b ∈ c.beats, b.Moves

theorem Course.Moves.onward {c : Course} (h : c.Moves) : c.Onward := fun b hb => (h b hb).onward

theorem Course.Moves.andThen {c d : Course} (hc : c.Moves) (hd : d.Moves) :
    (c.andThen d).Moves :=
  Course.forall_beats_andThen hc hd

theorem moves_of_commands {c : Course} (h : c.beats.filterMap Beat.command? = []) : c.Moves := by
  intro b hb
  cases b with
  | command c => exact nomatch List.filterMap_eq_nil_iff.mp h _ hb
  | tell r => trivial
  | effect x => trivial

theorem moves_commandCourse (s : Stage) {c : Stage.Command} (hc : c.Moves) :
    (commandCourse s c).Moves :=
  Course.Moves.andThen (List.forall_mem_singleton.mpr hc)
    (moves_of_commands (commands_landingCourse? _))

theorem moves_advanceCourse (s : Stage) : (advanceCourse s).Moves :=
  forall_beats_advanceCourse trivial (moves_commandCourse s trivial) fun _ => trivial

theorem moves_followCourse (s : Stage) (current : DialogNode) (choiceId : String) :
    (followCourse s current choiceId).Moves :=
  forall_beats_followCourse trivial (moves_commandCourse s trivial) trivial

theorem moves_choiceCourse (s : Stage) (choiceId : String) : (choiceCourse s choiceId).Moves := by
  unfold choiceCourse
  split
  · exact List.forall_mem_nil _
  · split
    · exact List.forall_mem_nil _
    · exact (moves_of_commands (commands_course _ _)).andThen (moves_followCourse _ _ _)

/-! ## Saving -/

variable {σ : Type} (store : Storage.Store σ) (e : Engine σ)

theorem Takes.continues {m : Run σ Unit} {e : Engine σ} {c : Course} (h : Takes m e c)
    (hc : c.Onward) : e.stage.Continues (m e).2.stage := by
  rw [h.plays.stage]
  exact Stage.continues_playAll hc e.stage

theorem stage_persist (save : Save) : (persist store save e).2.stage = e.stage := by
  unfold persist
  rw [bind_of_ok (askStorage_apply _ e)]
  rcases (store.saveSave save e.storage).1 with (f | f) | u <;> rfl

theorem stage_writeLive (v : View) : (writeLive store v e).2.stage = e.stage := by
  unfold writeLive
  cases v.save with
  | none => rfl
  | some save =>
    dsimp only
    have hstage := stage_persist store e save
    rw [bind_apply]
    cases h : persist store save e with
    | mk r d =>
      rw [h] at hstage
      cases r with
      | error fault => exact hstage
      | ok u => exact hstage

/-- Saving counts time as played, if it does anything to the stage, whether the write goes well or
not. -/
theorem retimed_saveGame : e.stage.Related Save.Retimed (saveGame store e).2.stage := by
  have hrefl : e.stage.Related Save.Retimed e.stage := Stage.related_of_eq (fun _ => rfl) rfl
  cases hlive : e.stage.view.save with
  | none =>
    rw [saveGame_of_none hlive]
    exact hrefl
  | some old =>
    obtain ⟨cs, d, hcs, hcount, hstage, -⟩ := countPlayTime_outcome e
    rw [saveGame_of_some hlive hcount, stage_writeLive, hstage]
    rcases hcs with rfl | ⟨seconds, rfl⟩
    · exact hrefl
    · exact Stage.retimed_addPlayTime seconds

theorem retimed_autosave : e.stage.Related Save.Retimed (autosave store e).stage := by
  cases hruns : e.autosaves with
  | false =>
    rw [autosave_of_stopped hruns]
    exact Stage.related_of_eq (fun _ => rfl) rfl
  | true =>
    obtain ⟨runs, hsaved⟩ := exists_autosave store hruns
    rw [hsaved]
    exact retimed_saveGame store e

/-! ## Actions and histories -/

/-- The action neither begins a game nor loads one. -/
def GoesOn : Action → Prop
  | .startNewGame _ | .loadSave _ => False
  | _ => True

/-- The action opens or closes something on the screen. -/
def Toggles : Action → Prop
  | .toggleMenu | .toggleInventory | .toggleMemories => True
  | _ => False

theorem save_of_toggles (freshId : String) {a : Action} (ha : Toggles a) :
    (dispatch store freshId a e).2.stage.view.save = e.stage.view.save := by
  cases a with
  | toggleMenu => rfl
  | toggleInventory => rfl
  | toggleMemories => rfl
  | _ => cases ha

/-- Any other action of the player but saving is a course that moves the story or its dialog. -/
theorem exists_takes_dispatch (freshId : String) {a : Action} (ha : GoesOn a)
    (hsave : a ≠ .saveGame) (htoggle : ¬ Toggles a) :
    ∃ c, Takes (dispatch store freshId a) e c ∧ c.Moves := by
  have heffect : ∀ x, a.effect? = some x → ∃ c, Takes (dispatch store freshId a) e c ∧ c.Moves :=
    fun x hx => ⟨_, takes_dispatch_of_effect store freshId hx e,
      moves_of_commands (commands_courseOf (fun n => commands_course _ _) _)⟩
  cases a with
  | startNewGame game => cases ha
  | loadSave saveId => cases ha
  | saveGame => exact absurd rfl hsave
  | startDialog scriptId =>
    exact ⟨_, takes_startDialog e scriptId, moves_commandCourse _ trivial⟩
  | advanceDialog => exact ⟨_, takes_advanceDialog e, moves_advanceCourse _⟩
  | makeChoice choiceId => exact ⟨_, takes_makeChoice e choiceId, moves_choiceCourse _ _⟩
  | completeTypewriter =>
    exact ⟨.ofBeats [.command .completeTypewriter], rfl, List.forall_mem_singleton.mpr trivial⟩
  | toggleMenu => exact absurd trivial htoggle
  | toggleInventory => exact absurd trivial htoggle
  | toggleMemories => exact absurd trivial htoggle
  | _ => exact heffect _ rfl

/-- Whatever becomes of such an action, the live save goes on. -/
theorem continues_dispatch (freshId : String) {a : Action} (ha : GoesOn a) :
    e.stage.Continues (dispatch store freshId a e).2.stage := by
  by_cases htoggle : Toggles a
  · exact Stage.related_of_eq Save.Continues.refl (save_of_toggles store e freshId htoggle)
  · by_cases hsave : a = .saveGame
    · rw [hsave]
      exact (retimed_saveGame store e).mono fun _ _ => Save.Retimed.continues
    · obtain ⟨c, htakes, hc⟩ := exists_takes_dispatch store e freshId ha hsave htoggle
      exact htakes.continues hc.onward

/-- The move neither begins a game nor loads one. -/
def Move.Onward : Move → Prop
  | .dispatch _ a => GoesOn a
  | _ => True

theorem continues_take {m : Move} (hm : m.Onward) :
    e.stage.Continues (e.take store m).stage := by
  cases m with
  | dispatch freshId a => exact continues_dispatch store e freshId hm
  | refuse kind => exact .refl _
  | execute is =>
    have htakes : Takes (execute is) e (course e.stage.content maxDepth is) :=
      takes_drain maxDepth is rfl
    exact htakes.continues (moves_of_commands (commands_course _ _)).onward
  | autosave => exact (retimed_autosave store e).mono fun _ _ => Save.Retimed.continues
  | tick seconds => exact .refl _
  | destroy => exact .refl _

/-- A history of such moves goes on with the live save. -/
theorem continues_runAll {history : List (String × Move)} (hh : ∀ m ∈ history, m.2.Onward) :
    e.stage.Continues (e.runAll store history).stage := by
  induction history generalizing e with
  | nil => exact .refl _
  | cons m history ih =>
    obtain ⟨hm, hh⟩ := List.forall_mem_cons.mp hh
    exact (continues_take store (e.dated m.1) hm).trans (ih _ hh)

/-- Whatever the content, the storage and the engine: over a history in which no game begins and
none is loaded, the live save goes on, or there is none before and after.  Saving, by the player or
by the timer, changes the time that was played and the date alone, and opening or closing something
changes nothing of the save.  A move of the story or its dialog by itself changes nothing of it but
the place of the story, the nodes that were read, and the date. -/
theorem progress_runAll {history : List (String × Move)} (hh : ∀ m ∈ history, m.2.Onward) :
    e.stage.Related Save.Continues (e.runAll store history).stage ∧
      (∀ freshId, e.stage.Related Save.Retimed (dispatch store freshId .saveGame e).2.stage) ∧
      e.stage.Related Save.Retimed (autosave store e).stage ∧
      (∀ freshId a, Toggles a →
        (dispatch store freshId a e).2.stage.view.save = e.stage.view.save) ∧
      ∀ c : Stage.Command, c.Moves → e.stage.Related Save.Moved (e.stage.perform c).2 :=
  ⟨continues_runAll store e hh, fun _ => retimed_saveGame store e, retimed_autosave store e,
    fun freshId _ ha => save_of_toggles store e freshId ha, fun _ hc => Stage.moved_perform hc⟩

/-- After a game began: flags and achievements, one of them twice, an unknown effect, a move of the
story, and the timer. -/
def onwardHistory : List (String × Move) :=
  [("3", .dispatch "" (.setFlag "height" (.float 0.5))),
    ("4", .execute [.effect (.unlockAchievement "guest"), .effect (.unlockAchievement "guest"),
      .effect (.changePhase ⟨"booking"⟩), .unknown "dance"]),
    ("5", .dispatch "" .advanceDialog), ("6", .autosave)]

/-- At the gate such a history goes on with the game that began. -/
theorem progress_gate :
    ∃ i e s t, Index.ofPack Stage.gatePack = .ok i ∧
      dispatch gateStore "a" (.startNewGame ⟨"Ann", none⟩)
        (start i "2" Storage.Disk.empty 0.0 0.0) = (.ok (), e) ∧
      e.stage.view.save = some s ∧
      (e.runAll gateStore onwardHistory).stage.view.save = some t ∧ s.Continues t ∧
      t.flags.keys = ["height"] ∧ t.achievements = ["guest"] ∧ t.currentPhase = ⟨"booking"⟩ := by
  obtain ⟨i, e, s, t, hi, he, hs, ht, hflags, hachievements, hphase⟩ :
      ∃ i e s t, Index.ofPack Stage.gatePack = .ok i ∧
        dispatch gateStore "a" (.startNewGame ⟨"Ann", none⟩)
          (start i "2" Storage.Disk.empty 0.0 0.0) = (.ok (), e) ∧
        e.stage.view.save = some s ∧
        (e.runAll gateStore onwardHistory).stage.view.save = some t ∧
        t.flags.keys = ["height"] ∧ t.achievements = ["guest"] ∧ t.currentPhase = ⟨"booking"⟩ :=
    ⟨_, _, _, _, rfl, rfl, rfl, rfl, rfl, rfl, rfl⟩
  have honward : ∀ m ∈ onwardHistory, m.2.Onward := by
    simp only [onwardHistory, List.forall_mem_cons]
    exact ⟨trivial, trivial, trivial, trivial, List.forall_mem_nil _⟩
  have hrel : Option.Rel Save.Continues _ _ := (progress_runAll gateStore e honward).1
  rw [hs, ht, Option.rel_some_some] at hrel
  exact ⟨i, e, s, t, hi, he, hs, ht, hrel, hflags, hachievements, hphase⟩

end Engine

end Storyline
