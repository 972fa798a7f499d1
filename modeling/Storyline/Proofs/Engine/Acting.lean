import Storyline.Proofs.Engine.Course
import Storyline.Proofs.Engine.Keeping

/-!
# The courses of actions

What an action does to the stage and to the observers is a course too: a few beats of its
own, and the landings that they bring.  Actions that ask the storage do more than play
beats, so for them the course is stated of stage and bus alone.

* `Landing`, `Stage.landed?`: the node that a beat moves the dialog onto, and what is told;
* `Stage.node_of_landed`: the dialog moves onto the node that a beat lands on;
* `Engine.commands_course`: instructions give the stage no commands;
* `Engine.Plays`: a computation that does a course to the stage and the observers;
* `Engine.takes_startDialog`, `Engine.takes_advanceDialog`, …: one lemma an action.
-/

namespace Storyline

open Content

/-- The command of a beat. -/
def Beat.command? : Beat → Option Stage.Command
  | .command c => some c
  | _ => none

/-! ## Landings of beats -/

/-- A node that the dialog is moved onto, and what is told of it. -/
structure Landing where
  report : Report
  node : DialogNode

/-- A landing at a spot. -/
def Spot.landing (p : Spot) : Landing := ⟨p.started, p.node⟩

/-- What is told of a landing: a dialog that runs in a script, one that goes on, or a choice. -/
inductive Landing.Reported : Landing → Prop where
  | started (p : Spot) : Landing.Reported p.landing
  | advanced (n target : DialogNode) :
    Landing.Reported ⟨(.dialogAdvanced, [("from", .str n.id), ("to", .str target.id)]), target⟩
  | chosen (choiceId : String) (target : DialogNode) :
    Landing.Reported
      ⟨(.choiceMade, [("choice_id", .str choiceId), ("next_node_id", .str target.id)]), target⟩

/-- The spot at which a new game starts. -/
def Content.Index.firstSpot? (i : Index) : Option Spot :=
  (i.scene? (((i.phaseScene? Phase.planning).map (·.id)).getD "")).bind i.sceneSpot? <|>
    i.phaseSpot? Phase.planning

namespace Stage

/-- The landing when the dialog is advanced: the next node of one that is read and has no
choices. -/
def advanced? (s : Stage) : Option Landing := do
  let n ← s.view.node
  let target ← if s.view.typewriterComplete && n.choices.isEmpty then nextNode? s.view.script n
    else none
  return ⟨(.dialogAdvanced, [("from", .str n.id), ("to", .str target.id)]), target⟩

/-- The landing when a choice is followed. -/
def chosen? (s : Stage) (choiceId : String) : Option Landing := do
  let n ← s.view.node
  let script ← s.view.script
  let target ← chosenNode? script n choiceId
  return ⟨(.choiceMade, [("choice_id", .str choiceId), ("next_node_id", .str target.id)]), target⟩

/-- The landing that a beat brings.  The node at which a loaded save stands is not landed
on. -/
def landed? (s : Stage) : Beat → Option Landing
  | .effect x => (s.content.landing? x).map Spot.landing
  | .command (.startNewGame _ _) => s.content.firstSpot?.map Spot.landing
  | .command (.changePhase phase) => (s.content.phaseSpot? phase).map Spot.landing
  | .command (.changeScene sceneId) =>
    ((s.content.scene? sceneId).bind s.content.sceneSpot?).map Spot.landing
  | .command (.startDialog scriptId) => (s.content.scriptSpot? scriptId).map Spot.landing
  | .command .advanceDialog => s.advanced?
  | .command (.makeChoice choiceId) => s.chosen? choiceId
  | _ => none

theorem node_startNewGame (s : Stage) (game : NewGame) (saveId : String) :
    (s.startNewGame game saveId).view.node = s.content.firstSpot?.map (·.node) := by
  rw [startNewGame, node_enter]
  rfl

/-- A new game stands at its first spot with nothing collected. -/
theorem save_startNewGame (s : Stage) (game : NewGame) (saveId : String) :
    (s.startNewGame game saveId).view.save =
      some { standAt s.content.firstSpot? (s.newSave game saveId) with updatedAt := s.now } := by
  rw [startNewGame, view_enter]
  rfl

theorem script_startNewGame (s : Stage) (game : NewGame) (saveId : String) :
    (s.startNewGame game saveId).view.script = s.content.firstSpot?.map (·.script) := by
  rw [startNewGame, script_enter]
  rfl

/-- What can come of advancing the dialog: there is none; it stays; it moves on; it ends. -/
inductive Advance (s : Stage) : Prop where
  | idle (node : s.view.node = none) (moved : s.advanceDialog = (none, s))
      (landed : s.advanced? = none)
  | stays (n : DialogNode) (node : s.view.node = some n) (answer : s.advanceDialog.1 = some n)
      (landed : s.advanced? = none)
  | moves (n target : DialogNode) (node : s.view.node = some n)
      (next : nextNode? s.view.script n = some target) (answer : s.advanceDialog.1 = some target)
      (landed : s.advanced? =
        some ⟨(.dialogAdvanced, [("from", .str n.id), ("to", .str target.id)]), target⟩)
  | ends (n : DialogNode) (node : s.view.node = some n) (answer : s.advanceDialog.1 = none)
      (landed : s.advanced? = none)

theorem advance (s : Stage) : s.Advance := by
  cases hn : s.view.node with
  | none => exact .idle hn (by rw [advanceDialog, hn]) (by rw [advanced?, hn]; rfl)
  | some n =>
    by_cases hread : s.view.typewriterComplete = true
    · by_cases hchoices : n.choices = []
      · cases hnext : nextNode? s.view.script n with
        | none =>
          refine .ends n hn ?_ ?_
          · simp [advanceDialog, hn, hread, hchoices, hnext]
          · simp [advanced?, hn, hread, hchoices, hnext]
        | some target =>
          refine .moves n target hn hnext ?_ ?_
          · simp [advanceDialog, hn, hread, hchoices, hnext]
          · simp [advanced?, hn, hread, hchoices, hnext]
      · refine .stays n hn ?_ ?_
        · simp [advanceDialog, hn, hread, hchoices]
        · simp [advanced?, hn, hread, hchoices]
    · refine .stays n hn ?_ ?_
      · simp [advanceDialog, hn, hread]
      · simp [advanced?, hn, hread]

theorem eq_of_advanced {s : Stage} {l : Landing} (h : s.advanced? = some l) :
    ∃ n target : DialogNode, s.view.node = some n ∧ nextNode? s.view.script n = some target ∧
      l = ⟨(.dialogAdvanced, [("from", .str n.id), ("to", .str target.id)]), target⟩ := by
  cases advance s with
  | moves n target node next _ landed =>
    exact ⟨n, target, node, next, Option.some_inj.mp (h.symm.trans landed)⟩
  | idle _ _ landed => cases h.symm.trans landed
  | stays _ _ _ landed => cases h.symm.trans landed
  | ends _ _ _ landed => cases h.symm.trans landed

/-- A choice that is followed leads to its landing. -/
theorem makeChoice_answer (s : Stage) (choiceId : String) :
    (s.makeChoice choiceId).1 = (s.chosen? choiceId).map (·.node) := by
  unfold makeChoice chosen?
  cases s.view.node with
  | none => rfl
  | some n =>
    cases s.view.script with
    | none => rfl
    | some script =>
      dsimp only [Option.bind_eq_bind, Option.bind_some]
      cases chosenNode? script n choiceId <;> rfl

theorem eq_of_chosen {s : Stage} {choiceId : String} {l : Landing}
    (h : s.chosen? choiceId = some l) :
    l = ⟨(.choiceMade, [("choice_id", .str choiceId), ("next_node_id", .str l.node.id)]),
      l.node⟩ := by
  simp only [chosen?, Option.bind_eq_bind, Option.bind_eq_some_iff] at h
  obtain ⟨n, -, script, -, target, -, hl⟩ := h
  rw [← Option.some_inj.mp hl]

theorem makeChoice_of_none {s : Stage} {choiceId : String} (h : s.chosen? choiceId = none) :
    s.makeChoice choiceId = (none, s) := by
  unfold makeChoice
  unfold chosen? at h
  cases hn : s.view.node with
  | none => rfl
  | some n =>
    cases hscript : s.view.script with
    | none => rfl
    | some script =>
      cases htarget : chosenNode? script n choiceId with
      | none => simp only [htarget]
      | some target => simp [hn, hscript, htarget] at h

/-- Where a beat lands, the dialog stands afterwards. -/
theorem node_of_landed {s : Stage} {b : Beat} {l : Landing} (h : s.landed? b = some l) :
    (s.play b).view.node = some l.node := by
  have hphase : ∀ phase, (s.content.phaseSpot? phase).map Spot.landing = some l →
      (s.changePhase phase).2.view.node = some l.node := by
    intro phase hspot
    obtain ⟨p, hp, rfl⟩ := Option.map_eq_some_iff.mp hspot
    rw [node_changePhase]
    exact congrArg (Option.map (·.node)) hp
  have hscene : ∀ sceneId,
      ((s.content.scene? sceneId).bind s.content.sceneSpot?).map Spot.landing = some l →
        (s.changeScene sceneId).2.view.node = some l.node := by
    intro sceneId hspot
    obtain ⟨p, hp, rfl⟩ := Option.map_eq_some_iff.mp hspot
    obtain ⟨c, hc, hp⟩ := Option.bind_eq_some_iff.mp hp
    rw [node_changeScene hc, hp]
    rfl
  cases b with
  | tell r => cases h
  | effect x =>
    cases x with
    | changeScene sceneId => exact hscene sceneId h
    | changePhase phase => exact hphase phase h
    | _ => cases h
  | command c =>
    cases c with
    | startNewGame game saveId =>
      obtain ⟨p, hp, rfl⟩ := Option.map_eq_some_iff.mp h
      exact (node_startNewGame s game saveId).trans (by rw [hp]; rfl)
    | changePhase phase => exact hphase phase h
    | changeScene sceneId => exact hscene sceneId h
    | startDialog scriptId =>
      obtain ⟨p, hp, rfl⟩ := Option.map_eq_some_iff.mp h
      exact (startDialog_of_some hp).2.1
    | advanceDialog =>
      have hlanded : s.advanced? = some l := h
      have hnode : (s.play (.command .advanceDialog)).view.node = s.advanceDialog.1 :=
        node_advanceDialog s
      rw [hnode]
      cases advance s with
      | moves n target _ _ answer landed =>
        rw [answer, ← Option.some_inj.mp (landed.symm.trans hlanded)]
      | idle _ _ landed => cases hlanded.symm.trans landed
      | stays _ _ _ landed => cases hlanded.symm.trans landed
      | ends _ _ _ landed => cases hlanded.symm.trans landed
    | makeChoice choiceId =>
      refine node_makeChoice s ?_
      have hlanded : s.chosen? choiceId = some l := h
      rw [makeChoice_answer, hlanded]
      rfl
    | _ => cases h

theorem reported_of_landed {s : Stage} {b : Beat} {l : Landing} (h : s.landed? b = some l) :
    l.Reported := by
  have hspot : ∀ {spot : Option Spot}, spot.map Spot.landing = some l → l.Reported := by
    intro spot hl
    obtain ⟨p, -, rfl⟩ := Option.map_eq_some_iff.mp hl
    exact .started p
  cases b with
  | tell r => cases h
  | effect x => exact hspot h
  | command c =>
    cases c with
    | startNewGame game saveId => exact hspot h
    | changePhase phase => exact hspot h
    | changeScene sceneId => exact hspot h
    | startDialog scriptId => exact hspot h
    | advanceDialog =>
      obtain ⟨n, target, -, -, rfl⟩ := eq_of_advanced h
      exact .advanced n target
    | makeChoice choiceId =>
      rw [eq_of_chosen h]
      exact .chosen choiceId l.node
    | _ => cases h

end Stage

namespace Engine

variable {σ : Type}

/-! ## Courses of actions -/

/-- The course of a landing: it is told, and the effects of its node are carried out. -/
def landingCourse (i : Index) (l : Landing) : Course :=
  (Course.ofBeats [.tell l.report]).andThen (course i maxDepth (instructionsOf l.node))

/-- The course of a landing, if there is one. -/
def landingCourse? (i : Index) : Option Landing → Course
  | none => .ofBeats []
  | some l => landingCourse i l

/-! ### Instructions give no commands -/

section Commands

variable {i : Index}

theorem commands_andThen {c d : Course} (hc : c.beats.filterMap Beat.command? = [])
    (hd : d.beats.filterMap Beat.command? = []) :
    (c.andThen d).beats.filterMap Beat.command? = [] := by
  rw [List.filterMap_eq_nil_iff] at hc hd ⊢
  exact Course.forall_beats_andThen hc hd

theorem commands_courseOf {inner : DialogNode → Course}
    (hinner : ∀ n, (inner n).beats.filterMap Beat.command? = []) (instruction : Instruction) :
    (courseOf i inner instruction).beats.filterMap Beat.command? = [] := by
  cases instruction with
  | unknown kind => rfl
  | effect x =>
    cases h : i.landing? x with
    | none =>
      rw [courseOf_of_none h]
      rfl
    | some p =>
      rw [courseOf_of_some h]
      exact hinner p.node

/-- Instructions give no commands, however deep they land and however they end.  The induction is
on the depth that is left and then on the list. -/
theorem commands_course (depth : Nat) (is : List Instruction) :
    (course i depth is).beats.filterMap Beat.command? = [] := by
  induction depth generalizing is with
  | zero => rfl
  | succ depth ihdepth =>
    induction is with
    | nil => rfl
    | cons instruction is ih =>
      rw [course_cons]
      exact commands_andThen (commands_courseOf (fun n => ihdepth (instructionsOf n)) _) ih

theorem commands_landingCourse? (landed : Option Landing) :
    (landingCourse? i landed).beats.filterMap Beat.command? = [] := by
  cases landed with
  | none => rfl
  | some l => exact commands_course maxDepth (instructionsOf l.node)

end Commands

/-- A command, and then its landing. -/
def commandCourse (s : Stage) (c : Stage.Command) : Course :=
  (Course.ofBeats [.command c]).andThen (landingCourse? s.content (s.landed? (.command c)))

/-- Advancing the dialog.  The engine takes a node that leads to itself for one at which the
dialog stays. -/
def advanceCourse (s : Stage) : Course :=
  match s.view.node, s.advanced?, s.advanceDialog.1 with
  | some n, some l, _ =>
    if l.node.id = n.id then .ofBeats [.command .advanceDialog]
    else commandCourse s .advanceDialog
  | some n, none, none =>
    .ofBeats [.command .advanceDialog, .tell (.dialogEnded, [("last_node_id", .str n.id)])]
  | _, _, _ => .ofBeats [.command .advanceDialog]

/-- What is told of a choice that leads nowhere. -/
def ledNowhere (choiceId : String) : Report :=
  (.choiceMade, [("choice_id", .str choiceId), ("next_node_id", .null)])

/-- Following a choice of a node after its effects, which may have moved the dialog away. -/
def followCourse (s : Stage) (current : DialogNode) (choiceId : String) : Course :=
  if s.view.node.any (·.isSame current) then
    if (s.chosen? choiceId).isSome then commandCourse s (.makeChoice choiceId)
    else .ofBeats [.command (.makeChoice choiceId), .tell (ledNowhere choiceId)]
  else .ofBeats [.tell (ledNowhere choiceId)]

/-- Making a choice: its effects, and then the move. -/
def choiceCourse (s : Stage) (choiceId : String) : Course :=
  match s.view.node with
  | none => .ofBeats []
  | some current =>
    match current.choice? choiceId with
    | none => .ofBeats []
    | some choice =>
      let effects := course s.content maxDepth (choice.effects.map .effect)
      effects.andThen (followCourse (s.playAll effects.beats) current choiceId)

section Beats

variable {P : Beat → Prop} {s : Stage}

/-- Advancing moves the dialog, and then lands, or tells of the end. -/
theorem forall_beats_advanceCourse (hmove : P (.command .advanceDialog))
    (hland : ∀ b ∈ (commandCourse s .advanceDialog).beats, P b)
    (hend : ∀ n : DialogNode, P (.tell (.dialogEnded, [("last_node_id", .str n.id)]))) :
    ∀ b ∈ (advanceCourse s).beats, P b := by
  unfold advanceCourse
  split
  · split
    · exact List.forall_mem_singleton.mpr hmove
    · exact hland
  · exact List.forall_mem_cons.mpr ⟨hmove, List.forall_mem_singleton.mpr (hend _)⟩
  · exact List.forall_mem_singleton.mpr hmove

/-- Following a choice moves the dialog and then lands, or tells that it led nowhere. -/
theorem forall_beats_followCourse {current : DialogNode} {choiceId : String}
    (hmove : P (.command (.makeChoice choiceId)))
    (hland : ∀ b ∈ (commandCourse s (.makeChoice choiceId)).beats, P b)
    (hnowhere : P (.tell (ledNowhere choiceId))) :
    ∀ b ∈ (followCourse s current choiceId).beats, P b := by
  unfold followCourse
  split
  · split
    · exact hland
    · exact List.forall_mem_cons.mpr ⟨hmove, List.forall_mem_singleton.mpr hnowhere⟩
  · exact List.forall_mem_singleton.mpr hnowhere

end Beats

section Takes

variable {e : Engine σ}

theorem takes_view {k : View → Run σ Unit} {c : Course} (hk : Takes (k e.stage.view) e c) :
    Takes (view >>= k) e c := by
  unfold Takes
  rw [bind_of_ok (view_apply e)]
  exact hk

theorem takes_move {α : Type} {c : Stage.Command} {f : Stage → α × Stage}
    (hf : (e.stage.perform c).2 = (f e.stage).2) {k : α → Run σ Unit} {d : Course}
    (hk : Takes (k (f e.stage).1) (e.playAll [.command c]) d) :
    Takes (moveStage f >>= k) e ((Course.ofBeats [.command c]).andThen d) := by
  have hplayed : e.playAll [.command c] = { e with stage := (f e.stage).2 } := by
    rw [← hf]
    rfl
  unfold Takes at hk ⊢
  rw [bind_of_ok (moveStage_apply f e), ← hplayed, hk, Course.andThen_ofBeats, playAll_append]

theorem takes_landing (e : Engine σ) (l : Landing) :
    Takes (announce l.report.1 l.report.2 >>= fun _ => landOn l.node) e
      (landingCourse e.stage.content l) := by
  have htold : Takes (announce l.report.1 l.report.2) e (.ofBeats [.tell l.report]) := rfl
  exact htold.bind (takes_drain maxDepth (instructionsOf l.node) (Stage.content_playAll ..))

/-- Where a dialog runs at a spot, its script is told and its node landed on. -/
theorem takes_landing_spot {p : Spot} (h : e.stage.view.script = some p.script) :
    Takes (announceDialog >>= fun _ => landOn p.node) e
      (landingCourse e.stage.content p.landing) := by
  have htold : Takes announceDialog e (.ofBeats [.tell p.started]) := announceDialog_apply h
  exact htold.bind (takes_drain maxDepth (instructionsOf p.node) (Stage.content_playAll ..))

theorem takes_landing_spot? {spot : Option Spot}
    (hnode : e.stage.view.node = spot.map (·.node))
    (hscript : e.stage.view.script = spot.map (·.script)) :
    Takes
      (match e.stage.view.node with
        | none => pure ()
        | some n => announceDialog >>= fun _ => landOn n) e
      (landingCourse? e.stage.content (spot.map Spot.landing)) := by
  rw [hnode]
  cases spot with
  | none => rfl
  | some p => exact takes_landing_spot hscript

theorem takes_startDialog (e : Engine σ) (scriptId : String) :
    Takes (startDialog scriptId) e (commandCourse e.stage (.startDialog scriptId)) := by
  refine takes_move (c := .startDialog scriptId) rfl ?_
  cases h : e.stage.content.scriptSpot? scriptId with
  | none =>
    have hlanded : e.stage.landed? (.command (.startDialog scriptId)) = none := by
      rw [Stage.landed?, h]
      rfl
    rw [Stage.startDialog_of_none h, hlanded]
    rfl
  | some p =>
    have hlanded : e.stage.landed? (.command (.startDialog scriptId)) = some p.landing := by
      rw [Stage.landed?, h]
      rfl
    obtain ⟨hanswer, -, hscript⟩ := Stage.startDialog_of_some h
    rw [hanswer, hlanded, landingCourse?, ← Stage.content_playAll e.stage [_]]
    exact takes_landing_spot (e := e.playAll _) hscript

theorem takes_advanceDialog (e : Engine σ) :
    Takes advanceDialog e (advanceCourse e.stage) := by
  have hmove : ∀ {k : Option DialogNode → Run σ Unit} {d : Course},
      Takes (k e.stage.advanceDialog.1) (e.playAll [.command .advanceDialog]) d →
        Takes (moveStage (·.advanceDialog) >>= k) e
          ((Course.ofBeats [.command .advanceDialog]).andThen d) :=
    fun hk => takes_move rfl hk
  refine takes_view ?_
  unfold advanceCourse
  cases Stage.advance e.stage with
  | idle node moved landed =>
    rw [node, landed, moved]
    refine hmove (d := .ofBeats []) ?_
    rw [moved]
    rfl
  | stays n node answer landed =>
    rw [node, landed, answer]
    refine hmove (d := .ofBeats []) ?_
    rw [answer]
    dsimp only
    rw [if_neg (not_not.mpr rfl)]
    rfl
  | moves n target node next answer landed =>
    -- The engine does not see a move of the stage from a node to itself.
    rw [node, landed, answer]
    by_cases hsame : target.id = n.id
    · dsimp only
      rw [if_pos hsame]
      refine hmove (d := .ofBeats []) ?_
      rw [answer]
      dsimp only
      rw [if_neg (not_not.mpr hsame)]
      rfl
    · dsimp only
      rw [if_neg hsame, commandCourse, Stage.landed?, landed, landingCourse?,
        ← Stage.content_playAll e.stage [.command .advanceDialog]]
      refine hmove ?_
      rw [answer]
      dsimp only
      rw [if_pos hsame]
      exact takes_landing (e.playAll _)
        ⟨(.dialogAdvanced, [("from", .str n.id), ("to", .str target.id)]), target⟩
  | ends n node answer landed =>
    rw [node, landed, answer]
    refine hmove (d := .ofBeats [.tell (.dialogEnded, [("last_node_id", .str n.id)])]) ?_
    rw [answer]
    rfl

/-- What is left of a choice after its effects. -/
theorem takes_follow_choice (e : Engine σ) (current : DialogNode) (choiceId : String) :
    Takes
      (do
        let stays := (← view).node.any (·.isSame current)
        let target ← if stays then moveStage (·.makeChoice choiceId) else pure none
        announce .choiceMade
          [("choice_id", .str choiceId), ("next_node_id", .ofOption (target.map (·.id)))]
        match target with
        | none => return
        | some n => landOn n) e
      (followCourse e.stage current choiceId) := by
  refine takes_view ?_
  unfold followCourse
  cases hstays : e.stage.view.node.any (·.isSame current) with
  | false => rfl
  | true =>
    rw [if_pos rfl]
    cases hchosen : e.stage.chosen? choiceId with
    | none =>
      refine takes_move (c := .makeChoice choiceId) (d := .ofBeats [.tell (ledNowhere choiceId)])
        rfl ?_
      rw [Stage.makeChoice_of_none hchosen]
      rfl
    | some l =>
      rw [commandCourse, Stage.landed?, hchosen, landingCourse?,
        ← Stage.content_playAll e.stage [.command (.makeChoice choiceId)]]
      refine takes_move rfl ?_
      rw [Stage.makeChoice_answer, hchosen, Stage.eq_of_chosen hchosen]
      exact takes_landing (e.playAll _)
        ⟨(.choiceMade, [("choice_id", .str choiceId), ("next_node_id", .str l.node.id)]), l.node⟩

theorem takes_makeChoice (e : Engine σ) (choiceId : String) :
    Takes (makeChoice choiceId) e (choiceCourse e.stage choiceId) := by
  refine takes_view ?_
  unfold choiceCourse
  cases e.stage.view.node with
  | none => rfl
  | some current =>
    dsimp only
    cases current.choice? choiceId with
    | none => rfl
    | some choice =>
      have heffects : Takes (drain maxDepth (choice.effects.map .effect)) e
          (course e.stage.content maxDepth (choice.effects.map .effect)) := takes_drain _ _ rfl
      exact heffects.bind (takes_follow_choice (e.playAll _) current choiceId)

end Takes

/-! ## Actions that ask the storage -/

/-- The computation does a course to the stage and to the observers, and ends as it does. -/
structure Plays (m : Run σ Unit) (e : Engine σ) (c : Course) : Prop where
  result : (m e).1 = c.result
  stage : (m e).2.stage = e.stage.playAll c.beats
  bus : (m e).2.bus = e.bus.announceAll (e.stage.reports c.beats)

/-- The computation ends with a failure of storage. -/
def FailsToStore (m : Run σ Unit) (e : Engine σ) : Prop :=
  ∃ f, (m e).1 = .error (.storage f)

theorem Takes.plays {m : Run σ Unit} {e : Engine σ} {c : Course} (h : Takes m e c) :
    Plays m e c := by
  unfold Takes at h
  constructor <;> rw [h] <;> rfl

/-- The course of a new game whose save is written. -/
def newGameCourse (s : Stage) (game : NewGame) (saveId : String) (save : Save) : Course :=
  (Course.ofBeats [.command (.startNewGame game saveId),
    .tell (.saveCreated, [("save", save.toJson)])]).andThen
    (landingCourse? s.content (s.content.firstSpot?.map Spot.landing))

/-- The beats of a save that was found and is loaded. -/
def loadBeats (save live : Save) : List Beat :=
  [.command (.setLoading true), .command (.loadSave save),
    .tell (.saveLoaded, [("save", live.toJson)])]

/-- The beats of a save that is not there. -/
def missingBeats (saveId : String) : List Beat :=
  [.command (.setLoading true), .command (.setLoading false),
    .tell (.error, [("message", .str (missingMessage saveId))])]

section Plays

variable (store : Storage.Store σ) (e : Engine σ)

/-- The caller is told of a write that fails. -/
theorem persist_fails {save : Save} {f : Storage.Failure} {t : σ}
    (h : store.saveSave save e.storage = (.error f, t)) : FailsToStore (persist store save) e := by
  refine ⟨f, ?_⟩
  unfold persist
  rw [bind_of_ok (askStorage_apply _ e), h]
  cases f <;> rfl

/-- A write goes well, or the caller is told of the failure. -/
theorem persist_outcome (save : Save) :
    FailsToStore (persist store save) e ∨
      ∃ t, persist store save e = (.ok (), { e with storage := t }) := by
  cases h : store.saveSave save e.storage with
  | mk r t =>
    cases r with
    | ok u => exact .inr ⟨t, persist_of_ok h⟩
    | error f => exact .inl (persist_fails store e h)

/-- A new game whose save is written: what comes after the write asks the storage nothing. -/
theorem startNewGame_of_written {game : NewGame} {saveId : String} {save : Save} {t : σ}
    (hsave : (e.stage.startNewGame game saveId).view.save = some save)
    (hwritten : store.saveSave save e.storage = (.ok (), t)) :
    Plays (startNewGame store game saveId) e (newGameCourse e.stage game saveId save) ∧
      (startNewGame store game saveId e).2.storage = t := by
  have hbegin : (changeStage (·.startNewGame game saveId) : Run σ Unit) e =
      (.ok (), { e with stage := e.stage.startNewGame game saveId }) := rfl
  have hsession : ∀ d : Engine σ, startSession d = (.ok (), { d with session := some d.clock }) :=
    fun _ => rfl
  have hautosave : ∀ d : Engine σ,
      startAutosave d = (.ok (), { d with autosaves := decide (0.0 < d.interval) }) := fun _ => rfl
  have hpersist := persist_of_ok
    (e := { e with stage := e.stage.startNewGame game saveId, session := some e.clock }) hwritten
  obtain ⟨q, hq⟩ : ∃ q, startNewGame store game saveId e = q := ⟨_, rfl⟩
  have hrun := hq
  unfold startNewGame at hrun
  rw [bind_of_ok hbegin, bind_of_ok (hsession _), bind_of_ok (view_apply _)] at hrun
  dsimp only at hrun
  rw [hsave] at hrun
  dsimp only at hrun
  rw [bind_of_ok hpersist, bind_of_ok (announce_apply ..), bind_of_ok (hautosave _),
    bind_of_ok (view_apply _)] at hrun
  have hlanding := (takes_landing_spot? (Stage.node_startNewGame e.stage game saveId)
    (Stage.script_startNewGame e.stage game saveId)).symm.trans hrun
  have hcontent : (e.stage.startNewGame game saveId).content = e.stage.content :=
    Stage.content_perform e.stage (.startNewGame game saveId)
  dsimp only at hlanding
  rw [hcontent] at hlanding
  refine ⟨?_, ?_⟩
  · constructor <;> rw [hq, ← hlanding] <;> rfl
  · rw [hq, ← hlanding]
    rfl

/-- A new game whose save is not written ends there. -/
theorem startNewGame_of_not_written {game : NewGame} {saveId : String} {save : Save}
    {f : Storage.Failure} {t : σ}
    (hsave : (e.stage.startNewGame game saveId).view.save = some save)
    (hwritten : store.saveSave save e.storage = (.error f, t)) :
    FailsToStore (startNewGame store game saveId) e := by
  have hbegin : (changeStage (·.startNewGame game saveId) : Run σ Unit) e =
      (.ok (), { e with stage := e.stage.startNewGame game saveId }) := rfl
  have hsession : ∀ d : Engine σ, startSession d = (.ok (), { d with session := some d.clock }) :=
    fun _ => rfl
  obtain ⟨g, hg⟩ := persist_fails store
    { e with stage := e.stage.startNewGame game saveId, session := some e.clock } hwritten
  refine ⟨g, ?_⟩
  unfold startNewGame
  rw [bind_of_ok hbegin, bind_of_ok (hsession _), bind_of_ok (view_apply _)]
  dsimp only
  rw [hsave]
  dsimp only
  rw [bind_of_error (Prod.ext hg rfl)]

theorem startNewGame_outcome (game : NewGame) (saveId : String) :
    FailsToStore (startNewGame store game saveId) e ∨
      ∃ save, (e.stage.startNewGame game saveId).view.save = some save ∧
        Plays (startNewGame store game saveId) e (newGameCourse e.stage game saveId save) := by
  obtain ⟨save, hsave⟩ : ∃ save, (e.stage.startNewGame game saveId).view.save = some save :=
    ⟨_, Stage.save_startNewGame e.stage game saveId⟩
  cases hwritten : store.saveSave save e.storage with
  | mk r t =>
    cases r with
    | error f => exact .inl (startNewGame_of_not_written store e hsave hwritten)
    | ok u => exact .inr ⟨save, hsave, (startNewGame_of_written store e hsave hwritten).1⟩

theorem loadSave_outcome (saveId : String) :
    FailsToStore (loadSave store saveId) e ∨
      Plays (loadSave store saveId) e (.ofBeats (missingBeats saveId)) ∨
      ∃ save live, save.Valid ∧
        ((e.stage.setLoading true).loadSave save).view.save = some live ∧
        Plays (loadSave store saveId) e (.ofBeats (loadBeats save live)) := by
  have hrun := loadSave_apply store saveId e
  rcases hget : store.getSave saveId e.storage with ⟨(f | x) | _ | save, t⟩ <;> rw [hget] at hrun
  · exact .inl ⟨_, congrArg Prod.fst hrun⟩
  · exact .inl ⟨_, congrArg Prod.fst hrun⟩
  · refine .inr (.inl ?_)
    constructor <;> rw [hrun] <;> rfl
  · refine .inr (.inr ⟨save, _, valid_of_getSave (by rw [hget]), rfl, ?_⟩)
    constructor <;> rw [hrun] <;> rfl

/-- Play time is counted without a word. -/
theorem countPlayTime_outcome :
    ∃ cs d, (cs = [] ∨ ∃ seconds, cs = [Stage.Command.addPlayTime seconds]) ∧
      (countPlayTime : Run σ Unit) e = (.ok (), d) ∧
      d.stage = e.stage.playAll (cs.map .command) ∧ d.bus = e.bus := by
  have hget : (get : Run σ (Engine σ)) e = (.ok e, e) := rfl
  unfold countPlayTime
  rw [bind_of_ok hget]
  cases e.session with
  | none => exact ⟨[], e, .inl rfl, rfl, rfl, rfl⟩
  | some since => exact ⟨[.addPlayTime (e.clock - since)], _, .inr ⟨_, rfl⟩, rfl, rfl, rfl⟩

theorem saveGame_outcome :
    FailsToStore (saveGame store) e ∨
      ∃ (cs : List Stage.Command) (rs : List Report),
        (cs = [] ∨ ∃ seconds, cs = [.addPlayTime seconds]) ∧
        (∀ r ∈ rs, r.1 = .saveUpdated) ∧
        Plays (saveGame store) e (.ofBeats (cs.map .command ++ rs.map .tell)) := by
  cases hlive : e.stage.view.save with
  | none =>
    have hrun : saveGame store e = (.ok (), e) := saveGame_of_none hlive
    refine .inr ⟨[], [], .inl rfl, List.forall_mem_nil _, ?_⟩
    constructor <;> rw [hrun] <;> rfl
  | some old =>
    -- The save that is written is the live one after play time was counted.
    obtain ⟨cs, d, hcs, hcount, hstage, hbus⟩ := countPlayTime_outcome e
    have hsilent : e.stage.reports (cs.map .command) = [] := by
      rcases hcs with rfl | ⟨seconds, rfl⟩ <;> rfl
    have hrun : saveGame store e = writeLive store d.stage.view d :=
      saveGame_of_some hlive hcount
    unfold writeLive at hrun
    cases hsave : d.stage.view.save with
    | none =>
      rw [hsave] at hrun
      refine .inr ⟨cs, [], hcs, List.forall_mem_nil _, ?_⟩
      rw [List.map_nil, List.append_nil]
      constructor <;> rw [hrun]
      · rfl
      · exact hstage
      · rw [Course.ofBeats, hsilent]
        exact hbus
    | some save =>
      rw [hsave] at hrun
      dsimp only at hrun
      rcases persist_outcome store d save with ⟨f, hf⟩ | ⟨u, hwritten⟩
      · rw [bind_of_error (Prod.ext hf rfl)] at hrun
        exact .inl ⟨f, by rw [hrun]⟩
      · rw [bind_of_ok hwritten] at hrun
        refine .inr ⟨cs, [(.saveUpdated, [("save", save.toJson)])], hcs,
          List.forall_mem_singleton.mpr rfl, ?_⟩
        constructor <;> rw [hrun]
        · rfl
        · show d.stage = _
          rw [hstage, Course.ofBeats, Stage.playAll_append]
          rfl
        · show d.bus.announce _ _ = _
          rw [hbus, Course.ofBeats, Stage.reports_append, hsilent]
          rfl

end Plays

end Engine

end Storyline
