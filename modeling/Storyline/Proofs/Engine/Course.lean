import Storyline.Engine.Dispatch
import Storyline.Proofs.Bus.Hearing
import Storyline.Proofs.Stage.Position
import Storyline.Proofs.Storage.Act

/-!
# The course of a computation

Carrying out effects goes beat by beat.  Where an effect lands depends on the content
only, so the whole course of a list of effects can be told beforehand, and the engine
afterwards is the engine before with that course played through.

* `Content.Index.landing?`: the spot that an effect lands on;
* `Beat`: one thing that happens, with `Stage.play` and `Stage.reportsOf` for what it does to
  the stage and what it reports;
* `Engine.playAll`: beats one after another;
* `Engine.course`: the beats of a list of instructions, and how it ends;
* `Engine.carryOut_apply`: an effect is its own beat and then a landing;
* `Engine.drain_apply`: a list of instructions is its course.
-/

namespace Storyline

open Content

/-! ## Landings -/

/-- The spot that an effect lands on: where its scene enters the dialog, or where its phase
starts.  Other effects land nowhere. -/
def Content.Index.landing? (i : Index) : Effect → Option Spot
  | .changeScene sceneId => (i.scene? sceneId).bind i.sceneSpot?
  | .changePhase phase => i.phaseSpot? phase
  | _ => none

/-- What is told of a dialog that runs in the script of a spot. -/
def Spot.started (p : Spot) : Report := (.dialogStarted, [("script_id", .str p.script.id)])

/-! ## Beats -/

/-- One thing that happens in a game: a command to the stage, an event that is told, or an
effect that is carried out, apart from what its landing brings. -/
inductive Beat where
  | command (c : Stage.Command)
  | tell (r : Report)
  | effect (x : Effect)

namespace Stage

/-- The stage after an effect, apart from what its landing brings. -/
def bring (s : Stage) : Effect → Stage
  | .changeScene sceneId => (s.changeScene sceneId).2
  | .changePhase phase => (s.changePhase phase).2
  | .playSound _ => s
  | .shakeScreen _ _ => s
  | x => s.changeSave fun save => x.change save

/-- What is told of an effect, apart from its landing. -/
def reportsOn (s : Stage) : Effect → List Report
  | .changeScene sceneId =>
    if (s.content.scene? sceneId).isSome then
      [(.sceneChanged,
        [("from", .ofOption (s.view.scene.map (·.id))), ("to", .str sceneId)])]
    else []
  | .changePhase phase =>
    [(.phaseChanged,
      [("from", (s.view.save.map (·.currentPhase)).elim .null Phase.toJson),
        ("to", phase.toJson)])]
  | x => x.event?.toList

/-- The stage after a beat. -/
def play (s : Stage) : Beat → Stage
  | .command c => (s.perform c).2
  | .tell _ => s
  | .effect x => s.bring x

/-- The events that a beat tells. -/
def reportsOf (s : Stage) : Beat → List Report
  | .command _ => []
  | .tell r => [r]
  | .effect x => s.reportsOn x

/-- The stage after beats one after another. -/
def playAll (s : Stage) (t : List Beat) : Stage := t.foldl play s

/-- The events that beats tell, one after another. -/
def reports (s : Stage) : List Beat → List Report
  | [] => []
  | b :: t => s.reportsOf b ++ (s.play b).reports t

@[simp] theorem playAll_nil (s : Stage) : s.playAll [] = s := rfl

@[simp] theorem playAll_cons (s : Stage) (b : Beat) (t : List Beat) :
    s.playAll (b :: t) = (s.play b).playAll t := rfl

theorem playAll_append (s : Stage) (t u : List Beat) :
    s.playAll (t ++ u) = (s.playAll t).playAll u := by
  simp [playAll]

@[simp] theorem reports_nil (s : Stage) : s.reports [] = [] := rfl

theorem reports_cons (s : Stage) (b : Beat) (t : List Beat) :
    s.reports (b :: t) = s.reportsOf b ++ (s.play b).reports t := rfl

theorem reports_append (s : Stage) (t u : List Beat) :
    s.reports (t ++ u) = s.reports t ++ (s.playAll t).reports u := by
  induction t generalizing s with
  | nil => rfl
  | cons b t ih => rw [List.cons_append, reports_cons, ih, reports_cons, List.append_assoc,
      playAll_cons]

@[simp] theorem content_bring (s : Stage) (x : Effect) : (s.bring x).content = s.content := by
  cases x with
  | changeScene sceneId => exact content_perform s (.changeScene sceneId)
  | changePhase phase => exact content_perform s (.changePhase phase)
  | playSound sound => rfl
  | shakeScreen intensity duration => rfl
  | _ => exact content_changeSave s _

@[simp] theorem content_play (s : Stage) (b : Beat) : (s.play b).content = s.content := by
  cases b with
  | command c => exact content_perform s c
  | tell r => rfl
  | effect x => exact content_bring s x

@[simp] theorem content_playAll (s : Stage) (t : List Beat) :
    (s.playAll t).content = s.content := by
  induction t generalizing s with
  | nil => rfl
  | cons b t ih => rw [playAll_cons, ih, content_play]

end Stage

namespace Engine

variable {σ : Type}

/-- The engine after beats one after another. -/
def playAll (e : Engine σ) (t : List Beat) : Engine σ :=
  { e with stage := e.stage.playAll t, bus := e.bus.announceAll (e.stage.reports t) }

@[simp] theorem stage_playAll (e : Engine σ) (t : List Beat) :
    (e.playAll t).stage = e.stage.playAll t := rfl

@[simp] theorem bus_playAll (e : Engine σ) (t : List Beat) :
    (e.playAll t).bus = e.bus.announceAll (e.stage.reports t) := rfl

@[simp] theorem playAll_nil (e : Engine σ) : e.playAll [] = e := rfl

theorem playAll_append (e : Engine σ) (t u : List Beat) :
    e.playAll (t ++ u) = (e.playAll t).playAll u := by
  simp only [playAll, Stage.playAll_append, Stage.reports_append, Bus.announceAll_append]

/-! ## Courses -/

/-- Beats and how they end. -/
structure Course where
  beats : List Beat
  result : Except Fault Unit

namespace Course

/-- A course that goes well. -/
def ofBeats (t : List Beat) : Course := ⟨t, .ok ()⟩

/-- One course after another, unless the first one fails. -/
def andThen (c d : Course) : Course :=
  match c.result with
  | .ok _ => ⟨c.beats ++ d.beats, d.result⟩
  | .error _ => c

theorem andThen_of_ok {c : Course} (h : c.result = .ok ()) (d : Course) :
    c.andThen d = ⟨c.beats ++ d.beats, d.result⟩ := by
  rw [andThen, h]

theorem andThen_of_error {c : Course} {fault : Fault} (h : c.result = .error fault)
    (d : Course) : c.andThen d = c := by
  rw [andThen, h]

/-- Where both go well, one comes after the other. -/
theorem ok_of_andThen {c d : Course} (h : (c.andThen d).result = .ok ()) :
    c.result = .ok () ∧ d.result = .ok () ∧ c.andThen d = ⟨c.beats ++ d.beats, .ok ()⟩ := by
  cases hc : c.result with
  | error fault =>
    rw [andThen_of_error hc, hc] at h
    cases h
  | ok u =>
    rw [andThen_of_ok hc] at h ⊢
    exact ⟨rfl, h, by rw [h]⟩

theorem andThen_ofBeats (t : List Beat) (d : Course) :
    (ofBeats t).andThen d = ⟨t ++ d.beats, d.result⟩ := rfl

/-- Every beat comes from one of the two. -/
theorem forall_beats_andThen {P : Beat → Prop} {c d : Course} (hc : ∀ b ∈ c.beats, P b)
    (hd : ∀ b ∈ d.beats, P b) : ∀ b ∈ (c.andThen d).beats, P b := by
  cases h : c.result with
  | error fault =>
    rw [andThen_of_error h]
    exact hc
  | ok u =>
    rw [andThen_of_ok h]
    exact List.forall_mem_append.mpr ⟨hc, hd⟩

end Course

/-- The course of one instruction, for given courses of the effects of nodes. -/
def courseOf (i : Index) (inner : DialogNode → Course) : Instruction → Course
  | .unknown kind => ⟨[], .error (.unknownEffect ⟨kind⟩)⟩
  | .effect x =>
    match i.landing? x with
    | none => .ofBeats [.effect x]
    | some p => (Course.ofBeats [.effect x, .tell p.started]).andThen (inner p.node)

theorem courseOf_of_none {i : Index} {x : Effect} (h : i.landing? x = none)
    (inner : DialogNode → Course) : courseOf i inner (.effect x) = .ofBeats [.effect x] := by
  rw [courseOf, h]

theorem courseOf_of_some {i : Index} {x : Effect} {p : Spot} (h : i.landing? x = some p)
    (inner : DialogNode → Course) :
    courseOf i inner (.effect x) =
      (Course.ofBeats [.effect x, .tell p.started]).andThen (inner p.node) := by
  rw [courseOf, h]

/-- The course of instructions that may be `depth` landings deep. -/
def course (i : Index) : Nat → List Instruction → Course
  | 0, _ => ⟨[.tell (.error, [("message", .str loopMessage)])], .error .effectLoop⟩
  | depth + 1, is =>
    is.foldr
      (fun instruction rest =>
        (courseOf i (fun n => course i depth (instructionsOf n)) instruction).andThen rest)
      (.ofBeats [])

theorem course_cons (i : Index) (depth : Nat) (instruction : Instruction)
    (is : List Instruction) :
    course i (depth + 1) (instruction :: is) =
      (courseOf i (fun n => course i depth (instructionsOf n)) instruction).andThen
        (course i (depth + 1) is) := rfl

/-- The computation plays the course through and ends as the course does. -/
def Takes (m : Run σ Unit) (e : Engine σ) (c : Course) : Prop :=
  m e = (c.result, e.playAll c.beats)

theorem Takes.bind {m : Run σ Unit} {f : Unit → Run σ Unit} {e : Engine σ} {c d : Course}
    (hm : Takes m e c) (hf : Takes (f ()) (e.playAll c.beats) d) :
    Takes (m >>= f) e (c.andThen d) := by
  obtain ⟨t, _ | ⟨⟩⟩ := c
  · exact bind_of_error hm f
  · unfold Takes
    rw [bind_of_ok hm, hf, Course.andThen, playAll_append]

/-! ## Single steps -/

theorem view_apply (e : Engine σ) : (view : Run σ View) e = (.ok e.stage.view, e) := rfl

theorem askStorage_apply {α : Type} (act : Storage.Act σ α) (e : Engine σ) :
    askStorage act e = (.ok (act e.storage).1, { e with storage := (act e.storage).2 }) := rfl

theorem moveStage_apply {α : Type} (f : Stage → α × Stage) (e : Engine σ) :
    (moveStage f : Run σ α) e = (.ok (f e.stage).1, { e with stage := (f e.stage).2 }) := rfl

theorem announce_apply (kind : EventKind) (payload : Json.Members) (e : Engine σ) :
    (announce kind payload : Run σ Unit) e =
      (.ok (), { e with bus := e.bus.announce kind payload }) := rfl

/-- Where a dialog runs at a spot, its script is told. -/
theorem announceDialog_apply {e : Engine σ} {p : Spot} (h : e.stage.view.script = some p.script) :
    (announceDialog : Run σ Unit) e = (.ok (), e.playAll [.tell p.started]) := by
  unfold announceDialog
  rw [bind_of_ok (view_apply e), h]
  rfl

/-- Going on where a stage stands at a spot, or at none: the dialog is told and the node is
landed on. -/
theorem land_apply {land : DialogNode → Run σ Unit} {e : Engine σ} {t : List Beat}
    {spot : Option Spot} (hnode : (e.stage.playAll t).view.node = spot.map (·.node))
    (hscript : (e.stage.playAll t).view.script = spot.map (·.script)) :
    (match (e.playAll t).stage.view.node with
      | none => (pure () : Run σ Unit)
      | some n => announceDialog >>= fun _ => land n) (e.playAll t) =
      match spot with
      | none => (.ok (), e.playAll t)
      | some p => land p.node (e.playAll (t ++ [.tell p.started])) := by
  rw [stage_playAll, hnode]
  cases spot with
  | none => rfl
  | some p =>
    dsimp only [Option.map_some]
    rw [playAll_append, bind_of_ok (announceDialog_apply hscript)]

theorem changePhase_apply (land : DialogNode → Run σ Unit) (phase : Phase) (e : Engine σ) :
    changePhase land phase e = match e.stage.content.phaseSpot? phase with
      | none => (.ok (), e.playAll [.effect (.changePhase phase)])
      | some p => land p.node (e.playAll [.effect (.changePhase phase), .tell p.started]) := by
  have hnode : (e.stage.changePhase phase).2.view.node =
      (e.stage.content.phaseSpot? phase).map (·.node) := by
    rw [Stage.changePhase, Stage.node_enter]
  have hscript : (e.stage.changePhase phase).2.view.script =
      (e.stage.content.phaseSpot? phase).map (·.script) := by
    rw [Stage.changePhase, Stage.script_enter]
  have hanswer : (e.stage.changePhase phase).1 = (e.stage.changePhase phase).2.view.node :=
    hnode.symm
  unfold changePhase
  rw [bind_of_ok (view_apply e), bind_of_ok (moveStage_apply _ e), bind_of_ok (announce_apply ..),
    hanswer]
  exact land_apply (t := [.effect (.changePhase phase)]) hnode hscript

/-- A scene that is not there is not gone to, and nothing is told. -/
theorem playAll_changeScene_of_none {e : Engine σ} {sceneId : String}
    (h : e.stage.content.scene? sceneId = none) :
    e.playAll [.effect (.changeScene sceneId)] = e := by
  have hmoved : (e.stage.changeScene sceneId).2 = e.stage := by rw [Stage.changeScene, h]
  have hreports : e.stage.reports [.effect (.changeScene sceneId)] = [] := by
    simp [Stage.reports_cons, Stage.reportsOf, Stage.reportsOn, h]
  show ({ e with stage := (e.stage.changeScene sceneId).2, bus := _ } : Engine σ) = e
  rw [hmoved, hreports, Bus.announceAll_nil]

theorem playAll_changeScene_of_some {e : Engine σ} {sceneId : String} {c : Scene}
    (h : e.stage.content.scene? sceneId = some c) :
    e.playAll [.effect (.changeScene sceneId)] =
      { e with
        stage := (e.stage.changeScene sceneId).2
        bus := e.bus.announce .sceneChanged
          [("from", .ofOption (e.stage.view.scene.map (·.id))), ("to", .str sceneId)] } := by
  have hreports : e.stage.reports [.effect (.changeScene sceneId)] =
      [(.sceneChanged,
        [("from", .ofOption (e.stage.view.scene.map (·.id))), ("to", .str sceneId)])] := by
    simp [Stage.reports_cons, Stage.reportsOf, Stage.reportsOn, h]
  rw [playAll, hreports]
  rfl

theorem changeScene_apply (land : DialogNode → Run σ Unit) (sceneId : String) (e : Engine σ) :
    changeScene land sceneId e =
      match (e.stage.content.scene? sceneId).bind e.stage.content.sceneSpot? with
      | none => (.ok (), e.playAll [.effect (.changeScene sceneId)])
      | some p => land p.node (e.playAll [.effect (.changeScene sceneId), .tell p.started]) := by
  unfold changeScene
  rw [bind_of_ok (view_apply e), bind_of_ok (moveStage_apply _ e)]
  cases hc : e.stage.content.scene? sceneId with
  | none =>
    have hmoved : e.stage.changeScene sceneId = (none, e.stage) := by
      rw [Stage.changeScene, hc]
    rw [hmoved, Option.bind_none, playAll_changeScene_of_none hc]
    rfl
  | some c =>
    have hmoved : e.stage.changeScene sceneId =
        (some c, e.stage.enter (some c) (e.stage.content.sceneSpot? c) fun save =>
          { save with currentSceneId := c.id }) := by
      rw [Stage.changeScene, hc]
    have hanswer : (e.stage.changeScene sceneId).1 = some c := by rw [hmoved]
    rw [hanswer, Option.bind_some]
    dsimp only
    rw [bind_of_ok (announce_apply ..), bind_of_ok (view_apply _),
      ← playAll_changeScene_of_some hc]
    refine land_apply (t := [.effect (.changeScene sceneId)]) ?_ ?_
    · show (e.stage.changeScene sceneId).2.view.node = _
      rw [hmoved, Stage.node_enter]
    · show (e.stage.changeScene sceneId).2.view.script = _
      rw [hmoved, Stage.script_enter]

/-- An effect is its own beat, and then a landing if it lands. -/
theorem carryOut_apply (land : DialogNode → Run σ Unit) (x : Effect) (e : Engine σ) :
    carryOut land x e = match e.stage.content.landing? x with
      | none => (.ok (), e.playAll [.effect x])
      | some p => land p.node (e.playAll [.effect x, .tell p.started]) := by
  cases x with
  | changeScene sceneId => exact changeScene_apply land sceneId e
  | changePhase phase => exact changePhase_apply land phase e
  | _ => rfl

/-! ## Lists of instructions -/

section Drain

variable {i : Index}

theorem takes_carryOut {land : DialogNode → Run σ Unit} {inner : DialogNode → Course}
    (hland : ∀ n (e : Engine σ), e.stage.content = i → Takes (land n) e (inner n)) (x : Effect)
    {e : Engine σ} (he : e.stage.content = i) :
    Takes (carryOut land x) e (courseOf i inner (.effect x)) := by
  unfold Takes
  rw [carryOut_apply, he, courseOf]
  cases i.landing? x with
  | none => rfl
  | some p =>
    dsimp only
    rw [hland p.node _ (by rw [stage_playAll, Stage.content_playAll, he]),
      Course.andThen_ofBeats, playAll_append]

theorem takes_follow {land : DialogNode → Run σ Unit} {inner : DialogNode → Course}
    (hland : ∀ n (e : Engine σ), e.stage.content = i → Takes (land n) e (inner n))
    (instruction : Instruction) {e : Engine σ} (he : e.stage.content = i) :
    Takes (follow land instruction) e (courseOf i inner instruction) := by
  cases instruction with
  | unknown kind => rfl
  | effect x => exact takes_carryOut hland x he

/-- Instructions take their course.  The induction is on the depth that is left and then on
the list. -/
theorem takes_drain (depth : Nat) (is : List Instruction) {e : Engine σ}
    (he : e.stage.content = i) : Takes (drain depth is) e (course i depth is) := by
  induction depth generalizing is e with
  | zero => rfl
  | succ depth ihdepth =>
    induction is generalizing e with
    | nil => rfl
    | cons instruction is ih =>
      rw [drain_cons, course_cons]
      refine (takes_follow (fun n d hd => ihdepth (instructionsOf n) hd) instruction he).bind ?_
      exact ih (by rw [stage_playAll, Stage.content_playAll, he])

theorem drain_apply (depth : Nat) (is : List Instruction) (e : Engine σ) :
    drain depth is e =
      ((course e.stage.content depth is).result,
        e.playAll (course e.stage.content depth is).beats) :=
  takes_drain depth is rfl

end Drain

end Engine

end Storyline
