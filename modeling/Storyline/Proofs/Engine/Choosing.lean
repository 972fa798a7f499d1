import Storyline.Proofs.Engine.Acting
import Storyline.Proofs.Engine.Purity

/-!
# Choices offered and taken

Of the choices of a node those are offered whose condition holds, and one is taken by its id.  What
is taken is the first choice of that id, whatever its condition, so it is the one that was offered
as long as no other choice of the node goes by the same id.

* `Choice.beats`: what a choice does, its landing apart, if its effects do not move the dialog;
* `Stage.view_beats`: the dialog then stands at the node that the choice leads to, and the save has
  its effects;
* `Engine.Taken`: a choice was taken, and nothing else;
* `Engine.mem_offered`: the choices that are offered;
* `Engine.taken_of_offered`: what is taken when an offered choice is made.
-/

namespace Storyline

open Content

/-! ## Choices by id -/

namespace DialogNode

variable {n : DialogNode} {c : Choice}

/-- Some choice goes by the id of a choice. -/
theorem exists_choice? (hc : c ∈ n.choices) :
    ∃ first ∈ n.choices, n.choice? c.id = some first ∧ first.id = c.id := by
  have hfound : (n.choice? c.id).isSome := by
    rw [choice?, List.find?_isSome]
    exact ⟨c, hc, by simp⟩
  obtain ⟨first, hfirst⟩ := Option.isSome_iff_exists.mp hfound
  exact ⟨first, List.mem_of_find?_eq_some hfirst, hfirst, by simpa using List.find?_some hfirst⟩

end DialogNode

/-! ## What a choice does -/

namespace Choice

/-- What is told of a choice that leads to a node. -/
def made (c : Choice) (target : DialogNode) : Report :=
  (.choiceMade, [("choice_id", .str c.id), ("next_node_id", .str target.id)])

/-- Its effects, the move, and what is told of it. -/
def beats (c : Choice) (target : DialogNode) : List Beat :=
  c.effects.map .effect ++ [.command (.makeChoice c.id), .tell (c.made target)]

end Choice

namespace Stage

theorem frame_bring {x : Effect} (hx : x.isControl = false) (s : Stage) :
    (s.bring x).view = { s.view with save := (s.bring x).view.save } := by
  cases x with
  | changeScene sceneId => cases hx
  | changePhase phase => cases hx
  | playSound sound => rfl
  | shakeScreen intensity duration => rfl
  | _ => simp only [bring, view_changeSave]

/-- Effects that do not move the dialog change nothing of the view but its save. -/
theorem frame_playAll_effects {es : List Effect} (hes : ∀ x ∈ es, x.isControl = false)
    (s : Stage) :
    (s.playAll (es.map .effect)).view =
      { s.view with save := (s.playAll (es.map .effect)).view.save } := by
  induction es generalizing s with
  | nil => rfl
  | cons x es ih =>
    obtain ⟨hx, hes⟩ := List.forall_mem_cons.mp hes
    have hrest := ih hes (s.bring x)
    rw [frame_bring hx] at hrest
    exact hrest

section

variable {s : Stage} {n : DialogNode} {script : Script} {c : Choice} {target : DialogNode}

/-- Where the effects of a choice are played, the choice leads where it did before. -/
theorem chosen?_effects (hnode : s.view.node = some n) (hscript : s.view.script = some script)
    (hc : n.choice? c.id = some c) (htarget : script.node? c.nextId = some target)
    (hdata : ∀ x ∈ c.effects, x.isControl = false) :
    (s.playAll (c.effects.map .effect)).chosen? c.id = some ⟨c.made target, target⟩ := by
  rw [chosen?, frame_playAll_effects hdata]
  simp only [hnode, hscript, chosenNode?, hc, Option.bind_eq_bind, Option.bind_some, htarget]
  rfl

/-- After the beats of a choice the dialog stands at the node that it leads to, in the same
script. -/
theorem view_beats (hnode : s.view.node = some n) (hscript : s.view.script = some script)
    (hc : n.choice? c.id = some c) (htarget : script.node? c.nextId = some target)
    (hdata : ∀ x ∈ c.effects, x.isControl = false) :
    (s.playAll (c.beats target)).view =
      { withPictures target s.view with
        save := (s.playAll (c.effects.map .effect)).view.save.map fun save =>
          { save with
            readDialogIds := markRead n.id save.readDialogIds
            currentDialogId := some target.id
            updatedAt := (s.playAll (c.effects.map .effect)).now }
        node := some target
        showChoices := ! target.choices.isEmpty
        typewriterComplete := false } := by
  have hframe := frame_playAll_effects hdata s
  generalize hafter : s.playAll (c.effects.map .effect) = after at hframe
  have hmoved : (after.makeChoice c.id).2 = after.moveTo n target := by
    rw [makeChoice, hframe]
    simp only [hnode, hscript, chosenNode?, hc, Option.bind_eq_bind, Option.bind_some, htarget]
  rw [Choice.beats, playAll_append, hafter]
  show (after.makeChoice c.id).2.view = _
  rw [hmoved, moveTo, view_changeView, view_changeSave, hframe]
  rfl

end

end Stage

namespace Engine

variable {σ : Type}

/-- Making the choice of an id carries out the effects of a choice of the node `n` and nothing else,
moves the dialog to the node that the choice leads to, tells that it was made, and lands there. -/
structure Taken (store : Storage.Store σ) (freshId : String) (e : Engine σ) (n : DialogNode)
    (c : Choice) (target : DialogNode) : Prop where
  lands : dispatch store freshId (.makeChoice c.id) e = landOn target (e.playAll (c.beats target))
  node : (e.playAll (c.beats target)).stage.view.node = some target
  script : (e.playAll (c.beats target)).stage.view.script = e.stage.view.script
  told : (e.playAll (c.beats target)).bus =
    e.bus.announceAll (c.effects.filterMap Effect.event? ++ [c.made target])
  save : ∀ s, e.stage.view.save = some s → ∃ moment,
    (e.playAll (c.beats target)).stage.view.save =
      some { (Effect.applyAll s c.effects).1 with
        readDialogIds := Stage.markRead n.id (Effect.applyAll s c.effects).1.readDialogIds
        currentDialogId := some target.id
        updatedAt := moment }
  stays : (∀ x ∈ target.effects, x.isControl = false) →
    ∃ d, dispatch store freshId (.makeChoice c.id) e = (.ok (), d) ∧ d.stage.view.node = some target

section Taken

variable {e : Engine σ} {n : DialogNode} {script : Script} {c : Choice} {target : DialogNode}

/-- The course of a choice whose effects do not move the dialog. -/
theorem choiceCourse_of_data (hnode : e.stage.view.node = some n)
    (hscript : e.stage.view.script = some script) (hc : n.choice? c.id = some c)
    (htarget : script.node? c.nextId = some target)
    (hdata : ∀ x ∈ c.effects, x.isControl = false) :
    choiceCourse e.stage c.id = (Course.ofBeats (c.beats target)).andThen
      (course e.stage.content maxDepth (instructionsOf target)) := by
  have heffects : course e.stage.content maxDepth (c.effects.map .effect) =
      .ofBeats (c.effects.map .effect) := course_of_not_control _ _ hdata
  have hstays : (e.stage.playAll (c.effects.map .effect)).view.node.any (·.isSame n) = true := by
    rw [Stage.frame_playAll_effects hdata]
    simp [hnode, DialogNode.isSame]
  have hchosen := Stage.chosen?_effects hnode hscript hc htarget hdata
  have hlanded : (e.stage.playAll (c.effects.map .effect)).landed? (.command (.makeChoice c.id)) =
      some ⟨c.made target, target⟩ := hchosen
  simp only [choiceCourse, hnode, hc, heffects]
  rw [Course.andThen_ofBeats]
  simp only [Course.ofBeats, followCourse, hstays, hchosen, commandCourse, hlanded, landingCourse?,
    landingCourse, Option.isSome_some, if_true, Stage.content_playAll, Choice.beats]
  simp [Course.andThen]

theorem taken (store : Storage.Store σ) (freshId : String) (hnode : e.stage.view.node = some n)
    (hscript : e.stage.view.script = some script) (hc : n.choice? c.id = some c)
    (htarget : script.node? c.nextId = some target)
    (hdata : ∀ x ∈ c.effects, x.isControl = false) : Taken store freshId e n c target := by
  have hview := Stage.view_beats hnode hscript hc htarget hdata
  have hlands : dispatch store freshId (.makeChoice c.id) e =
      landOn target (e.playAll (c.beats target)) := by
    have htakes : dispatch store freshId (.makeChoice c.id) e = _ := takes_makeChoice e c.id
    have hland : landOn target (e.playAll (c.beats target)) = _ := drain_apply _ _ _
    rw [htakes, hland, choiceCourse_of_data hnode hscript hc htarget hdata,
      Course.andThen_ofBeats, playAll_append, stage_playAll, Stage.content_playAll]
  have hnext : (e.playAll (c.beats target)).stage.view.node = some target := by
    rw [stage_playAll, hview]
  refine ⟨hlands, hnext, ?_, ?_, fun s hs => ?_, fun hquiet => ?_⟩
  · rw [stage_playAll, hview]
    rfl
  · rw [bus_playAll, Choice.beats, Stage.reports_append, Stage.reports_effects hdata]
    rfl
  · obtain ⟨moment, hsave⟩ := Stage.view_playAll_effects hdata hs
    rw [stage_playAll, hview, hsave]
    exact ⟨_, rfl⟩
  · have hland : landOn target (e.playAll (c.beats target)) = _ := execute_of_not_control hquiet _
    refine ⟨_, hlands.trans hland, ?_⟩
    rw [stage_playAll, Stage.frame_playAll_effects hquiet]
    exact hnext

end Taken

/-- Of some choices those are offered whose conditions hold. -/
theorem mem_offered {s : Stage} {cs os : List Choice} (h : offered s cs = .ok os) :
    c ∈ os ↔ c ∈ cs ∧ s.holds c.condition = .ok true := by
  induction cs generalizing os with
  | nil =>
    cases h
    exact iff_of_false List.not_mem_nil fun hc => List.not_mem_nil hc.1
  | cons d cs ih =>
    rw [offered] at h
    cases hd : s.holds d.condition with
    | error fault =>
      rw [hd] at h
      cases h
    | ok b =>
      cases hrest : offered s cs with
      | error fault =>
        rw [hd, hrest] at h
        cases h
      | ok rest =>
        rw [hd, hrest] at h
        obtain rfl : (if b then d :: rest else rest) = os := Except.ok.inj h
        have hfirst : c = d → (s.holds c.condition = .ok true ↔ b = true) := by
          rintro rfl
          rw [hd, Except.ok.injEq]
        cases b with
        | true =>
          rw [if_pos rfl, List.mem_cons, List.mem_cons, ih hrest]
          grind
        | false =>
          rw [if_neg Bool.false_ne_true, List.mem_cons, ih hrest]
          grind

/-- Whatever the content and the engine: an offered choice is one of the current node whose
condition holds, and making it takes the first choice of its id, which is the same one if no other
choice of the node goes by that id.  If the effects of the choice that is taken do not move the
dialog and it leads to a node of the script, exactly that comes of it. -/
theorem taken_of_offered (store : Storage.Store σ) (freshId : String) {e : Engine σ} {c : Choice}
    {cs : List Choice} (hcs : availableChoices e = .ok cs) (hc : c ∈ cs) :
    ∃ n first, e.stage.view.node = some n ∧ c ∈ n.choices ∧
      e.stage.holds c.condition = .ok true ∧
      n.choice? c.id = some first ∧ first.id = c.id ∧
      ((∀ d ∈ n.choices, d.id = c.id → d = c) → first = c) ∧
      ∀ script target, e.stage.view.script = some script →
        script.node? first.nextId = some target → (∀ x ∈ first.effects, x.isControl = false) →
          Taken store freshId e n first target := by
  obtain ⟨hmem, hholds⟩ := (mem_offered hcs).mp hc
  cases hnode : e.stage.view.node with
  | none =>
    rw [hnode] at hmem
    cases hmem
  | some n =>
    rw [hnode] at hmem
    have hn : c ∈ n.choices := hmem
    obtain ⟨first, hfirst, hfound, hid⟩ := DialogNode.exists_choice? hn
    refine ⟨n, first, rfl, hn, hholds, hfound, hid, fun honly => honly first hfirst hid, ?_⟩
    intro script target hscript htarget hdata
    exact taken store freshId hnode hscript (hid ▸ hfound) htarget hdata

/-- A counter: who has a ticket goes past the queue and is given a badge, who has none stands in
it, and both choices go by one id. -/
def counterPack : Pack where
  scenes := []
  scripts :=
    [{ id := "counter", phase := .planning, title := "Counter", startNodeId := "front",
       nodes :=
        [{ id := "front", speaker := "clerk", text := "Yes?", emotion := none, background := none,
           characterSprite := none,
           choices :=
            [⟨"go", "Show the ticket", "desk", some "hasTicket",
              [.addItem ⟨"badge", "Badge", "", .keyItem, "", 1, false, []⟩]⟩,
             ⟨"go", "Queue", "queue", none, []⟩,
             ⟨"leave", "Leave", "street", none, [.setFlag "left" (.bool true)]⟩],
           next := none, effects := [], autoAdvance := false, autoAdvanceDelay := none,
           scriptId := none },
         { id := "desk", speaker := "", text := "A desk.", emotion := none, background := none,
           characterSprite := none, choices := [], next := none, effects := [],
           autoAdvance := false, autoAdvanceDelay := none, scriptId := none },
         { id := "queue", speaker := "", text := "A queue.", emotion := none, background := none,
           characterSprite := none, choices := [], next := none, effects := [],
           autoAdvance := false, autoAdvanceDelay := none, scriptId := none },
         { id := "street", speaker := "", text := "A street.", emotion := none,
           background := none, characterSprite := none, choices := [], next := none,
           effects := [], autoAdvance := false, autoAdvanceDelay := none, scriptId := none }] }]

/-- Without a ticket, leaving and queueing are offered.  Who leaves is on the street, but who asks
to queue is at the desk. -/
theorem taken_at_counter :
    ∃ i e, Index.ofPack counterPack = .ok i ∧
      dispatch gateStore "a" (.startNewGame ⟨"Ann", none⟩)
        (start i "1" Storage.Disk.empty 0.0 0.0) = (.ok (), e) ∧
      (availableChoices e).map (·.map (·.nextId)) = .ok ["queue", "street"] ∧
      (∃ d, dispatch gateStore "" (.makeChoice "leave") e = (.ok (), d) ∧
        d.stage.view.node.map (·.id) = some "street") ∧
      ∃ d, dispatch gateStore "" (.makeChoice "go") e = (.ok (), d) ∧
        d.stage.view.node.map (·.id) = some "desk" := by
  obtain ⟨i, e, n, script, leave, queue, badge, street, desk, hi, he, hoffered, hnext, hnode,
      hscript, ⟨hleaveId, hleaves, hstreet, hfree⟩, ⟨hqueueId, hgoes, hdesk, hquiet⟩,
      hstreetId, hdeskId⟩ :
      ∃ i e n script, ∃ leave queue badge : Choice, ∃ street desk : DialogNode,
        Index.ofPack counterPack = .ok i ∧
        dispatch gateStore "a" (.startNewGame ⟨"Ann", none⟩)
          (start i "1" Storage.Disk.empty 0.0 0.0) = (.ok (), e) ∧
        availableChoices e = .ok [queue, leave] ∧
        [queue, leave].map (·.nextId) = ["queue", "street"] ∧
        e.stage.view.node = some n ∧ e.stage.view.script = some script ∧
        (leave.id = "leave" ∧ n.choice? leave.id = some leave ∧
          script.node? leave.nextId = some street ∧ ∀ x ∈ leave.effects, x.isControl = false) ∧
        (queue.id = "go" ∧ n.choice? queue.id = some badge ∧
          script.node? badge.nextId = some desk ∧ ∀ x ∈ badge.effects, x.isControl = false) ∧
        (street.id = "street" ∧ street.effects = []) ∧ desk.id = "desk" ∧ desk.effects = [] :=
    ⟨_, _, _, _, _, _, _, _, _, rfl, rfl, rfl, rfl, rfl, rfl,
      ⟨rfl, rfl, rfl, List.forall_mem_singleton.mpr rfl⟩,
      ⟨rfl, rfl, rfl, List.forall_mem_singleton.mpr rfl⟩,
      ⟨rfl, rfl⟩, rfl, rfl⟩
  refine ⟨i, e, hi, he, hoffered ▸ congrArg _ hnext, ?_, ?_⟩
  · obtain ⟨m, first, hm, -, -, hfound, hid, -, htaken⟩ :=
      taken_of_offered gateStore "" hoffered (List.mem_cons_of_mem queue List.mem_cons_self)
    obtain rfl : n = m := Option.some_inj.mp (hnode.symm.trans hm)
    obtain rfl : leave = first := Option.some_inj.mp (hleaves.symm.trans hfound)
    obtain ⟨d, hd, hat⟩ := (htaken script street hscript hstreet hfree).stays
      (hstreetId.2 ▸ List.forall_mem_nil _)
    exact ⟨d, hleaveId ▸ hd, by rw [hat, ← hstreetId.1]; rfl⟩
  · obtain ⟨m, first, hm, -, -, hfound, hid, -, htaken⟩ :=
      taken_of_offered gateStore "" hoffered List.mem_cons_self
    obtain rfl : n = m := Option.some_inj.mp (hnode.symm.trans hm)
    obtain rfl : badge = first := Option.some_inj.mp (hgoes.symm.trans hfound)
    obtain ⟨d, hd, hat⟩ := (htaken script desk hscript hdesk hquiet).stays
      (hdeskId.2 ▸ List.forall_mem_nil _)
    exact ⟨d, (hid.trans hqueueId) ▸ hd, by rw [hat, ← hdeskId.1]; rfl⟩

end Engine

end Storyline
