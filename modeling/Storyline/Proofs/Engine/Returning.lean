import Storyline.Proofs.Content.Lookups
import Storyline.Proofs.Engine.Choosing
import Storyline.Proofs.Engine.Keeping

/-!
# Choices whose effects move the dialog

The effects of a choice come before its own move, and they may enter positions themselves.
Whether they have moved the dialog is judged afterwards, by the node at which it then stands: so
the choice still moves where its effects came back, in the end, to the node at which it was made.

* `Content.Index.entered?`: the position that a beat enters; `Engine.entered`: the positions that
  instructions enter, at any depth of landings;
* `Stage.place_playAll`: the dialog stands where the last position was entered;
* `Content.Index.Filed.eq_of_id`: over a pack, two spots of one node id are the same;
* `Engine.Decided`: what comes of a choice once its effects went well;
* `Engine.decided_of_choice`: the choice moves exactly if nothing was entered, or the node at which
  it was made was entered last.
-/

namespace Storyline

open Content

/-! ## Positions that beats enter -/

namespace Content.Index

variable {i : Index}

/-- The position that a beat of instructions enters: the spot of a scene that is there, or that
of a phase; either may be none. -/
def entered? (i : Index) : Beat → Option (Option Spot)
  | .effect (.changeScene sceneId) => (i.scene? sceneId).map i.sceneSpot?
  | .effect (.changePhase phase) => some (i.phaseSpot? phase)
  | _ => none

theorem Coherent.hasSpot_of_entered? (hi : i.Coherent) {b : Beat} {p : Spot}
    (h : i.entered? b = some (some p)) : i.HasSpot p := by
  unfold entered? at h
  split at h
  · obtain ⟨c, -, hp⟩ := Option.map_eq_some_iff.mp h
    exact hi.hasSpot_of_sceneSpot? hp
  · exact hi.hasSpot_of_phaseSpot? (Option.some_inj.mp h)
  · cases h

/-- Spots of the content of a pack are told apart by the ids of their nodes. -/
theorem Filed.eq_of_id (hi : i.Filed) {p q : Spot} (hp : i.HasSpot p) (hq : i.HasSpot q)
    (hid : p.node.id = q.node.id) : p = q := by
  obtain ⟨hpnode, hpscript⟩ := hi.node?_of_node? hp.1 hp.2
  obtain ⟨hqnode, hqscript⟩ := hi.node?_of_node? hq.1 hq.2
  have hnode : p.node = q.node := by
    rw [hid, hqnode] at hpnode
    exact (Option.some_inj.mp hpnode).symm
  have hscript : p.script = q.script := by
    rw [hnode, hqscript, Option.some_inj] at hpscript
    have hfound := hp.1
    rw [← hpscript, hq.1] at hfound
    exact (Option.some_inj.mp hfound).symm
  obtain ⟨n, s⟩ := p
  obtain ⟨m, r⟩ := q
  obtain ⟨rfl, rfl⟩ : n = m ∧ s = r := ⟨hnode, hscript⟩
  rfl

/-- Two finds of one node are finds at the same spot. -/
theorem Filed.isSame_iff (hi : i.Filed) {p q : Spot} (hp : i.HasSpot p) (hq : i.HasSpot q) :
    p.node.isSame q.node = true ↔ p = q := by
  constructor
  · intro h
    rw [DialogNode.isSame, Bool.and_eq_true, beq_iff_eq] at h
    exact hi.eq_of_id hp hq h.1
  · rintro rfl
    simp [DialogNode.isSame]

end Content.Index

namespace Stage

/-- Where the dialog stands: its node and its script. -/
def place (s : Stage) : Option DialogNode × Option Script := (s.view.node, s.view.script)

/-- The place of a spot, or of none. -/
def placeOf (spot : Option Spot) : Option DialogNode × Option Script :=
  (spot.map (·.node), spot.map (·.script))

variable {s : Stage}

theorem place_enter (s : Stage) (scene : Option Scene) (spot : Option Spot)
    (change : Save → Save) : (s.enter scene spot change).place = placeOf spot :=
  Prod.ext (node_enter s scene spot change) (script_enter s scene spot change)

theorem place_changeSave (s : Stage) (f : Save → Save) : (s.changeSave f).place = s.place := by
  rw [place, view_changeSave]
  rfl

theorem place_changeScene (s : Stage) (sceneId : String) :
    (s.changeScene sceneId).2.place =
      ((s.content.scene? sceneId).map s.content.sceneSpot?).elim s.place placeOf := by
  cases hc : s.content.scene? sceneId with
  | none =>
    rw [changeScene_of_none hc]
    rfl
  | some c =>
    rw [changeScene, hc]
    exact place_enter ..

/-- A beat that is no command leaves the dialog at the position that it enters, or where it
was. -/
theorem place_play {b : Beat} (hb : b.command? = none) :
    (s.play b).place = (s.content.entered? b).elim s.place placeOf := by
  cases b with
  | command c => cases hb
  | tell r => rfl
  | effect x =>
    cases x with
    | changeScene sceneId => exact place_changeScene s sceneId
    | changePhase phase => exact place_enter ..
    | playSound sound => rfl
    | shakeScreen intensity duration => rfl
    | _ => exact place_changeSave s _

/-- Beats without a command leave the dialog at the last position that they enter, or where it
was if they enter none. -/
theorem place_playAll {t : List Beat} (ht : t.filterMap Beat.command? = []) :
    (s.playAll t).place = (t.filterMap s.content.entered?).getLast?.elim s.place placeOf := by
  induction t generalizing s with
  | nil => rfl
  | cons b t ih =>
    obtain ⟨hb, ht⟩ := List.forall_mem_cons.mp (List.filterMap_eq_nil_iff.mp ht)
    have hrest := ih (s := s.play b) (List.filterMap_eq_nil_iff.mpr ht)
    rw [content_play, place_play hb] at hrest
    rw [playAll_cons, hrest]
    cases hentered : s.content.entered? b with
    | none => rw [List.filterMap_cons_none hentered, Option.elim_none]
    | some spot =>
      rw [List.filterMap_cons_some hentered, List.getLast?_cons, Option.elim_some]
      cases (t.filterMap s.content.entered?).getLast? <;> rfl

/-- Where the dialog stands at a node, the first choice of an id leads to the node that it
names in the script. -/
theorem chosen?_of_place {n : DialogNode} {script : Script} (hplace : s.place = (some n, some script))
    {c : Choice} (hc : n.choice? c.id = some c) :
    s.chosen? c.id = (script.node? c.nextId).map fun target => ⟨c.made target, target⟩ := by
  obtain ⟨hnode, hscript⟩ := Prod.mk.inj hplace
  rw [chosen?, hnode, hscript]
  simp only [chosenNode?, hc, Option.bind_eq_bind, Option.bind_some]
  cases script.node? c.nextId <;> rfl

theorem makeChoice_of_place {n : DialogNode} {script : Script}
    (hplace : s.place = (some n, some script)) {c : Choice} (hc : n.choice? c.id = some c)
    {target : DialogNode} (htarget : script.node? c.nextId = some target) :
    (s.makeChoice c.id).2 = s.moveTo n target := by
  obtain ⟨hnode, hscript⟩ := Prod.mk.inj hplace
  rw [makeChoice, hnode, hscript]
  simp only [chosenNode?, hc, Option.bind_eq_bind, Option.bind_some, htarget]

end Stage

namespace Engine

variable {σ : Type}

/-! ## After the effects -/

/-- The engine after an event is told. -/
def told (e : Engine σ) (r : Report) : Engine σ := { e with bus := e.bus.announce r.1 r.2 }

/-- The engine after the move of a choice from a node to another one. -/
def moved (e : Engine σ) (n target : DialogNode) (c : Choice) : Engine σ :=
  { e with stage := e.stage.moveTo n target }.told (c.made target)

section Follow

variable {d : Engine σ} {n : DialogNode} {script : Script} {c : Choice}

/-- Where the dialog was led away, it is told that the choice leads nowhere. -/
theorem follow_away (h : d.stage.view.node.any (·.isSame n) = false) (choiceId : String) :
    (followCourse d.stage n choiceId).result = .ok () ∧
      d.playAll (followCourse d.stage n choiceId).beats = d.told (ledNowhere choiceId) := by
  rw [followCourse, h, if_neg Bool.false_ne_true]
  exact ⟨rfl, rfl⟩

theorem any_isSame_of_place (h : d.stage.place = (some n, some script)) :
    d.stage.view.node.any (·.isSame n) = true := by
  rw [(Prod.mk.inj h).1]
  simp [DialogNode.isSame]

/-- Where the dialog stands at the node of the choice and nothing is found under the id that it
names, nothing moves. -/
theorem follow_nowhere (h : d.stage.place = (some n, some script)) (hc : n.choice? c.id = some c)
    (htarget : script.node? c.nextId = none) :
    (followCourse d.stage n c.id).result = .ok () ∧
      d.playAll (followCourse d.stage n c.id).beats = d.told (ledNowhere c.id) := by
  have hchosen : d.stage.chosen? c.id = none := by
    rw [Stage.chosen?_of_place h hc, htarget]
    rfl
  have hstage : (d.stage.makeChoice c.id).2 = d.stage := by rw [Stage.makeChoice_of_none hchosen]
  have hcourse : followCourse d.stage n c.id =
      .ofBeats [.command (.makeChoice c.id), .tell (ledNowhere c.id)] := by
    rw [followCourse, any_isSame_of_place h, if_pos rfl, hchosen]
    rfl
  rw [hcourse]
  refine ⟨rfl, ?_⟩
  show ({ d with stage := (d.stage.makeChoice c.id).2, bus := _ } : Engine σ) = _
  rw [hstage]
  rfl

/-- Where the dialog stands at the node of the choice, it moves to the node that is found under the
id that the choice names, and lands there. -/
theorem follow_moves (h : d.stage.place = (some n, some script)) (hc : n.choice? c.id = some c)
    {target : DialogNode} (htarget : script.node? c.nextId = some target) :
    ((followCourse d.stage n c.id).result, d.playAll (followCourse d.stage n c.id).beats) =
      landOn target (d.moved n target c) := by
  have hchosen : d.stage.chosen? c.id = some ⟨c.made target, target⟩ := by
    rw [Stage.chosen?_of_place h hc, htarget]
    rfl
  have hlanded : d.stage.landed? (.command (.makeChoice c.id)) = some ⟨c.made target, target⟩ :=
    hchosen
  have hmoved : d.playAll [.command (.makeChoice c.id), .tell (c.made target)] =
      d.moved n target c := by
    show ({ d with stage := (d.stage.makeChoice c.id).2, bus := _ } : Engine σ) = _
    rw [Stage.makeChoice_of_place h hc htarget]
    rfl
  have hland : landOn target (d.moved n target c) = _ := drain_apply _ _ _
  have hcourse : followCourse d.stage n c.id = commandCourse d.stage (.makeChoice c.id) := by
    rw [followCourse, any_isSame_of_place h, if_pos rfl, hchosen]
    rfl
  rw [hcourse, commandCourse, hlanded, hland, ← hmoved, stage_playAll, Stage.content_playAll,
    ← playAll_append]
  rfl

end Follow

/-! ## Making a choice -/

/-- The positions that instructions enter one after another, at any depth of landings. -/
def entered (i : Index) (is : List Instruction) : List (Option Spot) :=
  (course i maxDepth is).beats.filterMap i.entered?

/-- The engine's dialog is led away from a spot: the last of the positions that were entered is not
that spot. -/
def LedAway (entered : List (Option Spot)) (p : Spot) : Prop :=
  ∃ spot ∈ entered.getLast?, spot ≠ some p

/-- What comes of a choice of the node at a spot once its effects went well and have brought the
engine from `e` to `d`.  Led away, the dialog stays where it is, and the choice is told to have led
nowhere.  Otherwise it makes the move to the node that the choice names in the script, tells
of it, and lands there; without such a node it stays as well. -/
structure Decided (store : Storage.Store σ) (freshId : String) (e d : Engine σ) (p : Spot)
    (c : Choice) (away : Prop) : Prop where
  stays : away → dispatch store freshId (.makeChoice c.id) e = (.ok (), d.told (ledNowhere c.id))
  moves : ¬away → ∀ target, p.script.node? c.nextId = some target →
    dispatch store freshId (.makeChoice c.id) e = landOn target (d.moved p.node target c)
  nowhere : ¬away → p.script.node? c.nextId = none →
    dispatch store freshId (.makeChoice c.id) e = (.ok (), d.told (ledNowhere c.id))

section Choice

variable {e : Engine σ} {n : DialogNode} {c : Choice}

/-- Where the effects of a choice fail, nothing follows them. -/
theorem dispatch_makeChoice_of_error (store : Storage.Store σ) (freshId : String)
    (hnode : e.stage.view.node = some n) (hc : n.choice? c.id = some c) {fault : Fault}
    {d : Engine σ} (heffects : drain maxDepth (c.effects.map .effect) e = (.error fault, d)) :
    dispatch store freshId (.makeChoice c.id) e = (.error fault, d) := by
  have hrun : dispatch store freshId (.makeChoice c.id) e = _ := takes_makeChoice e c.id
  rw [drain_apply] at heffects
  obtain ⟨hfault, hd⟩ := Prod.mk.inj heffects
  rw [hrun, choiceCourse, hnode]
  dsimp only
  rw [hc]
  dsimp only
  rw [Course.andThen_of_error hfault, hfault, hd]

/-- Where the effects of a choice go well, the choice is followed from where they end. -/
theorem dispatch_makeChoice_of_ok (store : Storage.Store σ) (freshId : String)
    (hnode : e.stage.view.node = some n) (hc : n.choice? c.id = some c) {d : Engine σ}
    (heffects : drain maxDepth (c.effects.map .effect) e = (.ok (), d)) :
    dispatch store freshId (.makeChoice c.id) e =
      ((followCourse d.stage n c.id).result, d.playAll (followCourse d.stage n c.id).beats) := by
  have hrun : dispatch store freshId (.makeChoice c.id) e = _ := takes_makeChoice e c.id
  rw [drain_apply] at heffects
  obtain ⟨hok, hd⟩ := Prod.mk.inj heffects
  rw [hrun, choiceCourse, hnode]
  dsimp only
  rw [hc]
  dsimp only
  rw [Course.andThen_of_ok hok, playAll_append, ← stage_playAll, hd]

/-- After instructions the dialog stands at the last position that they enter. -/
theorem place_drain {is : List Instruction} {r : Except Fault Unit} {d : Engine σ}
    (h : drain maxDepth is e = (r, d)) :
    d.stage.place =
      (entered e.stage.content is).getLast?.elim e.stage.place Stage.placeOf := by
  rw [drain_apply] at h
  rw [← (Prod.mk.inj h).2, stage_playAll, Stage.place_playAll (commands_course _ _)]
  rfl

theorem hasSpot_of_entered {i : Index} (hi : i.Coherent) {is : List Instruction} {p : Spot}
    (h : some p ∈ (entered i is).getLast?) : i.HasSpot p := by
  obtain ⟨b, -, hb⟩ := List.mem_filterMap.mp (List.mem_of_getLast? h)
  exact hi.hasSpot_of_entered? hb

/-- Where the effects led the dialog away from the spot of a choice, it does not stand at the node
of the choice. -/
theorem any_isSame_of_ledAway {i : Index} (hi : i.Coherent) (hf : i.Filed) {p : Spot}
    (hp : i.HasSpot p) (hcontent : e.stage.content = i) {is : List Instruction}
    {r : Except Fault Unit} {d : Engine σ} (h : drain maxDepth is e = (r, d))
    (haway : LedAway (entered i is) p) : d.stage.view.node.any (·.isSame p.node) = false := by
  obtain ⟨spot, hlast, hne⟩ := haway
  have hafter := place_drain h
  rw [hcontent, Option.mem_def.mp hlast, Option.elim_some] at hafter
  rw [(Prod.mk.inj hafter).1]
  cases spot with
  | none => rfl
  | some q =>
    have hq : i.HasSpot q := hasSpot_of_entered hi hlast
    refine Bool.eq_false_iff.mpr fun hsame => hne ?_
    rw [(hf.isSame_iff hq hp).mp hsame]

/-- Where they did not, it stands at that spot. -/
theorem place_of_not_ledAway {p : Spot} (hplace : e.stage.place = Stage.placeOf (some p))
    {is : List Instruction} {r : Except Fault Unit} {d : Engine σ}
    (h : drain maxDepth is e = (r, d)) (hstays : ¬LedAway (entered e.stage.content is) p) :
    d.stage.place = Stage.placeOf (some p) := by
  rw [place_drain h, hplace]
  cases hlast : (entered e.stage.content is).getLast? with
  | none => rfl
  | some spot =>
    rw [Option.elim_some, Classical.not_not.mp fun hne => hstays ⟨spot, hlast, hne⟩]

/-- What comes of a choice whose effects went well, at a spot of a pack. -/
theorem decided (store : Storage.Store σ) (freshId : String) {i : Index} (hi : i.Coherent)
    (hf : i.Filed) {p : Spot} (hp : i.HasSpot p) (hplace : e.stage.place = Stage.placeOf (some p))
    (hcontent : e.stage.content = i) (hc : p.node.choice? c.id = some c) {d : Engine σ}
    (heffects : drain maxDepth (c.effects.map .effect) e = (.ok (), d)) :
    Decided store freshId e d p c (LedAway (entered i (c.effects.map .effect)) p) := by
  have hnode : e.stage.view.node = some p.node := (Prod.mk.inj hplace).1
  have hrun := dispatch_makeChoice_of_ok store freshId hnode hc heffects
  have hback : ¬LedAway (entered i (c.effects.map .effect)) p →
      d.stage.place = Stage.placeOf (some p) := fun h =>
    place_of_not_ledAway hplace heffects (hcontent ▸ h)
  refine ⟨fun h => ?_, fun h target htarget => ?_, fun h htarget => ?_⟩
  · have hseen := any_isSame_of_ledAway hi hf hp hcontent heffects h
    obtain ⟨hok, hd⟩ := follow_away hseen c.id
    rw [hrun, hok, hd]
  · rw [hrun, follow_moves (hback h) hc htarget]
  · obtain ⟨hok, hd⟩ := follow_nowhere (hback h) hc htarget
    rw [hrun, hok, hd]

end Choice

/-- For every engine that any moves have brought about over a pack, and every choice of the node at
which its dialog stands: taken is the first choice of that id.  Its effects leave the dialog at
the last position that they enter, at any depth, or where it was.  If they fail, nothing more
happens; if they go well, the choice makes its own move, to the node that it names, exactly if they
entered nothing or entered last the spot at which the choice was made. -/
theorem decided_of_choice {v : Json} {p : Pack} {i : Index} (hv : Pack.read v = .good p)
    (hp : Index.ofPack p = .ok i) (store : Storage.Store σ) (now : String) (storage : σ)
    (clock interval : Float) {history : List (String × Move)}
    (hh : ∀ m ∈ history, m.2.Checked) (moment freshId : String) {e : Engine σ}
    (he : ((start i now storage clock interval).runAll store history).dated moment = e)
    {n : DialogNode} (hn : e.stage.view.node = some n) {c : Choice} (hc : c ∈ n.choices) :
    ∃ script first, e.stage.view.script = some script ∧ n.choice? c.id = some first ∧
      first.id = c.id ∧ ((∀ d ∈ n.choices, d.id = c.id → d = c) → first = c) ∧
      ∀ r d, drain maxDepth (first.effects.map .effect) e = (r, d) →
        d.stage.place =
            (entered i (first.effects.map .effect)).getLast?.elim e.stage.place Stage.placeOf ∧
          (∀ fault, r = .error fault →
            dispatch store freshId (.makeChoice first.id) e = (.error fault, d)) ∧
          (r = .ok () → Decided store freshId e d ⟨n, script⟩ first
            (LedAway (entered i (first.effects.map .effect)) ⟨n, script⟩)) := by
  have hi : i.Coherent := Index.coherent_of_ofPack hp
  have hsound : e.stage.Sound i := by
    rw [← he]
    exact sound_dated (sound_runAll hi (Index.valid_of_ofPack hv hp)
      (Stage.sound_ofContent i now) hh) moment
  obtain ⟨spot, hat⟩ := hsound.placed
  obtain ⟨⟨m, script⟩, rfl, rfl, hscript⟩ := Stage.exists_spot_of_node hat hn
  obtain ⟨first, hfirst, hfound, hid⟩ := DialogNode.exists_choice? hc
  have hplace : e.stage.place = Stage.placeOf (some ⟨m, script⟩) := Prod.ext hn hscript
  refine ⟨script, first, hscript, hfound, hid, fun honly => honly first hfirst hid, ?_⟩
  intro r d heffects
  have hfound' : m.choice? first.id = some first := hid ▸ hfound
  refine ⟨hsound.content ▸ place_drain heffects, fun fault hr => ?_, fun hr => ?_⟩
  · exact dispatch_makeChoice_of_error store freshId hn hfound' (hr ▸ heffects)
  · exact decided store freshId hi (Index.filed_of_ofPack hp) (hat.found _ rfl) hplace
      hsound.content hfound' (hr ▸ heffects)

/-- A gate in which one can turn around, and from which one can walk off into the street. -/
def doorPack : Pack where
  scenes :=
    [{ id := "gate", phase := .planning, name := "Gate", description := "", background := "",
       hotspots := [], entryDialogId := some "ask", entryScriptId := none, bgm := none,
       ambientSound := none },
     { id := "street", phase := .planning, name := "Street", description := "", background := "",
       hotspots := [], entryDialogId := some "walk", entryScriptId := none, bgm := none,
       ambientSound := none }]
  scripts :=
    [{ id := "keeper", phase := .planning, title := "Keeper", startNodeId := "ask",
       nodes :=
        [{ id := "ask", speaker := "", text := "In?", emotion := none, background := none,
           characterSprite := none,
           choices :=
            [⟨"turn", "Turn around", "yard", none, [.changeScene "street", .changeScene "gate"]⟩,
             ⟨"leave", "Leave", "yard", none, [.changeScene "street"]⟩],
           next := none, effects := [], autoAdvance := false, autoAdvanceDelay := none,
           scriptId := none },
         { id := "yard", speaker := "", text := "A yard.", emotion := none, background := none,
           characterSprite := none, choices := [], next := none, effects := [],
           autoAdvance := false, autoAdvanceDelay := none, scriptId := none }] },
     { id := "outside", phase := .planning, title := "Outside", startNodeId := "walk",
       nodes :=
        [{ id := "walk", speaker := "", text := "A street.", emotion := none,
           background := none, characterSprite := none, choices := [], next := none,
           effects := [], autoAdvance := false, autoAdvanceDelay := none,
           scriptId := none }] }]

/-- Who turns around in the gate, by way of the street, ends in the yard all the same; who leaves
stays in the street. -/
theorem decided_at_door :
    ∃ i e, Index.ofPack doorPack = .ok i ∧
      ((start i "1" Storage.Disk.empty 0.0 0.0).runAll gateStore
        [("2", .dispatch "a" (.startNewGame ⟨"Ann", none⟩))]).dated "3" = e ∧
      (∃ d, dispatch gateStore "" (.makeChoice "turn") e = (.ok (), d) ∧
        d.stage.view.node.map (·.id) = some "yard") ∧
      ∃ d, dispatch gateStore "" (.makeChoice "leave") e = (.ok (), d) ∧
        d.stage.view.node.map (·.id) = some "walk" := by
  have hchecked : ∀ m ∈ [("2", Move.dispatch "a" (.startNewGame ⟨"Ann", none⟩))],
      m.2.Checked := by
    intro m hm
    rw [List.mem_singleton.mp hm]
    exact ⟨.obj [("type", .str "START_NEW_GAME"),
      ("payload", .obj [("player_name", .str "Ann")])], rfl⟩
  obtain ⟨i, e, n, script, turn, leave, yard, street, hi, he, hnode, hscript,
      ⟨hturn, hturnId, hfound, hok, hback, hyard, hyardId, hquiet⟩,
      hleave, hleaveId, hfound', hok', haway, hother, hwalk⟩ :
      ∃ i e n script, ∃ turn leave : Choice, ∃ yard : DialogNode, ∃ street : Spot,
        Index.ofPack doorPack = .ok i ∧
        ((start i "1" Storage.Disk.empty 0.0 0.0).runAll gateStore
          [("2", .dispatch "a" (.startNewGame ⟨"Ann", none⟩))]).dated "3" = e ∧
        e.stage.view.node = some n ∧ e.stage.view.script = some script ∧
        (turn ∈ n.choices ∧ turn.id = "turn" ∧ n.choice? turn.id = some turn ∧
          (drain maxDepth (turn.effects.map .effect) e).1 = .ok () ∧
          (entered i (turn.effects.map .effect)).getLast? = some (some ⟨n, script⟩) ∧
          script.node? turn.nextId = some yard ∧ yard.id = "yard" ∧ yard.effects = []) ∧
        leave ∈ n.choices ∧ leave.id = "leave" ∧ n.choice? leave.id = some leave ∧
          (drain maxDepth (leave.effects.map .effect) e).1 = .ok () ∧
          (entered i (leave.effects.map .effect)).getLast? = some (some street) ∧
          street.node.id ≠ n.id ∧ street.node.id = "walk" :=
    ⟨_, _, _, _, _, _, _, _, rfl, rfl, rfl, rfl,
      ⟨List.mem_cons_self .., rfl, rfl, rfl, rfl, rfl, rfl, rfl⟩,
      List.mem_cons_of_mem _ (List.mem_cons_self ..), rfl, rfl, rfl, rfl, by decide, rfl⟩
  have hdecided := fun {c : Choice} (hc : c ∈ n.choices) =>
    decided_of_choice (v := doorPack.toJson) rfl hi gateStore "1" Storage.Disk.empty 0.0 0.0
      hchecked "3" "" he hnode hc
  refine ⟨i, e, hi, he, ?_, ?_⟩
  · obtain ⟨s, first, hs, hfirst, -, -, hrest⟩ := hdecided hturn
    obtain rfl : script = s := Option.some_inj.mp (hscript.symm.trans hs)
    obtain rfl : turn = first := Option.some_inj.mp (hfound.symm.trans hfirst)
    obtain ⟨-, -, hmade⟩ := hrest _ _ (Prod.ext hok rfl)
    have hstays : ¬LedAway (entered i (turn.effects.map .effect)) ⟨n, script⟩ := by
      rintro ⟨spot, hlast, hne⟩
      exact hne (Option.some_inj.mp (hlast.symm.trans hback))
    have hmoves := (hmade rfl).moves hstays yard hyard
    have hland : ∀ d : Engine Storage.Disk, landOn yard d = (.ok (), d) := fun d => by
      rw [landOn, instructionsOf, hquiet]
      rfl
    refine ⟨_, hturnId ▸ hmoves.trans (hland _), ?_⟩
    rw [← hyardId]
    rfl
  · obtain ⟨s, first, hs, hfirst, -, -, hrest⟩ := hdecided hleave
    obtain rfl : script = s := Option.some_inj.mp (hscript.symm.trans hs)
    obtain rfl : leave = first := Option.some_inj.mp (hfound'.symm.trans hfirst)
    obtain ⟨hplace, -, hmade⟩ := hrest _ _ (Prod.ext hok' rfl)
    have hled : LedAway (entered i (leave.effects.map .effect)) ⟨n, script⟩ := by
      refine ⟨some street, haway, fun hsame => hother ?_⟩
      rw [Option.some_inj.mp hsame]
    refine ⟨_, hleaveId ▸ (hmade rfl).stays hled, ?_⟩
    rw [haway] at hplace
    rw [← hwalk]
    exact congrArg (Option.map (·.id)) (Prod.mk.inj hplace).1

end Engine

end Storyline
