import Storyline.Proofs.Engine.Acting
import Storyline.Proofs.Engine.Purity

/-!
# The events of a game tell its story

An observer who hears every event knows what was collected so far, and in which phase the
story is, without ever looking at the engine: take the save that came with the latest event
of a game that begins or goes on, and follow the events since then by the rules of a save.
This file proves that nothing is missing from the events, nothing told twice, and nothing
told in the wrong order.

* `Story`: the part of a save that events tell;
* `chronicle`: what an observer makes of the events it has heard;
* `effectOf?_event`: the payload of an event determines the effect;
* `Beat.Plain`, `Stage.Told.playAll`: beats that tell whatever they do to the story;
* `Engine.told_take`, `Engine.chronicle_runAll`: one move, and a history.

Loading and starting a game replace the story as a whole.  These are the only commands that
are not plain, and the event that follows them carries the save.
-/

namespace Storyline

open Content Schema

/-! ## Stories -/

/-- What the events of a game tell of its save. -/
structure Story where
  flags : Flags
  inventory : List Item
  memories : List Memory
  achievements : List String
  phase : Phase

/-- The story of a save. -/
def Save.story (s : Save) : Story :=
  ⟨s.flags, s.inventory, s.memories, s.achievements, s.currentPhase⟩

/-- The effect that an event reports, read back from its payload. -/
def effectOf? (r : Report) : Option Effect :=
  match r.1 with
  | .flagChanged => (setting r.2).toOption.map fun p => .setFlag p.1 p.2
  | .itemAdded => (Item.read (.obj r.2)).toOption.map .addItem
  | .itemRemoved => (removal r.2).toOption.map fun p => .removeItem p.1 p.2
  | .memoryAdded => (Memory.read (.obj r.2)).toOption.map .addMemory
  | .achievementUnlocked =>
    (required "achievement_id" string r.2).toOption.map .unlockAchievement
  | .phaseChanged => (required "to" Phase.read r.2).toOption.map .changePhase
  | _ => none

/-- A save follows an effect: a phase is set, and the rest is up to the rules of the save. -/
def Save.follow (s : Save) : Effect → Save
  | .changePhase phase => { s with currentPhase := phase }
  | x => x.change s

/-- The save after an event was heard.  With a game that begins or goes on comes its save. -/
def hear (s : Option Save) (r : Report) : Option Save :=
  match r.1 with
  | .saveCreated | .saveLoaded => (required "save" Save.read r.2).toOption
  | _ => s.map fun save => (effectOf? r).elim save save.follow

/-- What an observer makes of the events it has heard. -/
def chronicle (rs : List Report) : Option Save := rs.foldl hear none

theorem chronicle_concat (rs : List Report) (r : Report) :
    chronicle (rs ++ [r]) = hear (chronicle rs) r := by
  rw [chronicle, List.foldl_append]
  rfl

/-- The rules of a save look at its story only. -/
theorem Save.story_follow {a b : Save} (h : a.story = b.story) (x : Effect) :
    (a.follow x).story = (b.follow x).story := by
  simp only [story, Story.mk.injEq] at h
  obtain ⟨hflags, hinventory, hmemories, hachievements, hphase⟩ := h
  cases x with
  | addMemory memory =>
    simp only [follow, Effect.change, addMemory, hmemories]
    split <;> simp only [story, hflags, hinventory, hmemories, hachievements, hphase]
  | unlockAchievement achievementId =>
    simp only [follow, Effect.change, unlockAchievement, hachievements]
    split <;> simp only [story, hflags, hinventory, hmemories, hachievements, hphase]
  | _ =>
    simp only [follow, Effect.change, setFlag, addItem, removeItem, story, hflags, hinventory,
      hmemories, hachievements, hphase]

/-! ## Events read back -/

/-- The payload of an event on data determines the effect. -/
theorem effectOf?_event {x : Effect} (hx : x.Valid) {r : Report} (h : x.event? = some r) :
    effectOf? r = some x := by
  cases x with
  | setFlag key value =>
    cases h
    have hread : setting (settingMembers key value) = .good (key, value) := by
      simp [setting, settingMembers, required, Json.Members.get?]
    simp only [effectOf?, hread]
    rfl
  | addItem item =>
    cases h
    have hread : Item.read (.obj item.members) = .good item := Item.read_toJson (hx.2 item rfl)
    simp only [effectOf?, hread]
    rfl
  | removeItem itemId quantity =>
    cases h
    have hquantity : integerAtLeast 1 (.int quantity) = .good quantity := integerAtLeast_int hx.1
    have hread : removal (removalMembers itemId quantity) = .good (itemId, quantity) := by
      simp [removal, removalMembers, required, withDefault, Json.Members.get?, hquantity]
    simp only [effectOf?, hread]
    rfl
  | addMemory memory =>
    cases h
    have hread : Memory.read (.obj memory.members) = .good memory := Memory.read_toJson hx.1
    simp only [effectOf?, hread]
    rfl
  | unlockAchievement achievementId =>
    cases h
    rfl
  | _ => cases h

theorem effectOf?_phaseChanged {phase : Phase} (h : phase.Known) (before : Json) :
    effectOf? (.phaseChanged, [("from", before), ("to", phase.toJson)]) =
      some (.changePhase phase) := by
  have hread : required "to" Phase.read [("from", before), ("to", phase.toJson)] = .good phase :=
    required_of_get? rfl (Phase.read_toJson h)
  simp only [effectOf?, hread]
  rfl

/-- The kind of event is not followed. -/
def EventKind.Neutral : EventKind → Prop
  | .sceneChanged | .dialogStarted | .dialogAdvanced | .dialogEnded | .choiceMade | .saveUpdated
  | .error => True
  | _ => False

theorem hear_of_neutral {r : Report} (h : r.1.Neutral) (s : Option Save) : hear s r = s := by
  obtain ⟨kind, payload⟩ := r
  cases kind <;> cases h <;> cases s <;> rfl

theorem hear_of_effect {r : Report} {x : Effect} (h : effectOf? r = some x) (s : Option Save) :
    hear s r = s.map (·.follow x) := by
  obtain ⟨kind, payload⟩ := r
  unfold hear
  split
  · rename_i hkind
    obtain rfl : kind = .saveCreated := hkind
    cases h
  · rename_i hkind
    obtain rfl : kind = .saveLoaded := hkind
    cases h
  · rw [h]
    rfl

theorem hear_of_save {kind : EventKind} (hkind : kind = .saveCreated ∨ kind = .saveLoaded)
    {save : Save} (h : save.Valid) (s : Option Save) :
    hear s (kind, [("save", save.toJson)]) = some save := by
  have hread : required "save" Save.read [("save", save.toJson)] = .good save :=
    required_of_get? rfl (Save.read_toJson h)
  rcases hkind with rfl | rfl <;> simp only [hear, hread] <;> rfl

/-! ## What happens to the story on a stage -/

namespace Stage

/-- The story of the live save. -/
def story (s : Stage) : Option Story := s.view.save.map Save.story

/-- The events tell the story of the live save, if there is one. -/
def Told (s : Stage) (rs : List Report) : Prop :=
  ∀ story, s.story = some story → (chronicle rs).map Save.story = some story

/-- The command leaves the story as it is. -/
def Command.Quiet : Command → Prop
  | .setLoading _ | .changeScene _ | .startDialog _ | .advanceDialog | .makeChoice _ | .endDialog
  | .completeTypewriter | .addPlayTime _ | .toggleMenu | .toggleInventory | .toggleMemories => True
  | _ => False

section Story

variable {s : Stage}

theorem story_changeView {f : View → View} (hf : ∀ v, (f v).save = v.save) :
    (s.changeView f).story = s.story := by
  rw [story, story, view_changeView, hf]

theorem story_changeSave {f : Save → Save} (hf : ∀ a, (f a).story = a.story) :
    (s.changeSave f).story = s.story := by
  simp only [story, view_changeSave, Option.map_map]
  congr 1
  exact funext hf

theorem story_enter {scene : Option Scene} {spot : Option Spot} {f : Save → Save}
    (hf : ∀ a, (f a).story = a.story) : (s.enter scene spot f).story = s.story := by
  have hstands : ∀ a, (f (standAt spot a)).story = a.story := fun a => (hf _).trans rfl
  exact (story_changeView fun _ => rfl).trans (story_changeSave hstands)

theorem story_moveTo (n target : DialogNode) : (s.moveTo n target).story = s.story :=
  (story_changeView fun _ => rfl).trans (story_changeSave fun _ => rfl)

theorem story_perform {c : Command} (hc : c.Quiet) : (s.perform c).2.story = s.story := by
  cases c with
  | setLoading loading => exact story_changeView fun _ => rfl
  | changeScene sceneId =>
    show (s.changeScene sceneId).2.story = s.story
    unfold changeScene
    split
    · rfl
    · exact story_enter fun _ => rfl
  | startDialog scriptId =>
    show (s.startDialog scriptId).2.story = s.story
    unfold startDialog
    split
    · rfl
    · exact (story_changeView fun _ => rfl).trans (story_changeSave fun _ => rfl)
  | advanceDialog =>
    show s.advanceDialog.2.story = s.story
    unfold advanceDialog
    split
    · rfl
    · split
      · exact story_changeView fun _ => rfl
      · split
        · exact story_changeView fun _ => rfl
        · split
          · exact story_moveTo _ _
          · exact (story_changeView fun _ => rfl).trans (story_changeSave fun _ => rfl)
  | makeChoice choiceId =>
    show (s.makeChoice choiceId).2.story = s.story
    unfold makeChoice
    split
    · split
      · exact story_moveTo _ _
      · rfl
    · rfl
  | endDialog => exact (story_changeView fun _ => rfl).trans (story_changeSave fun _ => rfl)
  | completeTypewriter => exact story_changeView fun _ => rfl
  | addPlayTime seconds =>
    show (s.addPlayTime seconds).story = s.story
    unfold addPlayTime
    split
    · rfl
    · exact story_changeSave fun _ => rfl
  | toggleMenu => exact story_changeView fun _ => rfl
  | toggleInventory => exact story_changeView fun _ => rfl
  | toggleMemories => exact story_changeView fun _ => rfl
  | _ => cases hc

end Story

end Stage

/-- The beat tells whatever it does to the story. -/
def Beat.Plain : Beat → Prop
  | .command c => c.Quiet
  | .tell r => r.1.Neutral
  | .effect x => x.Valid

namespace Stage

section Told

variable {s : Stage} {rs : List Report}

theorem Told.of_story {d : Stage} (h : s.Told rs) (hd : d.story = s.story) : d.Told rs := by
  intro story hstory
  exact h story (hd.symm.trans hstory)

theorem Told.neutral (h : s.Told rs) {r : Report} (hr : r.1.Neutral) : s.Told (rs ++ [r]) := by
  intro story hstory
  rw [chronicle_concat, hear_of_neutral hr]
  exact h story hstory

/-- An effect that is told and done to the live save. -/
theorem Told.effect (h : s.Told rs) {d : Stage} {r : Report} {x : Effect}
    (hr : effectOf? r = some x)
    (hd : d.story = s.view.save.map fun save => (save.follow x).story) : d.Told (rs ++ [r]) := by
  intro story hstory
  -- The observer's save need not be the live one; the rules only look at the story of either.
  obtain ⟨live, hlive, rfl⟩ := Option.map_eq_some_iff.mp (hd.symm.trans hstory)
  have hbefore : s.story = some live.story := by rw [Stage.story, hlive]; rfl
  obtain ⟨told, htold, hsame⟩ := Option.map_eq_some_iff.mp (h live.story hbefore)
  rw [chronicle_concat, hear_of_effect hr, htold, Option.map_some, Option.map_some,
    Save.story_follow hsame]

/-- A save that comes with an event tells its whole story, whatever was told before. -/
theorem told_of_save {kind : EventKind} (hkind : kind = .saveCreated ∨ kind = .saveLoaded)
    {save : Save} (hs : s.view.save = some save) (hv : save.Valid) (rs : List Report) :
    s.Told (rs ++ [(kind, [("save", save.toJson)])]) := by
  intro story hstory
  rw [Stage.story, hs] at hstory
  rw [chronicle_concat, hear_of_save hkind hv]
  exact hstory

theorem story_bring_data {x : Effect} {r : Report} (h : x.event? = some r) :
    (s.bring x).story = s.view.save.map fun save => (save.follow x).story := by
  have hchange : ∀ f : Save → Save,
      (s.changeSave f).story = s.view.save.map fun save => (f save).story := by
    intro f
    simp only [story, view_changeSave, Option.map_map]
    rfl
  cases x with
  | setFlag key value => exact hchange _
  | addItem item => exact hchange _
  | removeItem itemId quantity => exact hchange _
  | addMemory memory => exact hchange _
  | unlockAchievement achievementId => exact hchange _
  | _ => cases h

theorem story_changePhase (phase : Phase) :
    (s.changePhase phase).2.story =
      s.view.save.map fun save => (save.follow (.changePhase phase)).story := by
  simp only [story, changePhase, view_enter, Option.map_map]
  rfl

theorem Told.bring (h : s.Told rs) {x : Effect} (hx : x.Valid) :
    (s.bring x).Told (rs ++ s.reportsOn x) := by
  have hdata : ∀ {r}, x.event? = some r → s.reportsOn x = [r] →
      (s.bring x).Told (rs ++ s.reportsOn x) := by
    intro r hr hreports
    rw [hreports]
    exact h.effect (effectOf?_event hx hr) (story_bring_data hr)
  cases x with
  | setFlag key value => exact hdata rfl rfl
  | addItem item => exact hdata rfl rfl
  | removeItem itemId quantity => exact hdata rfl rfl
  | addMemory memory => exact hdata rfl rfl
  | unlockAchievement achievementId => exact hdata rfl rfl
  | changePhase phase => exact h.effect (effectOf?_phaseChanged hx.1 _) (story_changePhase phase)
  | changeScene sceneId =>
    have hmoved : (s.bring (.changeScene sceneId)).Told rs :=
      h.of_story (story_perform (c := .changeScene sceneId) trivial)
    dsimp only [reportsOn]
    split
    · exact hmoved.neutral trivial
    · rwa [List.append_nil]
  | playSound sound =>
    show s.Told (rs ++ [])
    rwa [List.append_nil]
  | shakeScreen intensity duration =>
    show s.Told (rs ++ [])
    rwa [List.append_nil]

/-- A plain beat keeps the story told. -/
theorem Told.play (h : s.Told rs) {b : Beat} (hb : b.Plain) :
    (s.play b).Told (rs ++ s.reportsOf b) := by
  cases b with
  | command c =>
    rw [reportsOf, List.append_nil]
    exact h.of_story (story_perform hb)
  | tell r => exact h.neutral hb
  | effect x => exact h.bring hb

theorem Told.playAll (h : s.Told rs) {t : List Beat} (ht : ∀ b ∈ t, b.Plain) :
    (s.playAll t).Told (rs ++ s.reports t) := by
  induction t generalizing s rs with
  | nil => rwa [reports_nil, List.append_nil]
  | cons b t ih =>
    obtain ⟨hb, ht⟩ := List.forall_mem_cons.mp ht
    rw [playAll_cons, reports_cons, ← List.append_assoc]
    exact ih (h.play hb) ht

end Told

end Stage

/-! ## Courses are plain -/

theorem valid_of_mem_map {es : List Effect} (hes : ∀ x ∈ es, x.Valid) (x : Effect)
    (hx : .effect x ∈ es.map Instruction.effect) : x.Valid := by
  obtain ⟨y, hy, heq⟩ := List.mem_map.mp hx
  rw [← Instruction.effect.inj heq]
  exact hes y hy

theorem valid_of_landing? {i : Index} (hi : i.Coherent) (hv : i.Valid) {x : Effect} {p : Spot}
    (h : i.landing? x = some p) : p.node.Valid := by
  cases x with
  | changeScene sceneId =>
    obtain ⟨c, -, hp⟩ := Option.bind_eq_some_iff.mp h
    exact hv p (hi.hasSpot_of_sceneSpot? hp)
  | changePhase phase => exact hv p (hi.hasSpot_of_phaseSpot? h)
  | _ => cases h

/-- A command lands on a valid node. -/
theorem valid_of_landed {i : Index} (hi : i.Coherent) (hv : i.Valid) {s : Stage} (hs : s.Sound i)
    {c : Stage.Command} (hc : c.Valid) {l : Landing} (h : s.landed? (.command c) = some l) :
    l.node.Valid :=
  (Stage.sound_perform hi hs hc).valid_node hv (Stage.node_of_landed h)

theorem Landing.Reported.neutral {l : Landing} (h : l.Reported) : l.report.1.Neutral := by
  cases h <;> trivial

namespace Engine

/-- All beats of the course are plain. -/
def Course.Plain (c : Course) : Prop := ∀ b ∈ c.beats, b.Plain

theorem Course.Plain.andThen {c d : Course} (hc : c.Plain) (hd : d.Plain) :
    (c.andThen d).Plain :=
  Course.forall_beats_andThen hc hd

variable {σ : Type} {i : Index}

section Courses

variable (hi : i.Coherent) (hv : i.Valid)

include hi hv

theorem plain_courseOf {inner : DialogNode → Course} (hinner : ∀ n, n.Valid → (inner n).Plain)
    {x : Effect} (hx : x.Valid) : (courseOf i inner (.effect x)).Plain := by
  cases h : i.landing? x with
  | none =>
    rw [courseOf_of_none h]
    exact List.forall_mem_singleton.mpr hx
  | some p =>
    rw [courseOf_of_some h]
    refine Course.Plain.andThen ?_ (hinner p.node (valid_of_landing? hi hv h))
    exact List.forall_mem_cons.mpr ⟨hx, List.forall_mem_singleton.mpr trivial⟩

/-- The course of valid effects is plain, however it ends. -/
theorem plain_course (depth : Nat) {is : List Instruction}
    (his : ∀ x, .effect x ∈ is → x.Valid) : (course i depth is).Plain := by
  induction depth generalizing is with
  | zero => exact List.forall_mem_singleton.mpr trivial
  | succ depth ihdepth =>
    induction is with
    | nil => exact List.forall_mem_nil _
    | cons instruction is ih =>
      rw [course_cons]
      refine Course.Plain.andThen ?_ (ih fun x hx => his x (List.mem_cons_of_mem _ hx))
      cases instruction with
      | unknown kind => exact List.forall_mem_nil _
      | effect x =>
        exact plain_courseOf hi hv (fun n hn => ihdepth (valid_of_mem_map hn.effects))
          (his x (List.mem_cons_self ..))

theorem plain_instructions {es : List Effect} (hes : ∀ x ∈ es, x.Valid) :
    (course i maxDepth (es.map .effect)).Plain :=
  plain_course hi hv maxDepth (valid_of_mem_map hes)

theorem plain_landingCourse? {landed : Option Landing}
    (hl : ∀ l ∈ landed, l.node.Valid ∧ l.Reported) : (landingCourse? i landed).Plain := by
  cases landed with
  | none => exact List.forall_mem_nil _
  | some l =>
    obtain ⟨hnode, hreported⟩ := hl l rfl
    refine Course.Plain.andThen ?_ (plain_instructions hi hv hnode.effects)
    exact List.forall_mem_singleton.mpr hreported.neutral

variable {s : Stage} (hs : s.Sound i)

include hs

theorem plain_landing {c : Stage.Command} (hc : c.Valid) :
    (landingCourse? s.content (s.landed? (.command c))).Plain := by
  rw [hs.content]
  exact plain_landingCourse? hi hv fun l hl =>
    ⟨valid_of_landed hi hv hs hc hl, Stage.reported_of_landed hl⟩

theorem plain_commandCourse {c : Stage.Command} (hc : c.Valid) (hquiet : c.Quiet) :
    (commandCourse s c).Plain :=
  Course.Plain.andThen (List.forall_mem_singleton.mpr hquiet) (plain_landing hi hv hs hc)

theorem plain_advanceCourse : (advanceCourse s).Plain :=
  forall_beats_advanceCourse trivial (plain_commandCourse hi hv hs trivial trivial)
    fun _ => trivial

theorem plain_followCourse (current : DialogNode) (choiceId : String) :
    (followCourse s current choiceId).Plain :=
  forall_beats_followCourse trivial (plain_commandCourse hi hv hs trivial trivial) trivial

end Courses

/-- The effects of a choice keep the stage sound, so what is left of it is plain as well. -/
theorem plain_choiceCourse (hi : i.Coherent) (hv : i.Valid) {e : Engine σ}
    (hs : e.stage.Sound i) (choiceId : String) : (choiceCourse e.stage choiceId).Plain := by
  unfold choiceCourse
  cases hn : e.stage.view.node with
  | none => exact List.forall_mem_nil _
  | some current =>
    dsimp only
    cases hchoice : current.choice? choiceId with
    | none => exact List.forall_mem_nil _
    | some choice =>
      have heffects : ∀ x ∈ choice.effects, x.Valid :=
        (hs.valid_node hv hn).choices choice (List.mem_of_find?_eq_some hchoice)
      have hsound := (leads_drain hi hv maxDepth (valid_of_mem_map heffects) e hs).1
      rw [drain_apply] at hsound
      rw [hs.content] at hsound ⊢
      exact Course.Plain.andThen (plain_instructions hi hv heffects)
        (plain_followCourse hi hv hsound current choiceId)

/-! ## An engine that is watched -/

/-- A listener misses nothing, and has been told the story of the live save. -/
structure Watched (l : String) (e : Engine σ) : Prop where
  attends : e.bus.Attends l
  told : e.stage.Told (e.bus.heard l)

section Watched

variable {l : String} {e : Engine σ} {m : Run σ Unit} {c : Course}

theorem Plays.watched_of_told (h : Plays m e c) (hw : Watched l e)
    (ht : (e.stage.playAll c.beats).Told (e.bus.heard l ++ e.stage.reports c.beats)) :
    Watched l (m e).2 := by
  constructor
  · rw [h.bus]
    exact hw.attends.announceAll _
  · rw [h.bus, h.stage, hw.attends.heard_announceAll]
    exact ht

/-- A plain course keeps the listener up to date. -/
theorem Plays.watched (h : Plays m e c) (hw : Watched l e) (hc : c.Plain) :
    Watched l (m e).2 :=
  h.watched_of_told hw (hw.told.playAll hc)

/-- So does a course that is plain after an event with the live save. -/
theorem Plays.watched_of_opening {kind : EventKind} {save : Save} {t u : List Beat}
    (h : Plays m e c) (hw : Watched l e)
    (hkind : kind = .saveCreated ∨ kind = .saveLoaded)
    (hc : c.beats = t ++ .tell (kind, [("save", save.toJson)]) :: u)
    (hsilent : e.stage.reports t = []) (hlive : (e.stage.playAll t).view.save = some save)
    (hvalid : save.Valid) (hu : ∀ b ∈ u, b.Plain) : Watched l (m e).2 := by
  -- What was told before does not matter: the event brings the whole save.
  refine h.watched_of_told hw ?_
  have hopened := Stage.told_of_save hkind hlive hvalid (e.bus.heard l)
  have hrest := hopened.playAll hu
  rw [hc, Stage.playAll_append, Stage.reports_append, hsilent, List.nil_append]
  rwa [List.append_assoc] at hrest

theorem watched_newGame (hi : i.Coherent) (hv : i.Valid) (hs : e.stage.Sound i)
    {game : NewGame} {saveId : String} {save : Save}
    (hsave : (e.stage.startNewGame game saveId).view.save = some save)
    (h : Plays m e (newGameCourse e.stage game saveId save)) (hw : Watched l e) :
    Watched l (m e).2 := by
  have hsound : (e.stage.startNewGame game saveId).Sound i :=
    Stage.sound_perform hi hs (c := .startNewGame game saveId) trivial
  exact h.watched_of_opening hw (.inl rfl) (t := [.command (.startNewGame game saveId)]) rfl rfl
    hsave (hsound.live save hsave)
    (plain_landing hi hv hs (c := .startNewGame game saveId) trivial)

theorem watched_load (hi : i.Coherent) (hs : e.stage.Sound i) {save live : Save}
    (hvalid : save.Valid)
    (hlive : ((e.stage.setLoading true).loadSave save).view.save = some live)
    (h : Plays m e (.ofBeats (loadBeats save live))) (hw : Watched l e) : Watched l (m e).2 := by
  have hloading : (e.stage.setLoading true).Sound i :=
    Stage.sound_perform hi hs (c := .setLoading true) trivial
  have hsound : ((e.stage.setLoading true).loadSave save).Sound i :=
    Stage.sound_perform hi hloading (c := .loadSave save) hvalid
  exact h.watched_of_opening hw (.inr rfl)
    (t := [.command (.setLoading true), .command (.loadSave save)]) rfl rfl hlive
    (hsound.live live hlive) (List.forall_mem_nil _)

theorem watched_saveGame (store : Storage.Store σ) (hwell : ¬ FailsToStore (saveGame store) e)
    (hw : Watched l e) : Watched l (saveGame store e).2 := by
  obtain ⟨cs, rs, hcs, hrs, hplays⟩ := (saveGame_outcome store e).resolve_left hwell
  refine hplays.watched hw (List.forall_mem_append.mpr ⟨?_, ?_⟩)
  · rcases hcs with rfl | ⟨seconds, rfl⟩
    · exact List.forall_mem_nil _
    · exact List.forall_mem_singleton.mpr trivial
  · intro b hb
    obtain ⟨r, hr, rfl⟩ := List.mem_map.mp hb
    show r.1.Neutral
    rw [hrs r hr]
    trivial

/-- The effect that a checked action stands for is valid. -/
theorem valid_of_effect? {a : Action} {x : Effect} (h : a.effect? = some x) (ha : a.Valid) :
    x.Valid := by
  cases a <;> cases h
  case addItem item => exact ⟨trivial, fun j hj => by cases hj; exact ha⟩
  all_goals exact ⟨ha, nofun⟩

/-- An action that was checked keeps the listener up to date, however it ends, unless the
storage fails. -/
theorem watched_dispatch (hi : i.Coherent) (hv : i.Valid) (hs : e.stage.Sound i)
    (store : Storage.Store σ) (freshId : String) {a : Action} (ha : a.Valid)
    (hwell : ¬ FailsToStore (dispatch store freshId a) e) (hw : Watched l e) :
    Watched l (dispatch store freshId a e).2 := by
  have heffect : ∀ x, a.effect? = some x → Watched l (dispatch store freshId a e).2 := by
    intro x hx
    refine (takes_dispatch_of_effect store freshId hx e).plays.watched hw ?_
    rw [hs.content]
    exact plain_courseOf hi hv (fun n hn => plain_instructions hi hv hn.effects)
      (valid_of_effect? hx ha)
  have hcommand : ∀ c : Stage.Command,
      Takes (dispatch store freshId a) e (.ofBeats [.command c]) → c.Quiet →
        Watched l (dispatch store freshId a e).2 := by
    intro c htakes hquiet
    exact htakes.plays.watched hw (List.forall_mem_singleton.mpr hquiet)
  cases a with
  | startNewGame game =>
    obtain ⟨save, hsave, hplays⟩ := (startNewGame_outcome store e game freshId).resolve_left hwell
    exact watched_newGame hi hv hs hsave hplays hw
  | loadSave saveId =>
    rcases (loadSave_outcome store e saveId).resolve_left hwell with
      hplays | ⟨save, live, hvalid, hlive, hplays⟩
    · refine hplays.watched hw ?_
      simp [Course.Plain, Course.ofBeats, missingBeats, Beat.Plain, Stage.Command.Quiet,
        EventKind.Neutral]
    · exact watched_load hi hs hvalid hlive hplays hw
  | saveGame => exact watched_saveGame store hwell hw
  | startDialog scriptId =>
    exact (takes_startDialog e scriptId).plays.watched hw
      (plain_commandCourse hi hv hs trivial trivial)
  | advanceDialog =>
    exact (takes_advanceDialog e).plays.watched hw (plain_advanceCourse hi hv hs)
  | makeChoice choiceId =>
    exact (takes_makeChoice e choiceId).plays.watched hw (plain_choiceCourse hi hv hs choiceId)
  | completeTypewriter => exact hcommand .completeTypewriter rfl trivial
  | toggleMenu => exact hcommand .toggleMenu rfl trivial
  | toggleInventory => exact hcommand .toggleInventory rfl trivial
  | toggleMemories => exact hcommand .toggleMemories rfl trivial
  | _ => exact heffect _ rfl

/-- So does carrying out effects that were checked. -/
theorem watched_execute (hi : i.Coherent) (hv : i.Valid) (hs : e.stage.Sound i)
    {is : List Instruction} (his : ∀ x, .effect x ∈ is → x.Valid) (hw : Watched l e) :
    Watched l (execute is e).2 := by
  have htakes : Takes (execute is) e (course i maxDepth is) :=
    takes_drain maxDepth is hs.content
  exact htakes.plays.watched hw (plain_course hi hv maxDepth his)

/-! ## Moves and histories -/

/-- How a move ends. -/
def outcome (store : Storage.Store σ) (e : Engine σ) : Move → Except Fault Unit
  | .dispatch freshId a => (Engine.dispatch store freshId a e).1
  | .refuse kind => (Engine.refuse kind e).1
  | .execute is => (Engine.execute is e).1
  | .autosave => if e.autosaves then (Engine.saveGame store e).1 else .ok ()
  | .tick _ => .ok ()
  | .destroy => .ok ()

/-- No move of a history ends with a failure of storage. -/
def Stores (store : Storage.Store σ) (e : Engine σ) : List (String × Move) → Prop
  | [] => True
  | m :: history =>
    (∀ f, outcome store (e.dated m.1) m.2 ≠ .error (.storage f)) ∧
      Stores store ((e.dated m.1).take store m.2) history

theorem watched_autosave (store : Storage.Store σ)
    (hwell : ∀ f, outcome store e .autosave ≠ .error (.storage f)) (hw : Watched l e) :
    Watched l (autosave store e) := by
  unfold outcome at hwell
  cases hruns : e.autosaves with
  | false =>
    rw [autosave_of_stopped hruns]
    exact hw
  | true =>
    rw [hruns, if_pos rfl] at hwell
    have hsaved := watched_saveGame store (fun ⟨f, hf⟩ => hwell f hf) hw
    obtain ⟨runs, hautosave⟩ := exists_autosave store hruns
    rw [hautosave]
    exact ⟨hsaved.attends, hsaved.told⟩

/-- A move that was checked keeps the listener up to date, unless it dismisses everyone or the
storage fails. -/
theorem watched_take (hi : i.Coherent) (hv : i.Valid) (hs : e.stage.Sound i)
    (store : Storage.Store σ) {m : Move} (hm : m.Checked) (hstays : m ≠ .destroy)
    (hwell : ∀ f, outcome store e m ≠ .error (.storage f)) (hw : Watched l e) :
    Watched l (e.take store m) := by
  cases m with
  | dispatch freshId a =>
    obtain ⟨v, hread⟩ := hm
    exact watched_dispatch hi hv hs store freshId (Action.valid_of_read hread)
      (fun ⟨f, hf⟩ => hwell f hf) hw
  | refuse kind => exact hw
  | execute is =>
    refine watched_execute hi hv hs (fun x hx => ?_) hw
    obtain ⟨v, hread⟩ := hm x hx
    exact Effect.valid_of_read hread
  | autosave => exact watched_autosave store hwell hw
  | tick seconds => exact ⟨hw.attends, hw.told⟩
  | destroy => exact absurd rfl hstays

/-- A history of such moves keeps the listener up to date.  The induction carries the
soundness of the stage along, which makes the payloads readable. -/
theorem watched_runAll (hi : i.Coherent) (hv : i.Valid) (hs : e.stage.Sound i)
    {store : Storage.Store σ} {history : List (String × Move)}
    (hh : ∀ m ∈ history, m.2.Checked ∧ m.2 ≠ .destroy) (hstores : Stores store e history)
    (hw : Watched l e) : Watched l (e.runAll store history) := by
  induction history generalizing e with
  | nil => exact hw
  | cons m history ih =>
    obtain ⟨⟨hm, hstays⟩, hh⟩ := List.forall_mem_cons.mp hh
    have hdated : (e.dated m.1).stage.Sound i := sound_dated hs m.1
    have hwatched : Watched l (e.dated m.1) := ⟨hw.attends, hw.told⟩
    exact ih (sound_take hi hv hdated hm) hh hstores.2
      (watched_take hi hv hdated store hm hstays hstores.1 hwatched)

end Watched

/-- Whatever moves an engine makes over whatever content and storage: as long as no storage
operation fails, a listener that attends from the start can tell the flags, the inventory, the
memories, the achievements and the phase of the live save from the events alone. -/
theorem chronicle_runAll {v : Json} {p : Pack} {i : Index} (hv : Pack.read v = .good p)
    (hp : Index.ofPack p = .ok i) (store : Storage.Store σ) (now : String) (storage : σ)
    (clock interval : Float) {b : Bus} {l : String} (hl : b.Attends l)
    {history : List (String × Move)} (hh : ∀ m ∈ history, m.2.Checked ∧ m.2 ≠ .destroy)
    (hstores : Stores store { start i now storage clock interval with bus := b } history)
    {s : Save}
    (hs : ({ start i now storage clock interval with bus := b }.runAll store
      history).stage.view.save = some s) :
    ∃ told, chronicle (({ start i now storage clock interval with bus := b }.runAll store
        history).bus.heard l) = some told ∧ told.story = s.story := by
  have hi : i.Coherent := Index.coherent_of_ofPack hp
  have hiv : i.Valid := Index.valid_of_ofPack hv hp
  have hbegin : Watched l { start i now storage clock interval with bus := b } :=
    ⟨hl, fun story hstory => nomatch hstory⟩
  have hend := watched_runAll hi hiv (Stage.sound_ofContent i now) hh hstores hbegin
  have hstory := hend.told s.story (by rw [Stage.story, hs]; rfl)
  exact Option.map_eq_some_iff.mp hstory

theorem Stores.cons {store : Storage.Store σ} {e : Engine σ} {m : String × Move}
    {history : List (String × Move)} (h : outcome store (e.dated m.1) m.2 = .ok ())
    (hrest : Stores store ((e.dated m.1).take store m.2) history) :
    Stores store e (m :: history) := by
  refine ⟨fun f hf => ?_, hrest⟩
  rw [h] at hf
  cases hf

/-- A diary is kept of events of every kind. -/
def diaryBus : Bus := EventKind.all.foldl (fun b kind => b.on kind.name "diary") Bus.empty

/-- At the gate a game begins, a flag is set, and effects move the story on. -/
def diaryHistory : List (String × Move) :=
  [("2", .dispatch "a" (.startNewGame ⟨"Ann", none⟩)),
    ("3", .dispatch "" (.setFlag "height" (.float 0.5))),
    ("4", .execute [.effect (.unlockAchievement "guest"), .effect (.changePhase ⟨"booking"⟩)]),
    ("5", .autosave)]

/-- The diary of a game at the gate tells its flag, its achievement and its phase. -/
theorem chronicle_gate :
    ∃ i s told, Index.ofPack Stage.gatePack = .ok i ∧
      let e := { start i "1" Storage.Disk.empty 0.0 0.0 with bus := diaryBus }.runAll gateStore
        diaryHistory
      e.stage.view.save = some s ∧ chronicle (e.bus.heard "diary") = some told ∧
        told.story = s.story ∧ s.flags.get? "height" = some (.float 0.5) ∧
        s.achievements = ["guest"] ∧ s.currentPhase = ⟨"booking"⟩ := by
  have hchecked : ∀ m ∈ diaryHistory, m.2.Checked ∧ m.2 ≠ .destroy := by
    simp only [diaryHistory, List.forall_mem_cons]
    refine ⟨⟨⟨.obj [("type", .str "START_NEW_GAME"),
        ("payload", .obj [("player_name", .str "Ann")])], rfl⟩, nofun⟩,
      ⟨⟨.obj [("type", .str "SET_FLAG"),
        ("payload", .obj [("key", .str "height"), ("value", .float 0.5)])], rfl⟩, nofun⟩,
      ⟨?_, nofun⟩, ⟨trivial, nofun⟩, List.forall_mem_nil _⟩
    intro x hx
    rcases List.mem_cons.mp hx with hx | hx
    · cases hx
      exact ⟨_, Effect.read_toJson ⟨trivial, nofun⟩⟩
    · cases List.mem_singleton.mp hx
      exact ⟨_, Effect.read_toJson ⟨rfl, nofun⟩⟩
  have hattends : diaryBus.Attends "diary" := by
    intro kind
    cases kind <;> decide
  obtain ⟨told, htold, hsame⟩ := chronicle_runAll (v := Stage.gatePack.toJson)
    (p := Stage.gatePack) rfl rfl gateStore "1" Storage.Disk.empty 0.0 0.0 hattends
    hchecked (.cons rfl (.cons rfl (.cons rfl (.cons rfl trivial)))) rfl
  exact ⟨_, _, told, rfl, rfl, htold, hsame, rfl, rfl, rfl⟩

end Engine

end Storyline
