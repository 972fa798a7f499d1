import Storyline.Proofs.Engine.Acting
import Storyline.Proofs.Engine.Purity

/-!
# Effects run once for each landing

A landing makes things due: it must be told, and the effects of its node must be carried
out in order.  An effect that is carried out may land itself, and what that makes due comes
before everything else that is left.  An action settles what is due before it returns, and
does nothing that is not due.

The one exception is a node that names itself as its next one.  The stage moves the dialog
onto it, but the engine compares the ids before and after, and takes the dialog to stay.

* `Due`, `Landing.dues`: what a landing makes due;
* `Stage.Settles`: beats that settle what is due, and make due only what they settle;
* `Stage.Settles.perm`: everything due is done once, and nothing else;
* `Stage.next_of_circles`: what the exception is;
* `Engine.Clears`: a course that settles what is owed, whatever is left to do after it;
* `Engine.dispatch_settles`: every action settles what it makes due.
-/

namespace Storyline

open Content

/-! ## What is due -/

/-- What is still to be done: an event to be told, or an effect to be carried out. -/
inductive Due where
  | tell (r : Report)
  | effect (x : Effect)

/-- What a landing makes due. -/
def Landing.dues (l : Landing) : List Due := .tell l.report :: l.node.effects.map .effect

/-- Whether an event tells of a landing: a choice may lead nowhere. -/
def tellsLanding (r : Report) : Bool :=
  match r.1, r.2.get? "next_node_id" with
  | .dialogStarted, _ => true
  | .dialogAdvanced, _ => true
  | .choiceMade, some .null => false
  | .choiceMade, _ => true
  | _, _ => false

/-- What a beat does of what may be due. -/
def Beat.due? : Beat → Option Due
  | .command _ => none
  | .tell r => if tellsLanding r then some (.tell r) else none
  | .effect x => some (.effect x)

namespace Stage

/-- What a beat makes due. -/
def duesOf (s : Stage) (b : Beat) : List Due := (s.landed? b).elim [] Landing.dues

/-- The landings of beats one after another. -/
def landings (s : Stage) : List Beat → List Landing
  | [] => []
  | b :: t => (s.landed? b).toList ++ (s.play b).landings t

/-- Beats that settle what is due.  A command is given only when nothing is due; an effect is
carried out only when it is the first thing due, and what its landing makes due comes before
the rest; a landing is told when that is due, and other things may be told at any time. -/
inductive Settles : Stage → List Due → List Beat → Prop where
  | done (s : Stage) : Settles s [] []
  | command {s : Stage} {c : Command} {t : List Beat}
      (rest : Settles (s.play (.command c)) (s.duesOf (.command c)) t) :
      Settles s [] (.command c :: t)
  | effect {s : Stage} {x : Effect} {due : List Due} {t : List Beat}
      (rest : Settles (s.play (.effect x)) (s.duesOf (.effect x) ++ due) t) :
      Settles s (.effect x :: due) (.effect x :: t)
  | tell {s : Stage} {r : Report} {due : List Due} {t : List Beat} (lands : tellsLanding r = true)
      (rest : Settles s due t) : Settles s (.tell r :: due) (.tell r :: t)
  | aside {s : Stage} {r : Report} {due : List Due} {t : List Beat}
      (lands : tellsLanding r = false) (rest : Settles s due t) : Settles s due (.tell r :: t)

theorem duesOf_eq (s : Stage) (b : Beat) :
    s.duesOf b = (s.landed? b).toList.flatMap Landing.dues := by
  unfold duesOf
  cases s.landed? b with
  | none => rfl
  | some l => exact (List.append_nil _).symm

/-- What is due at first and what the landings make due is done, each thing once, and nothing
else. -/
theorem Settles.perm {s : Stage} {due : List Due} {t : List Beat} (h : s.Settles due t) :
    (t.filterMap Beat.due?).Perm (due ++ (s.landings t).flatMap Landing.dues) := by
  induction h with
  | done s => rfl
  | command rest ih =>
    rw [landings, List.flatMap_append, ← duesOf_eq]
    exact ih
  | @effect s x due t rest ih =>
    rw [landings, List.flatMap_append, ← duesOf_eq, List.cons_append]
    refine List.Perm.cons _ (ih.trans ?_)
    rw [← List.append_assoc]
    exact List.perm_append_comm.append_right _
  | tell lands rest ih =>
    rw [List.filterMap_cons_some (b := .tell _) (by rw [Beat.due?, if_pos lands])]
    exact List.Perm.cons _ ih
  | aside lands rest ih =>
    rw [List.filterMap_cons_none (by rw [Beat.due?, lands]; rfl)]
    exact ih

/-- A beat lands with an event that tells of it. -/
theorem tellsLanding_of_landed {s : Stage} {b : Beat} {l : Landing} (h : s.landed? b = some l) :
    tellsLanding l.report = true := by
  cases reported_of_landed h <;> rfl

end Stage

namespace Engine

variable {σ : Type} {i : Index}

/-! ## Courses settle what is owed -/

/-- A course that goes well settles what is owed, whatever is due after that. -/
def Clears (s : Stage) (c : Course) (owed : List Due) : Prop :=
  c.result = .ok () → ∀ due t, (s.playAll c.beats).Settles due t →
    s.Settles (owed ++ due) (c.beats ++ t)

theorem Clears.andThen {s : Stage} {c d : Course} {owed owing : List Due} (hc : Clears s c owed)
    (hd : Clears (s.playAll c.beats) d owing) : Clears s (c.andThen d) (owed ++ owing) := by
  intro hok due t ht
  obtain ⟨hcok, hdok, hboth⟩ := Course.ok_of_andThen hok
  rw [hboth] at ht ⊢
  rw [Stage.playAll_append] at ht
  rw [List.append_assoc, List.append_assoc]
  exact hc hcok _ _ (hd hdok due t ht)

theorem Clears.settles {s : Stage} {c : Course} {owed : List Due} (h : Clears s c owed)
    (hok : c.result = .ok ()) : s.Settles owed c.beats := by
  have hall := h hok [] [] (.done _)
  rwa [List.append_nil, List.append_nil] at hall

theorem clears_nil (s : Stage) : Clears s (.ofBeats []) [] := fun _ _ _ ht => ht

theorem clears_tell (s : Stage) {r : Report} (h : tellsLanding r = true) :
    Clears s (.ofBeats [.tell r]) [.tell r] := fun _ _ _ ht => .tell h ht

/-- An effect is settled once the course of its landing has settled the landing. -/
theorem clears_courseOf {inner : DialogNode → Course}
    (hinner : ∀ n (s : Stage), s.content = i →
      Clears s (inner n) (n.effects.map .effect))
    {s : Stage} (hs : s.content = i) (x : Effect) :
    Clears s (courseOf i inner (.effect x)) [.effect x] := by
  intro hok due t ht
  cases h : i.landing? x with
  | none =>
    have hdues : s.duesOf (.effect x) = [] := by rw [Stage.duesOf, Stage.landed?, hs, h]; rfl
    rw [courseOf_of_none h] at ht ⊢
    refine .effect ?_
    rw [hdues]
    exact ht
  | some p =>
    have hdues : s.duesOf (.effect x) = p.landing.dues := by
      rw [Stage.duesOf, Stage.landed?, hs, h]
      rfl
    rw [courseOf_of_some h] at hok ht ⊢
    -- The landing is told at once, and its effects come before what is due already.
    refine .effect ?_
    rw [hdues]
    refine .tell rfl ?_
    have hcontent : (s.bring x).content = i := (Stage.content_bring s x).trans hs
    exact hinner p.node _ hcontent hok due t ht

/-- A list of effects is settled by its course.  The induction is on the depth that is left
and then on the list, as the course is made. -/
theorem clears_course (depth : Nat) (es : List Effect) {s : Stage} (hs : s.content = i) :
    Clears s (course i depth (es.map .effect)) (es.map .effect) := by
  induction depth generalizing es s with
  | zero => exact nofun
  | succ depth ihdepth =>
    induction es generalizing s with
    | nil => exact clears_nil s
    | cons x es ih =>
      rw [List.map_cons, List.map_cons, course_cons]
      have hfirst : Clears s _ [.effect x] :=
        clears_courseOf (fun n d hd => ihdepth n.effects hd) hs x
      refine hfirst.andThen (ih ?_)
      rw [Stage.content_playAll, hs]

theorem clears_landingCourse? {s : Stage} (hs : s.content = i) {landed : Option Landing}
    (hl : ∀ l ∈ landed, tellsLanding l.report = true) :
    Clears s (landingCourse? i landed) (landed.elim [] Landing.dues) := by
  cases landed with
  | none => exact clears_nil s
  | some l =>
    refine Clears.andThen (clears_tell s (hl l rfl)) (clears_course maxDepth l.node.effects ?_)
    rw [Stage.content_playAll, hs]

/-- A command is settled by its landing. -/
theorem settles_commandCourse {s : Stage} {c : Stage.Command}
    (hok : (commandCourse s c).result = .ok ()) : s.Settles [] (commandCourse s c).beats := by
  refine .command (Clears.settles (clears_landingCourse? ?_ ?_) hok)
  · exact Stage.content_play s (.command c)
  · exact fun l hl => Stage.tellsLanding_of_landed hl

end Engine

/-! ## Actions -/

/-- The effects that an action owes before it moves the dialog itself: those of a choice, or
the one that it stands for. -/
def Stage.owedBy (s : Stage) : Action → List Effect
  | .makeChoice choiceId => ((s.view.node.bind (·.choice? choiceId)).map (·.effects)).getD []
  | a => a.effect?.toList

/-- The commands that an action gives to the stage. -/
def Action.Asks (freshId : String) (cs : List Stage.Command) : Action → Prop
  | .startNewGame game => cs = [.startNewGame game freshId]
  | .loadSave _ =>
    cs = [.setLoading true, .setLoading false] ∨
      ∃ save, cs = [.setLoading true, .loadSave save]
  | .startDialog scriptId => cs = [.startDialog scriptId]
  | .advanceDialog => cs = [.advanceDialog]
  | .makeChoice choiceId => cs = [] ∨ cs = [.makeChoice choiceId]
  | .completeTypewriter => cs = [.completeTypewriter]
  | .saveGame => cs = [] ∨ ∃ seconds, cs = [.addPlayTime seconds]
  | .toggleMenu => cs = [.toggleMenu]
  | .toggleInventory => cs = [.toggleInventory]
  | .toggleMemories => cs = [.toggleMemories]
  | _ => cs = []

/-- The action advances the dialog from a node to itself. -/
def Stage.Circles (s : Stage) (a : Action) : Prop :=
  a = .advanceDialog ∧ ∃ n l, s.view.node = some n ∧ s.advanced? = some l ∧ l.node.id = n.id

/-- Where nodes are found by their ids, such a node names itself as its next one, and the dialog
is moved onto it. -/
theorem Stage.next_of_circles {i : Index} {s : Stage} (hs : s.Sound i) {a : Action}
    (h : s.Circles a) :
    ∃ n, s.view.node = some n ∧ n.next = some n.id ∧ s.advanced?.map (·.node) = some n := by
  obtain ⟨-, n, l, hn, hl, hsame⟩ := h
  obtain ⟨m, target, hm, hnext, rfl⟩ := eq_of_advanced hl
  obtain rfl : m = n := Option.some_inj.mp (hm.symm.trans hn)
  simp only [nextNode?, Option.bind_eq_bind, Option.bind_eq_some_iff] at hnext
  obtain ⟨script, hscript, nextId, hid, hnode⟩ := hnext
  have htarget : target.id = nextId := Script.id_of_node? hnode
  -- The dialog stands at the node that its script has under the id, and so does the target.
  obtain ⟨spot, hat⟩ := hs.placed
  have hfound : script.node? m.id = some m := (hat.placed.indexed m script hn hscript).2
  have hself : target = m := by
    rw [← htarget, hsame, hfound] at hnode
    exact (Option.some_inj.mp hnode).symm
  refine ⟨m, hn, ?_, ?_⟩
  · rw [(Index.nonempty_eq_some hid).1, ← htarget, hsame]
  · rw [hl, hself]
    rfl

namespace Engine

variable {σ : Type}

/-- An action went through beats that settle what it owes: they are all that happened to the
stage and all that was told. -/
structure Settled (freshId : String) (a : Action) (e d : Engine σ) (t : List Beat) : Prop where
  stage : d.stage = e.stage.playAll t
  bus : d.bus = e.bus.announceAll (e.stage.reports t)
  asked : a.Asks freshId (t.filterMap Beat.command?)
  settles : e.stage.Settles ((e.stage.owedBy a).map .effect) t

/-- A course that an action takes. -/
structure Fulfils (freshId : String) (a : Action) (s : Stage) (c : Course) : Prop where
  asked : c.result = .ok () → a.Asks freshId (c.beats.filterMap Beat.command?)
  settles : c.result = .ok () → s.Settles ((s.owedBy a).map .effect) c.beats

theorem fulfils_commandCourse {freshId : String} {a : Action} {s : Stage} {c : Stage.Command}
    (hasked : a.Asks freshId [c]) (howed : s.owedBy a = []) :
    Fulfils freshId a s (commandCourse s c) := by
  refine ⟨fun _ => ?_, fun hok => ?_⟩
  · have hcommands : (commandCourse s c).beats.filterMap Beat.command? = [c] := by
      rw [commandCourse, Course.andThen_ofBeats, List.filterMap_append,
        commands_landingCourse?]
      rfl
    rw [hcommands]
    exact hasked
  · rw [howed]
    exact settles_commandCourse hok

theorem fulfils_effect {freshId : String} {a : Action} {x : Effect} (h : a.effect? = some x)
    (s : Stage) :
    Fulfils freshId a s
      (courseOf s.content (fun n => course s.content maxDepth (instructionsOf n)) (.effect x)) := by
  have hsilent : (courseOf s.content (fun n => course s.content maxDepth (instructionsOf n))
      (.effect x)).beats.filterMap Beat.command? = [] :=
    commands_courseOf (fun n => commands_course maxDepth _) _
  refine ⟨fun _ => ?_, fun hok => ?_⟩
  · rw [hsilent]
    cases a <;> cases h <;> rfl
  · have howed : (s.owedBy a).map Due.effect = [.effect x] := by cases a <;> cases h <;> rfl
    rw [howed]
    exact (clears_courseOf (fun n d hd => clears_course maxDepth n.effects hd) rfl x).settles hok

theorem fulfils_advanceCourse {freshId : String} {s : Stage} (h : ¬ s.Circles .advanceDialog) :
    Fulfils freshId .advanceDialog s (advanceCourse s) := by
  have hstays : s.advanced? = none →
      Fulfils freshId .advanceDialog s (.ofBeats [.command .advanceDialog]) := by
    intro hnone
    refine ⟨fun _ => rfl, fun _ => .command ?_⟩
    rw [Stage.duesOf, Stage.landed?, hnone]
    exact .done _
  unfold advanceCourse
  cases Stage.advance s with
  | idle node moved landed =>
    rw [node, landed]
    exact hstays landed
  | stays n node answer landed =>
    rw [node, landed, answer]
    exact hstays landed
  | moves n target node next answer landed =>
    rw [node, landed]
    dsimp only
    rw [if_neg fun hsame => h ⟨rfl, n, _, node, landed, hsame⟩]
    exact fulfils_commandCourse rfl rfl
  | ends n node answer landed =>
    rw [node, landed, answer]
    refine ⟨fun _ => rfl, fun _ => .command ?_⟩
    rw [Stage.duesOf, Stage.landed?, landed]
    exact .aside rfl (.done _)

theorem settles_followCourse {s : Stage} {current : DialogNode} {choiceId : String}
    (hok : (followCourse s current choiceId).result = .ok ()) :
    s.Settles [] (followCourse s current choiceId).beats := by
  unfold followCourse at hok ⊢
  split at hok
  · rename_i hstays
    rw [if_pos hstays]
    split at hok
    · rename_i hchosen
      rw [if_pos hchosen]
      exact settles_commandCourse hok
    · rename_i hchosen
      rw [if_neg hchosen]
      refine .command ?_
      rw [Stage.duesOf, Stage.landed?, Option.not_isSome_iff_eq_none.mp hchosen]
      exact .aside rfl (.done _)
  · rename_i hstays
    rw [if_neg hstays]
    exact .aside rfl (.done _)

theorem asks_followCourse (freshId : String) (s : Stage) (current : DialogNode)
    (choiceId : String) :
    Action.Asks freshId ((followCourse s current choiceId).beats.filterMap Beat.command?)
      (.makeChoice choiceId) := by
  unfold followCourse
  split
  · split
    · refine .inr ?_
      rw [commandCourse, Course.andThen_ofBeats, List.filterMap_append, commands_landingCourse?]
      rfl
    · exact .inr rfl
  · exact .inl rfl

theorem fulfils_choiceCourse (freshId : String) (s : Stage) (choiceId : String) :
    Fulfils freshId (.makeChoice choiceId) s (choiceCourse s choiceId) := by
  unfold choiceCourse
  cases hn : s.view.node with
  | none =>
    refine ⟨fun _ => .inl rfl, fun _ => ?_⟩
    rw [Stage.owedBy, hn]
    exact .done s
  | some current =>
    dsimp only
    cases hchoice : current.choice? choiceId with
    | none =>
      refine ⟨fun _ => .inl rfl, fun _ => ?_⟩
      rw [Stage.owedBy, hn, Option.bind_some, hchoice]
      exact .done s
    | some choice =>
      have howed : s.owedBy (.makeChoice choiceId) = choice.effects := by
        rw [Stage.owedBy, hn, Option.bind_some, hchoice]
        rfl
      have hclears := clears_course maxDepth choice.effects (s := s) rfl
      have hsilent := commands_course (i := s.content) maxDepth (choice.effects.map .effect)
      dsimp only
      constructor
      · intro hok
        obtain ⟨-, -, hboth⟩ := Course.ok_of_andThen hok
        rw [hboth, List.filterMap_append, hsilent]
        exact asks_followCourse freshId _ current choiceId
      · intro hok
        obtain ⟨heffects, hfollow, hboth⟩ := Course.ok_of_andThen hok
        -- Nothing is due any more when the choice is followed, so the command may be given.
        have hsettles := hclears heffects [] _ (settles_followCourse hfollow)
        rw [howed, hboth]
        rwa [List.append_nil] at hsettles

/-- Commands that land nowhere, and events that tell of no landing, owe nothing. -/
theorem settles_of_silent {s : Stage} {cs : List Stage.Command} {rs : List Report}
    (hcs : ∀ c ∈ cs, ∀ d : Stage, d.landed? (.command c) = none)
    (hrs : ∀ r ∈ rs, tellsLanding r = false) :
    s.Settles [] (cs.map .command ++ rs.map .tell) := by
  induction cs generalizing s with
  | nil =>
    induction rs with
    | nil => exact .done s
    | cons r rs ih =>
      obtain ⟨hr, hrs⟩ := List.forall_mem_cons.mp hrs
      exact .aside hr (ih hrs)
  | cons c cs ih =>
    obtain ⟨hc, hcs⟩ := List.forall_mem_cons.mp hcs
    refine .command ?_
    rw [Stage.duesOf, hc s]
    exact ih hcs

theorem commands_map (cs : List Stage.Command) (rs : List Report) :
    (cs.map Beat.command ++ rs.map Beat.tell).filterMap Beat.command? = cs := by
  rw [List.filterMap_append, List.filterMap_map, List.filterMap_map]
  have hcs : Beat.command? ∘ Beat.command = some := rfl
  have hrs : Beat.command? ∘ Beat.tell = fun _ => none := rfl
  rw [hcs, hrs, List.filterMap_some, List.filterMap_none, List.append_nil]

/-- Such commands and events fulfil an action that asks for them and owes nothing. -/
theorem fulfils_of_silent {freshId : String} {a : Action} {s : Stage}
    (cs : List Stage.Command) (rs : List Report) (hasked : a.Asks freshId cs) (howed : s.owedBy a = [])
    (hcs : ∀ c ∈ cs, ∀ d : Stage, d.landed? (.command c) = none)
    (hrs : ∀ r ∈ rs, tellsLanding r = false) :
    Fulfils freshId a s (.ofBeats (cs.map .command ++ rs.map .tell)) := by
  refine ⟨fun _ => ?_, fun _ => ?_⟩
  · rw [Course.ofBeats, commands_map]
    exact hasked
  · rw [howed]
    exact settles_of_silent hcs hrs

theorem fulfils_newGameCourse (freshId : String) (s : Stage) (game : NewGame) (save : Save) :
    Fulfils freshId (.startNewGame game) s (newGameCourse s game freshId save) := by
  refine ⟨fun _ => ?_, fun hok => ?_⟩
  · rw [newGameCourse, Course.andThen_ofBeats, List.filterMap_append, commands_landingCourse?]
    rfl
  · refine .command (.aside rfl ?_)
    refine Clears.settles (clears_landingCourse? ?_ fun l hl => ?_) hok
    · exact Stage.content_play s (.command (.startNewGame game freshId))
    · exact Stage.tellsLanding_of_landed (s := s) (b := .command (.startNewGame game freshId)) hl

/-- Whatever the engine and the storage, an action that returns without a fault takes a course
that it fulfils, unless it moves the dialog from a node to itself. -/
theorem exists_fulfils (store : Storage.Store σ) (freshId : String) {a : Action} {e d : Engine σ}
    (h : dispatch store freshId a e = (.ok (), d)) (hcircles : ¬ e.stage.Circles a) :
    ∃ c, Plays (dispatch store freshId a) e c ∧ Fulfils freshId a e.stage c := by
  have hwell : ¬ FailsToStore (dispatch store freshId a) e := by
    rintro ⟨f, hf⟩
    rw [h] at hf
    cases hf
  have heffect : ∀ x, a.effect? = some x →
      ∃ c, Plays (dispatch store freshId a) e c ∧ Fulfils freshId a e.stage c := by
    intro x hx
    exact ⟨_, (takes_dispatch_of_effect store freshId hx e).plays, fulfils_effect hx e.stage⟩
  have hcommand : ∀ c, Takes (dispatch store freshId a) e (.ofBeats [.command c]) →
      a.Asks freshId [c] → e.stage.owedBy a = [] →
      (∀ d : Stage, d.landed? (.command c) = none) →
      ∃ c, Plays (dispatch store freshId a) e c ∧ Fulfils freshId a e.stage c := by
    intro c htakes hasked howed hlanded
    exact ⟨_, htakes.plays, fulfils_of_silent [c] [] hasked howed
      (List.forall_mem_singleton.mpr hlanded) (List.forall_mem_nil _)⟩
  cases a with
  | startNewGame game =>
    obtain ⟨save, -, hplays⟩ := (startNewGame_outcome store e game freshId).resolve_left hwell
    exact ⟨_, hplays, fulfils_newGameCourse freshId e.stage game save⟩
  | loadSave saveId =>
    rcases (loadSave_outcome store e saveId).resolve_left hwell with hplays | ⟨save, live, -, -, hplays⟩
    · refine ⟨_, hplays, fulfils_of_silent [.setLoading true, .setLoading false] [_]
        (.inl rfl) rfl ?_ (List.forall_mem_singleton.mpr rfl)⟩
      simp [Stage.landed?]
    · refine ⟨_, hplays, fulfils_of_silent [.setLoading true, .loadSave save] [_]
        (.inr ⟨save, rfl⟩) rfl ?_ (List.forall_mem_singleton.mpr rfl)⟩
      simp [Stage.landed?]
  | saveGame =>
    obtain ⟨cs, rs, hcs, hrs, hplays⟩ := (saveGame_outcome store e).resolve_left hwell
    refine ⟨_, hplays, fulfils_of_silent cs rs hcs rfl ?_ fun r hr => ?_⟩
    · rcases hcs with rfl | ⟨seconds, rfl⟩ <;> simp [Stage.landed?]
    · rw [tellsLanding, hrs r hr]
  | startDialog scriptId =>
    exact ⟨_, (takes_startDialog e scriptId).plays, fulfils_commandCourse rfl rfl⟩
  | advanceDialog =>
    exact ⟨_, (takes_advanceDialog e).plays, fulfils_advanceCourse hcircles⟩
  | makeChoice choiceId =>
    exact ⟨_, (takes_makeChoice e choiceId).plays, fulfils_choiceCourse freshId e.stage choiceId⟩
  | completeTypewriter => exact hcommand .completeTypewriter rfl rfl rfl fun _ => rfl
  | toggleMenu => exact hcommand .toggleMenu rfl rfl rfl fun _ => rfl
  | toggleInventory => exact hcommand .toggleInventory rfl rfl rfl fun _ => rfl
  | toggleMemories => exact hcommand .toggleMemories rfl rfl rfl fun _ => rfl
  | _ => exact heffect _ rfl

/-- Whatever the engine, its content and storage, and whatever the action, if it returns
without a fault: it settles what it owes and what its landings make due, so that every landing
is told once and the effects of its node are carried out once, and no other effects are.  If
it advances the dialog from a node to itself, the stage moves, and nothing else happens. -/
theorem dispatch_settles {store : Storage.Store σ} {freshId : String} {a : Action}
    {e d : Engine σ} (h : dispatch store freshId a e = (.ok (), d)) :
    (¬ e.stage.Circles a → ∃ t, Settled freshId a e d t ∧
      (t.filterMap Beat.due?).Perm
        ((e.stage.owedBy a).map .effect ++ (e.stage.landings t).flatMap Landing.dues)) ∧
    (e.stage.Circles a → d = e.playAll [.command .advanceDialog]) := by
  constructor
  · intro hcircles
    obtain ⟨c, hplays, hfulfils⟩ := exists_fulfils store freshId h hcircles
    have hok : c.result = .ok () := by rw [← hplays.result, h]
    have hsettles := hfulfils.settles hok
    refine ⟨c.beats, ⟨?_, ?_, hfulfils.asked hok, hsettles⟩, hsettles.perm⟩
    · rw [← hplays.stage, h]
    · rw [← hplays.bus, h]
  · rintro ⟨rfl, n, l, hnode, hlanded, hsame⟩
    have htakes : dispatch store freshId .advanceDialog e = _ := takes_advanceDialog e
    have hcourse : advanceCourse e.stage = .ofBeats [.command .advanceDialog] := by
      unfold advanceCourse
      rw [hnode, hlanded]
      exact if_pos hsame
    rw [htakes, hcourse] at h
    exact (Prod.mk.inj h).2.symm

/-- A hotel: whoever enters is taken to the desk, where the bell can be rung again and
again. -/
def hotelPack : Pack where
  scenes := []
  scripts :=
    [{ id := "lobby", phase := .planning, title := "Lobby", startNodeId := "enter",
       nodes :=
        [{ id := "enter", speaker := "", text := "A lobby.", emotion := none, background := none,
           characterSprite := none, choices := [], next := none,
           effects := [.setFlag "inside" (.bool true), .changePhase ⟨"booking"⟩],
           autoAdvance := false, autoAdvanceDelay := none, scriptId := none }] },
     { id := "desk", phase := ⟨"booking"⟩, title := "Desk", startNodeId := "ring",
       nodes :=
        [{ id := "ring", speaker := "", text := "Ding.", emotion := none, background := none,
           characterSprite := none, choices := [], next := some "ring",
           effects := [.unlockAchievement "rang"], autoAdvance := false,
           autoAdvanceDelay := none, scriptId := none }] }]

/-- A game that begins in the hotel settles both landings; once the text at the bell is read,
ringing it again moves the stage alone. -/
theorem settles_hotel :
    ∃ i d e, Index.ofPack hotelPack = .ok i ∧
      dispatch gateStore "a" (.startNewGame ⟨"Ann", none⟩)
        (start i "1" Storage.Disk.empty 0.0 0.0) = (.ok (), d) ∧
      d.stage.view.save.map (·.achievements) = some ["rang"] ∧
      (∃ t, Settled "a" (.startNewGame ⟨"Ann", none⟩)
        (start i "1" Storage.Disk.empty 0.0 0.0) d t) ∧
      dispatch gateStore "" .advanceDialog d = (.ok (), e) ∧
      e.stage.Circles .advanceDialog ∧
      dispatch gateStore "" .advanceDialog e = (.ok (), e.playAll [.command .advanceDialog]) := by
  obtain ⟨i, d, e, c, hi, hd, hrang, he, hcircles, hc⟩ : ∃ i d e c,
      Index.ofPack hotelPack = .ok i ∧
      dispatch gateStore "a" (.startNewGame ⟨"Ann", none⟩)
        (start i "1" Storage.Disk.empty 0.0 0.0) = (.ok (), d) ∧
      d.stage.view.save.map (·.achievements) = some ["rang"] ∧
      dispatch gateStore "" .advanceDialog d = (.ok (), e) ∧
      e.stage.Circles .advanceDialog ∧
      dispatch gateStore "" .advanceDialog e = (.ok (), c) :=
    ⟨_, _, _, _, rfl, rfl, rfl, rfl, ⟨rfl, _, _, rfl, rfl, rfl⟩, rfl⟩
  obtain ⟨t, ht, -⟩ := (dispatch_settles hd).1 fun hcircles => nomatch hcircles.1
  exact ⟨i, d, e, hi, hd, hrang, ⟨t, ht⟩, he, hcircles,
    hc.trans (by rw [(dispatch_settles hc).2 hcircles])⟩

end Engine

end Storyline
