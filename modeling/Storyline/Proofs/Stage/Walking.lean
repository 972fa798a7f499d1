import Storyline.Proofs.Stage.Position

/-!
# Walks through a script

While a dialog runs it goes only where its author drew a line: from a node without choices to
the one that it names as next, once its text is revealed, and from a node with choices along
the choice that was made.  It ends where no line goes on.  Whatever else is asked in between
leaves it where it stands.

The record of read nodes follows the walk: every node that was left stands in it once, in the
order in which they were first left.

* `Stage.Leads`, `Stage.Ends`: the lines of a script, and where they stop;
* `Stage.Walks`: a walk, with the nodes that were left;
* `Stage.turn_perform`: one command is one step of a walk;
* `Stage.firstsBeyond`: what a walk adds to the record;
* `Stage.walks_performAll`: every sequence of commands is a walk.
-/

namespace Storyline

open Content

namespace View

/-- The dialog runs in a script, at one of its nodes. -/
structure Runs (v : View) (r : Script) (n : DialogNode) : Prop where
  node : v.node = some n
  script : v.script = some r
  mem : n ∈ r.nodes

/-- The ids of the nodes that were read, if there is a live save. -/
def readIds (v : View) : Option (List String) := v.save.map (·.readDialogIds)

/-- The second view is at the node and in the script of the first one, and no more is read. -/
structure Stays (v w : View) : Prop where
  node : w.node = v.node
  script : w.script = v.script
  readIds : w.readIds = v.readIds

theorem Stays.runs {v w : View} {r : Script} {n : DialogNode} (h : v.Stays w) (hv : v.Runs r n) :
    w.Runs r n :=
  ⟨h.node.trans hv.node, h.script.trans hv.script, hv.mem⟩

end View

namespace Stage

variable {r : Script} {revealed : Bool} {n m : DialogNode} {s : Stage}

/-! ## Lines of a script -/

/-- What may be asked in a walk: to go on, to reveal the text, to change the data of the save,
and to switch parts of the screen. -/
def Command.InWalk : Command → Prop
  | .advanceDialog | .makeChoice _ | .completeTypewriter | .addItem _ | .removeItem _ _
  | .addMemory _ | .unlockAchievement _ | .setFlag _ _ | .addPlayTime _ | .setLoading _
  | .toggleMenu | .toggleInventory | .toggleMemories => True
  | .startNewGame _ _ | .loadSave _ | .changePhase _ | .changeScene _ | .startDialog _
  | .endDialog => False

/-- A command leads from a node to a node of the script.  To advance leads from a node without
choices whose text is revealed to its next node; a choice leads to the node that the first
choice of its id names.  The empty id names no node. -/
inductive Leads (r : Script) (revealed : Bool) (n : DialogNode) : Command → DialogNode → Prop
  | next {m : DialogNode} (hrevealed : revealed = true) (hchoices : n.choices = [])
    (hmem : m ∈ r.nodes) (hid : n.next = some m.id) (hne : m.id ≠ "") :
    Leads r revealed n .advanceDialog m
  | choice {choiceId : String} {d : Choice} {m : DialogNode} (hchoice : n.choice? choiceId = some d)
    (hmem : m ∈ r.nodes) (hid : d.nextId = m.id) (hne : m.id ≠ "") :
    Leads r revealed n (.makeChoice choiceId) m

/-- A command ends the dialog at a node: to advance does, where the text is revealed and there
are no choices, and the node names no next one or one that is not in the script.  To name the
empty id is to name none, as in every look-up of a node. -/
structure Ends (r : Script) (revealed : Bool) (n : DialogNode) (c : Command) : Prop where
  advance : c = .advanceDialog
  revealed : revealed = true
  choices : n.choices = []
  next : ∀ nextId, n.next = some nextId → nextId = "" ∨ ∀ m ∈ r.nodes, m.id ≠ nextId

/-- The stage after a command at a moment. -/
def after (s : Stage) (c : String × Command) : Stage :=
  (({ s with now := c.1 } : Stage).perform c.2).2

/-- A walk through a script, command by command, with the nodes that were left on it. -/
inductive Walks (r : Script) : Stage → List (String × Command) → List DialogNode → Prop
  | done {s : Stage} : Walks r s [] []
  | stay {s : Stage} {c : String × Command} {cs : List (String × Command)} {n : DialogNode}
    {left : List DialogNode} (before : s.view.Runs r n) (after : (s.after c).view.Runs r n)
    (hleads : ∀ m, ¬ Leads r s.view.typewriterComplete n c.2 m)
    (hends : ¬ Ends r s.view.typewriterComplete n c.2) (rest : Walks r (s.after c) cs left) :
    Walks r s (c :: cs) left
  | leave {s : Stage} {c : String × Command} {cs : List (String × Command)} {n m : DialogNode}
    {left : List DialogNode} (before : s.view.Runs r n) (after : (s.after c).view.Runs r m)
    (hleads : Leads r s.view.typewriterComplete n c.2 m) (rest : Walks r (s.after c) cs left) :
    Walks r s (c :: cs) (n :: left)
  | finish {s : Stage} {c : String × Command} {cs : List (String × Command)} {n : DialogNode}
    {left : List DialogNode} (before : s.view.Runs r n) (after : (s.after c).view.node = none)
    (hends : Ends r s.view.typewriterComplete n c.2) (rest : Walks r (s.after c) cs left) :
    Walks r s (c :: cs) left
  | over {s : Stage} {c : String × Command} {cs : List (String × Command)}
    {left : List DialogNode} (before : s.view.node = none) (after : (s.after c).view.node = none)
    (rest : Walks r (s.after c) cs left) : Walks r s (c :: cs) left

/-! ## Look-ups along the lines -/

theorem mem_of_node? {nodeId : String} (h : r.node? nodeId = some m) :
    m ∈ r.nodes ∧ nodeId = m.id ∧ m.id ≠ "" := by
  have hid := Script.id_of_node? h
  refine ⟨Script.mem_of_node? h, hid.symm, fun hempty => ?_⟩
  rw [← hid, hempty, Script.node?_empty] at h
  cases h

theorem ne_of_node?_eq_none {nodeId : String} (h : r.node? nodeId = none) :
    nodeId = "" ∨ ∀ m ∈ r.nodes, m.id ≠ nodeId := by
  unfold Script.node? at h
  split at h
  · exact .inl ‹_›
  · exact .inr fun m hm => by simpa using List.find?_eq_none.mp h m hm

/-- A next node that is found lies on a line. -/
theorem leads_of_nextNode? (hrevealed : revealed = true) (hchoices : n.choices = [])
    (h : nextNode? (some r) n = some m) : Leads r revealed n .advanceDialog m := by
  obtain ⟨nextId, hnext, hm⟩ := Option.bind_eq_some_iff.mp h
  obtain ⟨hmem, rfl, hne⟩ := mem_of_node? hm
  exact .next hrevealed hchoices hmem (Index.nonempty_eq_some hnext).1 hne

/-- Where no next node is found, the lines stop. -/
theorem ends_of_nextNode? (hrevealed : revealed = true) (hchoices : n.choices = [])
    (h : nextNode? (some r) n = none) : Ends r revealed n .advanceDialog := by
  refine ⟨rfl, hrevealed, hchoices, fun nextId hnext => ?_⟩
  by_cases hempty : nextId = ""
  · exact .inl hempty
  · have hnonempty : nonempty n.next = some nextId := by simp [nonempty, hnext, hempty]
    have hnode : r.node? nextId = none := by simpa [nextNode?, hnonempty] using h
    exact ne_of_node?_eq_none hnode

theorem leads_of_chosenNode? {choiceId : String} (h : chosenNode? r n choiceId = some m) :
    Leads r revealed n (.makeChoice choiceId) m := by
  obtain ⟨d, hd, hm⟩ := Option.bind_eq_some_iff.mp h
  obtain ⟨hmem, hid, hne⟩ := mem_of_node? hm
  exact .choice hd hmem hid hne

theorem not_leads_of_chosenNode? {choiceId : String} (h : chosenNode? r n choiceId = none) :
    ¬ Leads r revealed n (.makeChoice choiceId) m := by
  intro hleads
  cases hleads with
  | @choice _ d _ hd hmem hid hne =>
    have hnode : r.node? d.nextId = none := by simpa [chosenNode?, hd] using h
    rcases ne_of_node?_eq_none hnode with hempty | hnone
    · exact hne (hid ▸ hempty)
    · exact hnone m hmem hid.symm

/-! ## One step -/

theorem readIds_changeSave (s : Stage) {f : Save → Save} {g : List String → List String}
    (hf : ∀ save, (f save).readDialogIds = g save.readDialogIds) :
    (s.changeSave f).view.readIds = s.view.readIds.map g := by
  unfold View.readIds
  rw [view_changeSave, Option.map_map, Option.map_map]
  exact Option.map_congr fun save _ => hf save

theorem stays_changeSave (s : Stage) {f : Save → Save}
    (hf : ∀ save, (f save).readDialogIds = save.readDialogIds) :
    s.view.Stays (s.changeSave f).view := by
  have hids : (s.changeSave f).view.readIds = s.view.readIds := by
    rw [readIds_changeSave s (g := id) hf, Option.map_id_fun, id]
  exact ⟨by rw [view_changeSave], by rw [view_changeSave], hids⟩

theorem stays_addMemory (s : Stage) (memory : Memory) :
    s.view.Stays (s.addMemory memory).view := by
  refine stays_changeSave s fun save => ?_
  unfold Save.addMemory
  split <;> rfl

theorem stays_unlockAchievement (s : Stage) (achievementId : String) :
    s.view.Stays (s.unlockAchievement achievementId).view := by
  refine stays_changeSave s fun save => ?_
  unfold Save.unlockAchievement
  split <;> rfl

theorem stays_addPlayTime (s : Stage) (seconds : Float) :
    s.view.Stays (s.addPlayTime seconds).view := by
  unfold addPlayTime
  split
  · exact ⟨rfl, rfl, rfl⟩
  · exact stays_changeSave s fun _ => rfl

theorem runs_moveTo (hs : s.view.Runs r n) (hm : m ∈ r.nodes) :
    (s.moveTo n m).view.Runs r m := by
  refine ⟨rfl, ?_, hm⟩
  rw [moveTo, view_changeView, view_changeSave]
  exact hs.script

/-- The node that is left is marked as read. -/
theorem readIds_moveTo (s : Stage) (n m : DialogNode) :
    (s.moveTo n m).view.readIds = s.view.readIds.map (markRead n.id) :=
  readIds_changeSave s (f := fun save =>
    { save with
      readDialogIds := markRead n.id save.readDialogIds
      currentDialogId := some m.id }) fun _ => rfl

/-- The node that the dialog ends on is not. -/
theorem readIds_endDialog (s : Stage) : s.endDialog.view.readIds = s.view.readIds :=
  (stays_changeSave s (f := fun save =>
    { save with currentDialogId := none, currentDialogScriptId := none }) fun _ => rfl).readIds

/-- What a command does to a running dialog: it leaves the dialog where it stands, or goes along
a line, or ends it. -/
inductive Turn (r : Script) (v : View) (n : DialogNode) (c : Command) (w : View) : Prop
  | stays (hstays : v.Stays w) (hleads : ∀ m, ¬ Leads r v.typewriterComplete n c m)
    (hends : ¬ Ends r v.typewriterComplete n c)
  | leaves {m : DialogNode} (hleads : Leads r v.typewriterComplete n c m) (hruns : w.Runs r m)
    (hids : w.readIds = v.readIds.map (markRead n.id))
  | ends (hends : Ends r v.typewriterComplete n c) (hover : w.node = none)
    (hids : w.readIds = v.readIds)

/-- Only to advance and to choose can move the dialog. -/
theorem Turn.of_stays {v w : View} {c : Command} (h : v.Stays w) (hadvance : c ≠ .advanceDialog)
    (hchoose : ∀ choiceId, c ≠ .makeChoice choiceId) : Turn r v n c w := by
  refine .stays h (fun m hleads => ?_) fun hends => hadvance hends.advance
  cases hleads with
  | next => exact hadvance rfl
  | choice => exact hchoose _ rfl

theorem turn_advanceDialog (hs : s.view.Runs r n) :
    Turn r s.view n .advanceDialog s.advanceDialog.2.view := by
  unfold advanceDialog
  rw [hs.node]
  dsimp only
  by_cases hrevealed : s.view.typewriterComplete = true
  · rw [if_neg (by simp [hrevealed])]
    by_cases hchoices : n.choices = []
    · rw [if_neg (by simp [hchoices]), hs.script]
      cases hnext : nextNode? (some r) n with
      | some m =>
        have hleads := leads_of_nextNode? hrevealed hchoices hnext
        have hmem : m ∈ r.nodes := by cases hleads; assumption
        exact .leaves hleads (runs_moveTo hs hmem) (readIds_moveTo s n m)
      | none => exact .ends (ends_of_nextNode? hrevealed hchoices hnext) rfl (readIds_endDialog s)
    · rw [if_pos (by simp [hchoices])]
      refine .stays ⟨rfl, rfl, rfl⟩ (fun m hleads => ?_) fun hends => hchoices hends.choices
      cases hleads with
      | next _ hnil => exact hchoices hnil
  · rw [if_pos (by simp [hrevealed])]
    refine .stays ⟨rfl, rfl, rfl⟩ (fun m hleads => ?_) fun hends => hrevealed hends.revealed
    cases hleads with
    | next hread => exact hrevealed hread

theorem turn_makeChoice (hs : s.view.Runs r n) (choiceId : String) :
    Turn r s.view n (.makeChoice choiceId) (s.makeChoice choiceId).2.view := by
  unfold makeChoice
  rw [hs.node, hs.script]
  dsimp only
  cases hchosen : chosenNode? r n choiceId with
  | some m =>
    have hleads : Leads r s.view.typewriterComplete n (.makeChoice choiceId) m :=
      leads_of_chosenNode? hchosen
    have hmem : m ∈ r.nodes := by cases hleads; assumption
    exact .leaves hleads (runs_moveTo hs hmem) (readIds_moveTo s n m)
  | none =>
    exact .stays ⟨rfl, rfl, rfl⟩ (fun m => not_leads_of_chosenNode? hchosen)
      fun hends => by cases hends.advance

/-- A command of a walk leaves everything as it was unless it advances or chooses. -/
theorem stays_perform (s : Stage) {c : Command} (hc : c.InWalk) (hadvance : c ≠ .advanceDialog)
    (hchoose : ∀ choiceId, c ≠ .makeChoice choiceId) : s.view.Stays (s.perform c).2.view := by
  cases c with
  | advanceDialog => exact absurd rfl hadvance
  | makeChoice choiceId => exact absurd rfl (hchoose choiceId)
  | addItem | removeItem | setFlag => exact stays_changeSave s fun _ => rfl
  | addMemory memory => exact stays_addMemory s memory
  | unlockAchievement achievementId => exact stays_unlockAchievement s achievementId
  | addPlayTime seconds => exact stays_addPlayTime s seconds
  | completeTypewriter | setLoading | toggleMenu | toggleInventory | toggleMemories =>
    exact ⟨rfl, rfl, rfl⟩
  | startNewGame | loadSave | changePhase | changeScene | startDialog | endDialog =>
    exact absurd hc id

/-- A command advances, or chooses, or does neither. -/
theorem Command.advances_or_chooses (c : Command) :
    c = .advanceDialog ∨ (∃ choiceId, c = .makeChoice choiceId) ∨
      c ≠ .advanceDialog ∧ ∀ choiceId, c ≠ .makeChoice choiceId := by
  by_cases hadvance : c = .advanceDialog
  · exact .inl hadvance
  · by_cases hchoose : ∃ choiceId, c = .makeChoice choiceId
    · exact .inr (.inl hchoose)
    · exact .inr (.inr ⟨hadvance, fun choiceId h => hchoose ⟨choiceId, h⟩⟩)

/-- A command of a walk does one of the three to a running dialog. -/
theorem turn_perform (hs : s.view.Runs r n) {c : Command} (hc : c.InWalk) :
    Turn r s.view n c (s.perform c).2.view := by
  rcases c.advances_or_chooses with rfl | ⟨choiceId, rfl⟩ | ⟨hadvance, hchoose⟩
  · exact turn_advanceDialog hs
  · exact turn_makeChoice hs choiceId
  · exact .of_stays (stays_perform s hc hadvance hchoose) hadvance hchoose

/-- Without a dialog a command of a walk does nothing to it. -/
theorem stays_perform_of_over (hs : s.view.node = none) {c : Command} (hc : c.InWalk) :
    s.view.Stays (s.perform c).2.view := by
  rcases c.advances_or_chooses with rfl | ⟨choiceId, rfl⟩ | ⟨hadvance, hchoose⟩
  · have hnothing : s.advanceDialog.2 = s := by simp [advanceDialog, hs]
    show s.view.Stays s.advanceDialog.2.view
    rw [hnothing]
    exact ⟨rfl, rfl, rfl⟩
  · have hnothing : (s.makeChoice choiceId).2 = s := by simp [makeChoice, hs]
    show s.view.Stays (s.makeChoice choiceId).2.view
    rw [hnothing]
    exact ⟨rfl, rfl, rfl⟩
  · exact stays_perform s hc hadvance hchoose

/-! ## The record of a walk -/

/-- Those of some ids that are not known yet, each once, in the order of their first
occurrence. -/
def firstsBeyond (known ids : List String) : List String :=
  (ids.filter (! known.contains ·)).eraseDups

/-- Marking ids as read one after another adds those that are new. -/
theorem foldl_markRead (known ids : List String) :
    ids.foldl (fun known id => markRead id known) known = known ++ firstsBeyond known ids := by
  induction ids generalizing known with
  | nil => exact (List.append_nil known).symm
  | cons id ids ih =>
    rw [List.foldl_cons, ih]
    unfold markRead firstsBeyond
    by_cases hknown : known.contains id = true
    · rw [if_pos hknown, List.filter_cons_of_neg (by simpa using hknown)]
    · have hfilter : ids.filter (fun other => ! (known ++ [id]).contains other) =
          (ids.filter (! known.contains ·)).filter fun other => ! other == id := by
        rw [List.filter_filter]
        refine List.filter_congr fun other _ => ?_
        by_cases hother : other = id <;> simp [hother]
      rw [if_neg hknown, List.filter_cons_of_pos (by simpa using hknown), List.eraseDups_cons,
        ← hfilter, List.append_assoc, List.singleton_append]

/-! ## Whole walks -/

/-- After the end of a dialog nothing moves and nothing is read. -/
theorem walks_of_over (r : Script) {walk : List (String × Command)}
    (hwalk : ∀ c ∈ walk, c.2.InWalk) (hs : s.view.node = none) :
    Walks r s walk [] ∧ (s.performAll walk).view.readIds = s.view.readIds := by
  induction walk generalizing s with
  | nil => exact ⟨.done, rfl⟩
  | cons c walk ih =>
    have hstays : s.view.Stays (s.after c).view :=
      stays_perform_of_over (s := { s with now := c.1 }) hs (hwalk c (List.mem_cons_self ..))
    have hover : (s.after c).view.node = none := hstays.node.trans hs
    obtain ⟨hrest, hids⟩ := ih (fun d hd => hwalk d (List.mem_cons_of_mem c hd)) hover
    exact ⟨.over hs hover hrest, hids.trans hstays.readIds⟩

/-- From a running dialog every sequence of commands is a walk, and the record follows it. -/
theorem walks_of_runs {walk : List (String × Command)} (hwalk : ∀ c ∈ walk, c.2.InWalk)
    (hs : s.view.Runs r n) : ∃ left, Walks r s walk left ∧
      (s.performAll walk).view.readIds = s.view.readIds.map fun known =>
        (left.map (·.id)).foldl (fun known id => markRead id known) known := by
  induction walk generalizing s n with
  | nil => exact ⟨[], .done, Option.map_id'.symm⟩
  | cons c walk ih =>
    have hrest : ∀ d ∈ walk, d.2.InWalk := fun d hd => hwalk d (List.mem_cons_of_mem c hd)
    have hturn : Turn r s.view n c.2 (s.after c).view :=
      turn_perform (s := { s with now := c.1 }) hs (hwalk c (List.mem_cons_self ..))
    rw [performAll_cons]
    cases hturn with
    | stays hstays hleads hends =>
      obtain ⟨left, hwalks, hids⟩ := ih hrest (hstays.runs hs)
      refine ⟨left, .stay hs (hstays.runs hs) hleads hends hwalks, hids.trans ?_⟩
      rw [hstays.readIds]
    | leaves hleads hruns hleft =>
      obtain ⟨left, hwalks, hids⟩ := ih hrest hruns
      refine ⟨n :: left, .leave hs hruns hleads hwalks, hids.trans ?_⟩
      rw [hleft, Option.map_map]
      rfl
    | ends hends hover hleft =>
      obtain ⟨hwalks, hids⟩ := walks_of_over r hrest hover
      exact ⟨[], .finish hs hover hends hwalks, hids.trans (hleft.trans Option.map_id'.symm)⟩

/-- A view at a spot shows a dialog that runs there. -/
theorem runs_of_at {i : Index} {spot : Option Spot} (h : s.view.At i spot)
    (hn : s.view.node = some n) (hr : s.view.script = some r) : s.view.Runs r n := by
  obtain ⟨p, hp, rfl, hscript⟩ := exists_spot_of_node h hn
  obtain rfl : r = p.script := Option.some_inj.mp (hr.symm.trans hscript)
  exact ⟨hn, hr, Script.mem_of_node? (h.found p hp).2⟩

/-- After any history over the index of a pack, whatever is asked of a running dialog is a walk
through its script.  The live save then has read what it had read before, and after that the
nodes that were left on the walk, each once, as they were first left. -/
theorem walks_performAll {p : Pack} {i : Index} (hp : Index.ofPack p = .ok i) {now : String}
    {history : List (String × Command)} (hs : (Stage.ofContent i now).performAll history = s)
    {save : Save} (hsave : s.view.save = some save) (hn : s.view.node = some n)
    (hr : s.view.script = some r) {walk : List (String × Command)}
    (hwalk : ∀ c ∈ walk, c.2.InWalk) :
    ∃ left live, Walks r s walk left ∧ (s.performAll walk).view.save = some live ∧
      live.readDialogIds =
        save.readDialogIds ++ firstsBeyond save.readDialogIds (left.map (·.id)) := by
  obtain ⟨spot, hat⟩ := exists_at_performAll (Index.coherent_of_ofPack hp) history
    (s := Stage.ofContent i now) rfl (View.at_initial i)
  rw [hs] at hat
  obtain ⟨left, hwalks, hids⟩ := walks_of_runs hwalk (runs_of_at hat hn hr)
  have hbefore : s.view.readIds = some save.readDialogIds := by
    rw [View.readIds, hsave, Option.map_some]
  rw [hbefore, Option.map_some, foldl_markRead] at hids
  obtain ⟨live, hlive, hread⟩ := Option.map_eq_some_iff.mp hids
  exact ⟨left, live, hwalks, hlive, hread⟩

/-- A walk at the gate: the keeper asks, a flag is set meanwhile, the game stays, and the dialog
ends after the answer. -/
def gateWalk : List (String × Command) :=
  [("3", .advanceDialog), ("4", .setFlag "polite" (.bool true)), ("5", .advanceDialog),
    ("6", .makeChoice "no"), ("7", .makeChoice "yes"), ("8", .completeTypewriter),
    ("9", .advanceDialog), ("10", .advanceDialog)]

/-- At the gate the question alone counts as read in the end. -/
theorem walks_gate :
    ∃ i s r left live, Index.ofPack gatePack = .ok i ∧
      (Stage.ofContent i "1").performAll [("2", .startNewGame ⟨"Ann", none⟩ "a")] = s ∧
      s.view.script = some r ∧ Walks r s gateWalk left ∧
      (s.performAll gateWalk).view.save = some live ∧ (s.performAll gateWalk).view.node = none ∧
      live.readDialogIds = firstsBeyond [] (left.map (·.id)) ∧ live.readDialogIds = ["ask"] := by
  obtain ⟨i, hp, save, hsave, n, hn, r, hr, hread, hover, hids⟩ :
      ∃ i, Index.ofPack gatePack = .ok i ∧
        let s := (Stage.ofContent i "1").performAll [("2", .startNewGame ⟨"Ann", none⟩ "a")]
        ∃ save, s.view.save = some save ∧ ∃ n, s.view.node = some n ∧ ∃ r, s.view.script = some r ∧
          save.readDialogIds = [] ∧ (s.performAll gateWalk).view.node = none ∧
            (s.performAll gateWalk).view.readIds = some ["ask"] :=
    ⟨_, rfl, _, rfl, _, rfl, _, rfl, rfl, rfl, rfl⟩
  have hwalk : ∀ c ∈ gateWalk, c.2.InWalk := by
    simp [gateWalk, Command.InWalk]
  obtain ⟨left, live, hwalks, hlive, hrecord⟩ := walks_performAll hp rfl hsave hn hr hwalk
  rw [hread, List.nil_append] at hrecord
  rw [View.readIds, hlive, Option.map_some] at hids
  exact ⟨i, _, r, left, live, hp, rfl, hr, hwalks, hlive, hover, hrecord, Option.some_inj.mp hids⟩

end Stage

end Storyline
