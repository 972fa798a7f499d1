import Storyline.Content.Problem
import Storyline.Proofs.Content.Lookups
import Storyline.Proofs.Stage.Position

/-!
# Packs without problems

What it means for the content of a story that the check finds no problem: everything that the
check looks up is there.  The check looks for the entry dialog of a scene among all nodes,
though a scene that names a script looks for it there alone.

* `Index.Clean`: the look-ups of the check;
* `Index.clean_of_problems`: they succeed where no problem is found;
* `Index.Clean.exists_scriptSpot?`: every script starts;
* `Index.Clean.sceneSpot?_eq`: where a scene enters its dialog, and where it does not;
* `Stage.Unbroken`, `Stage.unbroken_performAll`: what that means for a game.
-/

namespace Storyline

open Content

namespace Content.Index

/-! ## The look-ups of the check -/

/-- Everything that the content refers to is found where the check looks for it. -/
structure Clean (i : Index) : Prop where
  entryDialog : ∀ c ∈ i.scenes.values, ∀ nodeId, nonempty c.entryDialogId = some nodeId →
    ∃ n, i.node? nodeId = some n
  entryScript : ∀ c ∈ i.scenes.values, ∀ scriptId, nonempty c.entryScriptId = some scriptId →
    ∃ s, i.script? scriptId = some s
  start : ∀ s ∈ i.scripts.values, ∃ n, s.start? = some n
  next : ∀ s ∈ i.scripts.values, ∀ n ∈ s.nodes, ∀ nextId, nonempty n.next = some nextId →
    n.choices = [] ∧ ∃ m, s.node? nextId = some m
  target : ∀ s ∈ i.scripts.values, ∀ n ∈ s.nodes, ∀ c ∈ n.choices, ∃ m, s.node? c.nextId = some m
  scene : ∀ s ∈ i.scripts.values, ∀ n ∈ s.nodes, ∀ sceneId,
    Effect.changeScene sceneId ∈ n.effects ++ n.choices.flatMap (·.effects) →
      ∃ c, i.scene? sceneId = some c

variable {i : Index}

theorem problemIf_eq_nil {wrong : Bool} {p : Problem} :
    problemIf wrong p = [] ↔ wrong = false := by
  unfold problemIf
  cases wrong <;> simp

theorem exists_of_problemIf {α : Type} {o : Option α} {p : Problem}
    (h : problemIf o.isNone p = []) : ∃ a, o = some a := by
  rw [problemIf_eq_nil, Option.isNone_eq_false_iff] at h
  exact Option.isSome_iff_exists.mp h

/-- What is checked of an optional id is checked of the id that is there. -/
theorem nil_of_toList {o : Option String} {k : String} {f : String → List Problem}
    (h : o.toList.flatMap f = []) (hk : o = some k) : f k = [] := by
  rw [hk] at h
  exact List.flatMap_eq_nil_iff.mp h k (List.mem_singleton.mpr rfl)

theorem exists_scene_of_effectProblems {nodeId sceneId : String} {es : List Effect}
    (h : i.effectProblems nodeId es = []) (hmem : .changeScene sceneId ∈ es) :
    ∃ c, i.scene? sceneId = some c :=
  exists_of_problemIf (List.flatMap_eq_nil_iff.mp h _ hmem)

/-- Where the check finds no problem, it finds everything that it looks for. -/
theorem clean_of_problems (h : i.problems = []) : i.Clean := by
  obtain ⟨hscenes, hscripts⟩ := List.append_eq_nil_iff.mp h
  have hscene : ∀ c ∈ i.scenes.values, i.sceneProblems c = [] :=
    List.flatMap_eq_nil_iff.mp hscenes
  have hscript : ∀ s ∈ i.scripts.values,
      problemIf s.start?.isNone (.startNode s.id s.startNodeId) = [] ∧
        ∀ n ∈ s.nodes, i.nodeProblems s n = [] := by
    intro s hs
    obtain ⟨hstart, hnodes⟩ := List.append_eq_nil_iff.mp
      (List.flatMap_eq_nil_iff.mp hscripts s hs)
    exact ⟨hstart, List.flatMap_eq_nil_iff.mp hnodes⟩
  refine ⟨fun c hc nodeId hk => ?_, fun c hc scriptId hk => ?_, fun s hs => ?_,
    fun s hs n hn nextId hk => ?_, fun s hs n hn c hc => ?_, fun s hs n hn sceneId hmem => ?_⟩
  · exact exists_of_problemIf (nil_of_toList (List.append_eq_nil_iff.mp (hscene c hc)).1 hk)
  · exact exists_of_problemIf (nil_of_toList (List.append_eq_nil_iff.mp (hscene c hc)).2 hk)
  · exact exists_of_problemIf (hscript s hs).1
  · have hnode := (hscript s hs).2 n hn
    unfold nodeProblems at hnode
    simp only [List.append_eq_nil_iff] at hnode
    have hnext := nil_of_toList hnode.1.1.1 hk
    obtain ⟨hboth, hmissing⟩ := List.append_eq_nil_iff.mp hnext
    rw [problemIf_eq_nil, Bool.not_eq_false', List.isEmpty_iff] at hboth
    exact ⟨hboth, exists_of_problemIf hmissing⟩
  · have hnode := (hscript s hs).2 n hn
    unfold nodeProblems at hnode
    simp only [List.append_eq_nil_iff] at hnode
    exact exists_of_problemIf (List.flatMap_eq_nil_iff.mp hnode.1.1.2 c hc)
  · have hnode := (hscript s hs).2 n hn
    unfold nodeProblems at hnode
    simp only [List.append_eq_nil_iff] at hnode
    rcases List.mem_append.mp hmem with hmem | hmem
    · exact exists_scene_of_effectProblems hnode.1.2 hmem
    · obtain ⟨c, hc, hmem⟩ := List.mem_flatMap.mp hmem
      exact exists_scene_of_effectProblems (List.flatMap_eq_nil_iff.mp hnode.2 c hc) hmem

/-! ## Where scenes and scripts lead -/

/-- A script of clean content starts at the node that it names. -/
theorem Clean.exists_scriptSpot? (h : i.Clean) {k : String} {s : Script}
    (hs : i.script? k = some s) :
    ∃ n, i.scriptSpot? k = some ⟨n, s⟩ ∧ n ∈ s.nodes ∧ n.id = s.startNodeId := by
  obtain ⟨n, hn⟩ := h.start s (Table.mem_values_of_get? hs)
  refine ⟨n, ?_, Script.mem_of_node? hn, Script.id_of_node? hn⟩
  rw [scriptSpot?, hs, Option.bind_some, startSpot?, hn]
  rfl

/-- The dialog of a scene in the script where it is looked for. -/
theorem sceneSpot?_of_entryScript? {c : Scene} {nodeId : String}
    (hentry : nonempty c.entryDialogId = some nodeId) {s : Script}
    (hs : i.entryScript? c = some s) :
    (i.sceneSpot? c).map (·.node) = s.node? nodeId := by
  unfold sceneSpot?
  rw [hentry, hs]
  cases hn : s.node? nodeId <;> simp [hn]

/-- A scene of clean content enters at its entry dialog if it names no script or the one that
the dialog was written in, and enters no dialog otherwise. -/
theorem Clean.sceneSpot?_eq (h : i.Clean) (hfiled : i.Filed) {k : String} {c : Scene}
    (hc : i.scene? k = some c) {nodeId : String} (hentry : nonempty c.entryDialogId = some nodeId)
    {n : DialogNode} (hn : i.node? nodeId = some n) :
    (i.sceneSpot? c).map (·.node) =
      if nonempty c.entryScriptId = none ∨ c.entryScriptId = n.scriptId then some n else none := by
  have hne : nodeId ≠ "" := (nonempty_eq_some hentry).2
  cases hnamed : nonempty c.entryScriptId with
  | none =>
    obtain ⟨-, r, hcarried, hr, -⟩ := hfiled.script_of_node hn
    have hscript : i.entryScript? c = some r := by
      rw [entryScript?, hnamed, hentry]
      show i.scriptOfNode? nodeId = some r
      rw [scriptOfNode?, hn, Option.bind_some, hcarried, Option.bind_some, hr]
    rw [if_pos (.inl rfl), sceneSpot?_of_entryScript? hentry hscript,
      hfiled.node?_eq hne hn hr, if_pos hcarried]
  | some scriptId =>
    obtain ⟨s, hs⟩ := h.entryScript c (Table.mem_values_of_get? hc) scriptId hnamed
    have hscript : i.entryScript? c = some s := by
      rw [entryScript?, hnamed]
      exact hs
    rw [sceneSpot?_of_entryScript? hentry hscript, hfiled.node?_eq hne hn hs,
      (nonempty_eq_some hnamed).1]
    simp only [reduceCtorEq, false_or, eq_comm]

end Content.Index

/-! ## No reference is dead -/

namespace Stage

/-- Wherever the stage goes by what the pack refers to, it gets there.  A scene that names
another script than that of its entry dialog is the exception: it enters no dialog. -/
structure Unbroken (p : Pack) (i : Index) (s : Stage) : Prop where
  changeScene : ∀ c ∈ p.scenes, ∀ nodeId, nonempty c.entryDialogId = some nodeId →
    ∃ n, i.node? nodeId = some n ∧ n.id = nodeId ∧ (s.changeScene c.id).1 = some c ∧
      (s.changeScene c.id).2.view.node =
        if nonempty c.entryScriptId = none ∨ c.entryScriptId = n.scriptId then some n else none
  startDialog : ∀ r ∈ p.scripts, ∃ n ∈ r.nodes, n.id = r.startNodeId ∧
    (s.startDialog r.id).1 = some (n.inScript r.id) ∧
    (s.startDialog r.id).2.view.node = some (n.inScript r.id)
  makeChoice : ∀ n, s.view.node = some n → ∀ c ∈ n.choices,
    ∃ d r m, n.choice? c.id = some d ∧ s.view.script = some r ∧ m ∈ r.nodes ∧ m.id = d.nextId ∧
      (s.makeChoice c.id).1 = some m ∧ (s.makeChoice c.id).2.view.node = some m
  advanceDialog : ∀ n, s.view.node = some n → s.view.typewriterComplete = true →
    n.choices = [] → ∀ nextId, nonempty n.next = some nextId →
      ∃ r m, s.view.script = some r ∧ m ∈ r.nodes ∧ m.id = nextId ∧
        s.advanceDialog.1 = some m ∧ s.advanceDialog.2.view.node = some m
  effect : ∀ r ∈ p.scripts, ∀ n ∈ r.nodes, ∀ sceneId,
    Effect.changeScene sceneId ∈ n.effects ++ n.choices.flatMap (·.effects) →
      ∃ c, c.id = sceneId ∧ (s.changeScene sceneId).1 = some c

variable {i : Index} {s : Stage}

theorem makeChoice_of_chosen {n m : DialogNode} {r : Script} {choiceId : String}
    (hn : s.view.node = some n) (hr : s.view.script = some r)
    (hm : chosenNode? r n choiceId = some m) :
    (s.makeChoice choiceId).1 = some m ∧ (s.makeChoice choiceId).2.view.node = some m := by
  unfold Stage.makeChoice
  rw [hn, hr]
  dsimp only
  rw [hm]
  exact ⟨rfl, rfl⟩

theorem advanceDialog_of_next {n m : DialogNode} (hn : s.view.node = some n)
    (hread : s.view.typewriterComplete = true) (hchoices : n.choices = [])
    (hm : nextNode? s.view.script n = some m) :
    s.advanceDialog.1 = some m ∧ s.advanceDialog.2.view.node = some m := by
  rw [advanceDialog_eq_moveTo hn hread hchoices hm]
  exact ⟨rfl, rfl⟩

/-- The current node is one of the script that runs, which is one of the content. -/
theorem exists_script_of_node {spot : Option Spot} (h : s.view.At i spot) {n : DialogNode}
    (hn : s.view.node = some n) :
    ∃ r, s.view.script = some r ∧ r ∈ i.scripts.values ∧ n ∈ r.nodes := by
  obtain ⟨q, hq, rfl, hscript⟩ := exists_spot_of_node h hn
  obtain ⟨hindexed, hnode⟩ := h.found q hq
  exact ⟨q.script, hscript, Table.mem_values_of_get? hindexed, Script.mem_of_node? hnode⟩

/-- The choice of an id that a node has is one of its choices. -/
theorem exists_choice_of_mem {n : DialogNode} {c : Choice} (hc : c ∈ n.choices) :
    ∃ d ∈ n.choices, n.choice? c.id = some d := by
  obtain ⟨d, hd⟩ : ∃ d, n.choices.find? (·.id = c.id) = some d :=
    Option.isSome_iff_exists.mp (List.find?_isSome.mpr ⟨c, hc, by simp⟩)
  exact ⟨d, List.mem_of_find?_eq_some hd, hd⟩

/-- After any history over a pack without problems no reference of the pack is dead, but for
scenes that name another script than that of their entry dialog. -/
theorem unbroken_performAll {p : Pack} (hp : Index.ofPack p = .ok i) (hproblems : i.problems = [])
    (now : String) (history : List (String × Command)) :
    ((Stage.ofContent i now).performAll history).Unbroken p i := by
  have hi : i.Coherent := Index.coherent_of_ofPack hp
  have hfiled : i.Filed := Index.filed_of_ofPack hp
  have hclean : i.Clean := Index.clean_of_problems hproblems
  obtain ⟨spot, hat⟩ :=
    exists_at_performAll hi history (s := Stage.ofContent i now) rfl (View.at_initial i)
  have hcontent : ((Stage.ofContent i now).performAll history).content = i :=
    content_performAll _ history
  generalize (Stage.ofContent i now).performAll history = s at *
  refine ⟨fun c hc nodeId hentry => ?_, fun r hr => ?_, fun n hn c hc => ?_,
    fun n hn hread hchoices nextId hnext => ?_, fun r hr n hn sceneId hmem => ?_⟩
  · have hscene : i.scene? c.id = some c := Index.scene?_of_mem hp hc
    obtain ⟨n, hn⟩ := hclean.entryDialog c (Table.mem_values_of_get? hscene) nodeId hentry
    have hfound : s.content.scene? c.id = some c := by rw [hcontent, hscene]
    refine ⟨n, hn, (hfiled.script_of_node hn).1, by rw [Stage.changeScene, hfound], ?_⟩
    rw [node_changeScene hfound, hcontent, hclean.sceneSpot?_eq hfiled hscene hentry hn]
  · have hscript : i.script? r.id = some (Index.owned r) := Index.script?_of_mem hp hr
    obtain ⟨m, hspot, hmem, hid⟩ := hclean.exists_scriptSpot? hscript
    obtain ⟨n, hn, rfl⟩ := List.mem_map.mp hmem
    have hstart := startDialog_of_some (s := s) (by rw [hcontent, hspot])
    exact ⟨n, hn, hid, hstart.1, hstart.2.1⟩
  · obtain ⟨r, hr, hvalue, hmem⟩ := exists_script_of_node hat hn
    obtain ⟨d, hd, hfound⟩ := exists_choice_of_mem hc
    obtain ⟨m, hm⟩ := hclean.target r hvalue n hmem d hd
    have hchosen : chosenNode? r n c.id = some m := by
      rw [chosenNode?, hfound]
      exact hm
    exact ⟨d, r, m, hfound, hr, Script.mem_of_node? hm, Script.id_of_node? hm,
      makeChoice_of_chosen hn hr hchosen⟩
  · obtain ⟨r, hr, hvalue, hmem⟩ := exists_script_of_node hat hn
    obtain ⟨-, m, hm⟩ := hclean.next r hvalue n hmem nextId hnext
    have hfound : nextNode? s.view.script n = some m := by
      rw [nextNode?, hr, hnext]
      exact hm
    exact ⟨r, m, hr, Script.mem_of_node? hm, Script.id_of_node? hm,
      advanceDialog_of_next hn hread hchoices hfound⟩
  · have hscript : i.script? r.id = some (Index.owned r) := Index.script?_of_mem hp hr
    obtain ⟨c, hc⟩ := hclean.scene (Index.owned r) (Table.mem_values_of_get? hscript)
      (n.inScript r.id) (List.mem_map_of_mem hn) sceneId hmem
    exact ⟨c, hi.id_of_scene hc, by rw [Stage.changeScene, hcontent, hc]⟩

/-- The gate with a guard besides the keeper: its scene names the script of the guard, and the
dialog of the keeper. -/
def crossedPack : Pack where
  scenes := gatePack.scenes.map fun c => { c with entryScriptId := some "guard" }
  scripts := gatePack.scripts ++
    [{ id := "guard", phase := .planning, title := "Guard", startNodeId := "halt",
       nodes :=
        [{ id := "halt", speaker := "guard", text := "Halt!", emotion := none,
           background := none, characterSprite := none, choices := [], next := none,
           effects := [], autoAdvance := false, autoAdvanceDelay := none,
           scriptId := none }] }]

/-- At the gate with a guard the check finds no problem and every script starts, but the scene
enters no dialog though its node is there. -/
theorem unbroken_crossed :
    ∃ i, Index.ofPack crossedPack = .ok i ∧ i.problems = [] ∧
      let s := (Stage.ofContent i "1").performAll [("2", .startNewGame ⟨"Ann", none⟩ "a")]
      s.view.save.isSome ∧ s.Unbroken crossedPack i ∧ (i.node? "ask").isSome ∧
        (s.changeScene "gate").2.view.node = none := by
  obtain ⟨i, hp, hproblems, hsave, hnode, hcarried⟩ : ∃ i, Index.ofPack crossedPack = .ok i ∧
      i.problems = [] ∧
      ((Stage.ofContent i "1").performAll
        [("2", .startNewGame ⟨"Ann", none⟩ "a")]).view.save.isSome = true ∧
      (i.node? "ask").isSome = true ∧ (i.node? "ask").bind (·.scriptId) = some "keeper" :=
    ⟨_, rfl, rfl, rfl, rfl, rfl⟩
  have hunbroken := unbroken_performAll hp hproblems "1" [("2", .startNewGame ⟨"Ann", none⟩ "a")]
  refine ⟨i, hp, hproblems, hsave, hunbroken, hnode, ?_⟩
  obtain ⟨c, hc, hid, hentry, hscript⟩ : ∃ c ∈ crossedPack.scenes, c.id = "gate" ∧
      nonempty c.entryDialogId = some "ask" ∧ c.entryScriptId = some "guard" :=
    ⟨_, List.mem_singleton.mpr rfl, rfl, rfl, rfl⟩
  obtain ⟨n, hn, -, -, hmoved⟩ := hunbroken.changeScene c hc "ask" hentry
  rw [hn, Option.bind_some] at hcarried
  rw [hid, hscript, hcarried, if_neg (by decide)] at hmoved
  exact hmoved

end Stage

end Storyline
