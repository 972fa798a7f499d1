import Mathlib.Data.List.Nodup
import Storyline.Proofs.Content.Lookups

/-!
# The index answers for its pack

A look-up in the index of a pack is a search of the pack: by id among the scenes, the scripts
and the nodes as they are written, by phase for the first record of the phase.  There is an index
exactly if no two scenes, no two scripts and no two nodes of the pack have one id, wherever the
nodes are written.

While the index is built it answers for the part of the pack that was added, and one more record
can be added exactly if that part with the record has no id twice.

* `Table.get?_insert_fresh`, `Table.get?_insertIfNew`: a table with one more entry at its end;
* `Content.foldlM_grows`: a fold that may fail, where each step adds one element to a list;
* `Index.Answers`: every look-up is a search of the pack;
* `Index.answers_addScene`, `Index.answers_addScript`: one more record;
* `Index.answers_of_ofPack`, `Index.exists_ofPack_iff`: the whole pack, and when it has an index;
* `Index.faithful_ofPack`: what is found of every record of a pack, and that nothing else is.
-/

namespace Storyline

namespace Table

variable {α : Type} {t : Table α}

/-- What is found once a free name was given a value. -/
theorem get?_insert_fresh {name : String} (hfree : t.get? name = none) (value : α)
    (other : String) :
    (t.insert name value).get? other =
      (t.get? other).or (if name = other then some value else none) := by
  rw [get?_insert]
  by_cases h : other = name
  · rw [if_pos h, if_pos h.symm, h, hfree, Option.none_or]
  · rw [if_neg h, if_neg (Ne.symm h), Option.or_none]

/-- What is found once a name was given a value unless it had one. -/
theorem get?_insertIfNew (t : Table α) (name : String) (value : α) (other : String) :
    (t.insertIfNew name value).get? other =
      (t.get? other).or (if name = other then some value else none) := by
  unfold insertIfNew
  split
  · rename_i hknown
    by_cases h : name = other
    · obtain ⟨old, hold⟩ := Option.isSome_iff_exists.mp hknown
      rw [← h, hold, Option.some_or]
    · rw [if_neg h, Option.or_none]
  · rename_i hnew
    exact get?_insert_fresh (get?_eq_none_of_not_contains hnew) value other

end Table

namespace Content

theorem not_exists_ok {ε α : Type} {e : ε} : ¬ ∃ a : α, Except.error e = Except.ok a := by
  rintro ⟨a, h⟩
  cases h

/-- A fold that may fail, each step of which adds an element to those that the state stands for
by `R`.  If a step goes through exactly where `P` holds of the elements with the new one, the fold
does exactly where it holds of all of them. -/
theorem foldlM_grows {ε α β : Type} {f : β → α → Except ε β} {R : β → List α → Prop}
    {P : List α → Prop} (hgood : ∀ {as bs}, P (as ++ bs) → P as)
    (hstep : ∀ {b as} a, R b as → P as →
      ((∃ b', f b a = .ok b') ↔ P (as ++ [a])) ∧ ∀ b', f b a = .ok b' → R b' (as ++ [a]))
    {l as : List α} {b : β} (hb : R b as) (has : P as) :
    ((∃ b', l.foldlM f b = .ok b') ↔ P (as ++ l)) ∧
      ∀ b', l.foldlM f b = .ok b' → R b' (as ++ l) := by
  induction l generalizing as b with
  | nil =>
    rw [List.append_nil, List.foldlM_nil]
    refine ⟨iff_of_true ⟨b, rfl⟩ has, fun b' hb' => ?_⟩
    have hbb : b = b' := by injection hb'
    exact hbb ▸ hb
  | cons a l ih =>
    obtain ⟨hiff, hnext⟩ := hstep a hb has
    have hsplit : as ++ a :: l = (as ++ [a]) ++ l := by
      rw [List.append_assoc, List.singleton_append]
    rw [List.foldlM_cons, hsplit]
    cases hm : f b a with
    | error e =>
      have hbad : ¬ P (as ++ [a]) := by
        rw [← hiff, hm]
        exact not_exists_ok
      have hfail : ¬ ∃ b', (Except.error e >>= fun m => l.foldlM f m) = .ok b' := not_exists_ok
      exact ⟨iff_of_false hfail (mt hgood hbad), fun b' hb' => absurd ⟨b', hb'⟩ hfail⟩
    | ok m => exact ih (hnext m hm) (hiff.mp ⟨m, hm⟩)

namespace Index

variable {i j : Index} {p : Pack}

/-- Every look-up is a search of the pack. -/
structure Answers (i : Index) (p : Pack) : Prop where
  scene : ∀ k, i.scene? k = p.scenes.find? (·.id = k)
  script : ∀ k, i.script? k = (p.scripts.find? (·.id = k)).map owned
  node : ∀ k, i.node? k = (p.scripts.flatMap fun s => (owned s).nodes).find? (·.id = k)
  phaseScene : ∀ ph, i.phaseScene? ph = p.scenes.find? (·.phase = ph)
  phaseScript : ∀ ph, i.phaseScript? ph = (p.scripts.find? (·.phase = ph)).map owned

theorem answers_empty : empty.Answers ⟨[], []⟩ :=
  ⟨fun _ => rfl, fun _ => rfl, fun _ => rfl, fun _ => rfl, fun _ => rfl⟩

/-! ## One more record -/

theorem find?_concat {α κ : Type} [DecidableEq κ] (key : α → κ) (l : List α) (a : α) (k : κ) :
    (l ++ [a]).find? (fun x => decide (key x = k)) =
      (l.find? fun x => decide (key x = k)).or (if key a = k then some a else none) := by
  rw [List.find?_append, List.find?_singleton]
  simp

theorem find?_eq_none_iff_notMem {α κ : Type} [DecidableEq κ] {key : α → κ} {l : List α} {k : κ} :
    l.find? (fun x => decide (key x = k)) = none ↔ k ∉ l.map key := by
  simp [List.find?_eq_none]

/-- A phase is known by its name. -/
theorem phase_name_inj {ph qh : Phase} : ph.name = qh.name ↔ ph = qh := by
  cases ph
  cases qh
  simp

/-- A scene can be added exactly if its id is free. -/
theorem exists_addScene_iff {c : Scene} : (∃ j, i.addScene c = .ok j) ↔ i.scene? c.id = none := by
  unfold addScene
  split
  · rename_i hknown
    refine iff_of_false not_exists_ok fun hfree => ?_
    have hnone : i.scenes.get? c.id = none := hfree
    rw [Table.contains, hnone] at hknown
    cases hknown
  · rename_i hnew
    exact iff_of_true ⟨_, rfl⟩ (Table.get?_eq_none_of_not_contains hnew)

theorem answers_addScene (hi : i.Answers p) {c : Scene} (h : i.addScene c = .ok j) :
    j.Answers { p with scenes := p.scenes ++ [c] } := by
  obtain ⟨hfree, rfl⟩ := addScene_eq_ok h
  refine ⟨fun k => ?_, hi.script, hi.node, fun ph => ?_, hi.phaseScript⟩
  · rw [find?_concat, ← hi.scene]
    exact Table.get?_insert_fresh hfree c k
  · have hfound := Table.get?_insertIfNew i.phaseScenes c.phase.name c ph.name
    rw [find?_concat, ← hi.phaseScene]
    simp only [phase_name_inj] at hfound
    exact hfound

/-- The nodes of a script can be added exactly if their ids are free and all different. -/
theorem exists_addNodes_iff {scriptId : String} {ns : List DialogNode} {t : Table DialogNode} :
    (∃ u, addNodes scriptId ns t = .ok u) ↔
      (ns.map (·.id)).Nodup ∧ ∀ n ∈ ns, t.get? n.id = none := by
  induction ns generalizing t with
  | nil => simp [addNodes]
  | cons m ns ih =>
    rw [addNodes]
    split
    · rename_i hknown
      refine iff_of_false not_exists_ok fun hfree => ?_
      rw [Table.contains, hfree.2 m (List.mem_cons_self ..)] at hknown
      cases hknown
    · rename_i hnew
      have hfree := Table.get?_eq_none_of_not_contains hnew
      simp only [ih, Table.get?_insert_fresh hfree, List.map_cons, List.nodup_cons, List.mem_map,
        List.forall_mem_cons, hfree, true_and, Option.or_eq_none_iff]
      constructor
      · rintro ⟨hnodup, hrest⟩
        refine ⟨⟨?_, hnodup⟩, fun n hn => (hrest n hn).1⟩
        rintro ⟨n, hn, hid⟩
        simpa [hid] using (hrest n hn).2
      · rintro ⟨⟨hnot, hnodup⟩, hrest⟩
        refine ⟨hnodup, fun n hn => ⟨hrest n hn, ?_⟩⟩
        exact if_neg fun hid => hnot ⟨n, hn, hid.symm⟩

/-- The table of nodes with those of one more script. -/
theorem get?_addNodes {scriptId : String} {ns : List DialogNode} {t u : Table DialogNode}
    (h : addNodes scriptId ns t = .ok u) (k : String) :
    u.get? k = (t.get? k).or ((ns.map (·.inScript scriptId)).find? (·.id = k)) := by
  induction ns generalizing t with
  | nil =>
    rw [Except.ok.inj h]
    exact (Option.or_none).symm
  | cons m ns ih =>
    rw [addNodes] at h
    split at h
    · cases h
    · rename_i hnew
      rw [ih h, Table.get?_insert_fresh (Table.get?_eq_none_of_not_contains hnew), Option.or_assoc,
        List.map_cons, List.find?_cons]
      by_cases hk : m.id = k <;> simp [hk]

/-- A script can be added exactly if its id is free and its nodes can be added. -/
theorem exists_addScript_iff {s : Script} :
    (∃ j, i.addScript s = .ok j) ↔ i.script? s.id = none ∧ (s.nodes.map (·.id)).Nodup ∧
      ∀ n ∈ s.nodes, i.node? n.id = none := by
  unfold addScript
  split
  · rename_i hknown
    refine iff_of_false not_exists_ok fun hfree => ?_
    have hnone : i.scripts.get? s.id = none := hfree.1
    rw [Table.contains, hnone] at hknown
    cases hknown
  · rename_i hnew
    have hfree : i.script? s.id = none := Table.get?_eq_none_of_not_contains hnew
    have hnodes : (∃ u, addNodes s.id s.nodes i.nodes = .ok u) ↔
        (s.nodes.map (·.id)).Nodup ∧ ∀ n ∈ s.nodes, i.node? n.id = none := exists_addNodes_iff
    rw [and_iff_right hfree, ← hnodes]
    cases addNodes s.id s.nodes i.nodes with
    | error e => exact iff_of_false not_exists_ok not_exists_ok
    | ok u => exact iff_of_true ⟨_, rfl⟩ ⟨u, rfl⟩

theorem answers_addScript (hi : i.Answers p) {s : Script} (h : i.addScript s = .ok j) :
    j.Answers { p with scripts := p.scripts ++ [s] } := by
  obtain ⟨hfree, nodes, hnodes, rfl⟩ := addScript_eq_ok h
  refine ⟨hi.scene, fun k => ?_, fun k => ?_, hi.phaseScene, fun ph => ?_⟩
  · have hfound := Table.get?_insert_fresh hfree (owned s) k
    rw [find?_concat, Option.map_or, ← hi.script, apply_ite (Option.map owned)]
    exact hfound
  · have hfound := get?_addNodes hnodes k
    rw [List.flatMap_append, List.flatMap_singleton, List.find?_append, ← hi.node]
    exact hfound
  · have hfound := Table.get?_insertIfNew i.phaseScripts s.phase.name (owned s) ph.name
    rw [find?_concat, Option.map_or, ← hi.phaseScript, apply_ite (Option.map owned)]
    simp only [phase_name_inj] at hfound
    exact hfound

/-! ## The whole pack -/

theorem ids_owned (ss : List Script) :
    (ss.flatMap fun s => (owned s).nodes).map (·.id) = (ss.flatMap (·.nodes)).map (·.id) := by
  simp [List.map_flatMap, owned, Function.comp_def]

/-- Scenes are added one after another exactly if no two have one id. -/
theorem answers_of_scenes (cs : List Scene) :
    ((∃ j, cs.foldlM addScene empty = .ok j) ↔ (cs.map (·.id)).Nodup) ∧
      ∀ j, cs.foldlM addScene empty = .ok j → j.Answers ⟨cs, []⟩ := by
  refine foldlM_grows (R := fun (i : Index) (as : List Scene) => i.Answers ⟨as, []⟩)
    (P := fun as => (as.map (·.id)).Nodup) ?_ ?_ answers_empty List.nodup_nil
  · intro as bs h
    rw [List.map_append] at h
    exact h.of_append_left
  · intro i as c hi has
    refine ⟨?_, fun j hj => answers_addScene hi hj⟩
    rw [exists_addScene_iff, hi.scene, find?_eq_none_iff_notMem, List.map_append,
      List.nodup_append_comm, List.map_singleton, List.singleton_append, List.nodup_cons,
      and_iff_left has]

/-- Scripts are added after the scenes exactly if no two of them and no two of their nodes have
one id. -/
theorem answers_of_scripts (hi : i.Answers ⟨p.scenes, []⟩) (ss : List Script) :
    ((∃ j, ss.foldlM addScript i = .ok j) ↔
      (ss.map (·.id)).Nodup ∧ ((ss.flatMap (·.nodes)).map (·.id)).Nodup) ∧
      ∀ j, ss.foldlM addScript i = .ok j → j.Answers ⟨p.scenes, ss⟩ := by
  refine foldlM_grows (R := fun (i : Index) (as : List Script) => i.Answers ⟨p.scenes, as⟩)
    (P := fun as => (as.map (·.id)).Nodup ∧ ((as.flatMap (·.nodes)).map (·.id)).Nodup)
    ?_ ?_ hi ⟨List.nodup_nil, List.nodup_nil⟩
  · rintro as bs ⟨hscripts, hnodes⟩
    rw [List.map_append] at hscripts
    rw [List.flatMap_append, List.map_append] at hnodes
    exact ⟨hscripts.of_append_left, hnodes.of_append_left⟩
  · rintro i as s hi ⟨hscripts, hnodes⟩
    refine ⟨?_, fun j hj => answers_addScript hi hj⟩
    have hscript : i.script? s.id = none ↔ ((as ++ [s]).map (·.id)).Nodup := by
      rw [hi.script, Option.map_eq_none_iff, find?_eq_none_iff_notMem, List.map_append,
        List.nodup_append_comm, List.map_singleton, List.singleton_append, List.nodup_cons,
        and_iff_left hscripts]
    have hfree : (∀ n ∈ s.nodes, i.node? n.id = none) ↔
        ((as.flatMap (·.nodes)).map (·.id)).Disjoint (s.nodes.map (·.id)) := by
      simp only [hi.node, find?_eq_none_iff_notMem, ids_owned, List.disjoint_right, List.mem_map,
        forall_exists_index, and_imp, forall_apply_eq_imp_iff₂]
    have hnode : ((s.nodes.map (·.id)).Nodup ∧ ∀ n ∈ s.nodes, i.node? n.id = none) ↔
        (((as ++ [s]).flatMap (·.nodes)).map (·.id)).Nodup := by
      rw [List.flatMap_append, List.flatMap_singleton, List.map_append, List.nodup_append',
        and_iff_right hnodes, hfree]
    rw [exists_addScript_iff, hscript, hnode]

/-- The index of a pack answers for it. -/
theorem answers_of_ofPack (h : ofPack p = .ok i) : i.Answers p := by
  obtain ⟨j, hj, hi⟩ := exists_scenes_of_ofPack h
  exact (answers_of_scripts ((answers_of_scenes p.scenes).2 j hj) p.scripts).2 i hi

/-- A pack has an index exactly if no two of its scenes, no two of its scripts and no two of its
nodes have one id. -/
theorem exists_ofPack_iff : (∃ i, ofPack p = .ok i) ↔
    (p.scenes.map (·.id)).Nodup ∧ (p.scripts.map (·.id)).Nodup ∧
      ((p.scripts.flatMap (·.nodes)).map (·.id)).Nodup := by
  rw [← (answers_of_scenes p.scenes).1]
  constructor
  · rintro ⟨i, h⟩
    obtain ⟨j, hj, hi⟩ := exists_scenes_of_ofPack h
    exact ⟨⟨j, hj⟩, (answers_of_scripts ((answers_of_scenes p.scenes).2 j hj) _).1.mp ⟨i, hi⟩⟩
  · rintro ⟨⟨j, hj⟩, hscripts⟩
    obtain ⟨i, hi⟩ :=
      (answers_of_scripts ((answers_of_scenes p.scenes).2 j hj) p.scripts).1.mpr hscripts
    refine ⟨i, ?_⟩
    rw [ofPack, hj]
    exact hi

/-! ## What is found -/

/-- The node of a script is found under its id, marked as the script's own; its script is the
indexed one, and finds it under its id unless that is empty. -/
theorem found_of_mem (h : ofPack p = .ok i) {s : Script} (hs : s ∈ p.scripts) {n : DialogNode}
    (hn : n ∈ s.nodes) :
    i.node? n.id = some (n.inScript s.id) ∧ i.scriptOfNode? n.id = some (owned s) ∧
      (n.id ≠ "" → (owned s).node? n.id = some (n.inScript s.id)) := by
  have hfiled := filed_of_ofPack h
  have hscript := script?_of_mem h hs
  have hmem : n.inScript s.id ∈ (owned s).nodes := List.mem_map_of_mem hn
  have hnode : i.node? n.id = some (n.inScript s.id) := (hfiled.node_of_script hscript hmem).1
  refine ⟨hnode, ?_, fun hne => ?_⟩
  · rw [scriptOfNode?, hnode]
    exact hscript
  · rw [hfiled.node?_eq hne hnode hscript]
    exact if_pos rfl

/-- By an id that no node has, no node is found, nor a script of such a node, and no script finds
a node. -/
theorem not_found (h : ofPack p = .ok i) {k : String}
    (hk : ∀ s ∈ p.scripts, ∀ n ∈ s.nodes, n.id ≠ k) :
    i.node? k = none ∧ i.scriptOfNode? k = none ∧
      ∀ scriptId r, i.script? scriptId = some r → r.node? k = none := by
  have hi := answers_of_ofPack h
  have hnone : i.node? k = none := by
    rw [hi.node, find?_eq_none_iff_notMem, ids_owned]
    intro hmem
    obtain ⟨n, hn, hid⟩ := List.mem_map.mp hmem
    obtain ⟨s, hs, hn⟩ := List.mem_flatMap.mp hn
    exact hk s hs n hn hid
  refine ⟨hnone, by rw [scriptOfNode?, hnone, Option.bind_none], fun scriptId r hr => ?_⟩
  cases hn : r.node? k with
  | none => rfl
  | some n =>
    have hfound := ((filed_of_ofPack h).node?_of_node? hr hn).1
    cases hnone.symm.trans hfound

/-- There is an index of a pack exactly if no two of its scenes, no two of its scripts and no two
of its nodes have one id, wherever the nodes are written.  It finds every node as it was written,
but with the script that it was written in, and that script under its own id, with all of its
nodes so marked and in their order.  Each phase starts with the first scene and the first script
of it in the pack.  What is not in the pack is not found. -/
theorem faithful_ofPack (p : Pack) :
    ((∃ i, ofPack p = .ok i) ↔ (p.scenes.map (·.id)).Nodup ∧ (p.scripts.map (·.id)).Nodup ∧
      ((p.scripts.flatMap (·.nodes)).map (·.id)).Nodup) ∧
    ∀ i, ofPack p = .ok i →
      (∀ c ∈ p.scenes, i.scene? c.id = some c) ∧
      (∀ s ∈ p.scripts,
        let tagged (n : DialogNode) : DialogNode := { n with scriptId := some s.id }
        let indexed : Script := { s with nodes := s.nodes.map tagged }
        i.script? s.id = some indexed ∧
        ∀ n ∈ s.nodes, i.node? n.id = some (tagged n) ∧ i.scriptOfNode? n.id = some indexed ∧
          (n.id ≠ "" → indexed.node? n.id = some (tagged n))) ∧
      (∀ ph, i.phaseScene? ph = p.scenes.find? (·.phase = ph) ∧
        i.phaseScript? ph = (p.scripts.find? (·.phase = ph)).bind fun s => i.script? s.id) ∧
      (∀ k, (∀ c ∈ p.scenes, c.id ≠ k) → i.scene? k = none) ∧
      (∀ k, (∀ s ∈ p.scripts, s.id ≠ k) → i.script? k = none) ∧
      ∀ k, (∀ s ∈ p.scripts, ∀ n ∈ s.nodes, n.id ≠ k) →
        i.node? k = none ∧ i.scriptOfNode? k = none ∧
          ∀ scriptId r, i.script? scriptId = some r → r.node? k = none := by
  refine ⟨exists_ofPack_iff, fun i h => ?_⟩
  have hi := answers_of_ofPack h
  refine ⟨fun c hc => scene?_of_mem h hc,
    fun s hs => ⟨script?_of_mem h hs, fun n hn => found_of_mem h hs hn⟩,
    fun ph => ⟨hi.phaseScene ph, ?_⟩, fun k hk => ?_, fun k hk => ?_,
    fun k hk => not_found h hk⟩
  · rw [hi.phaseScript]
    cases hfirst : p.scripts.find? (·.phase = ph) with
    | none => rfl
    | some s => exact (script?_of_mem h (List.mem_of_find?_eq_some hfirst)).symm
  · rw [hi.scene]
    exact List.find?_eq_none.mpr (by simpa using hk)
  · rw [hi.script, Option.map_eq_none_iff]
    exact List.find?_eq_none.mpr (by simpa using hk)

/-- A script with one node, which has the id of the script and was written as another script's. -/
def bellPack : Pack where
  scenes := []
  scripts :=
    [{ id := "bell", phase := .planning, title := "Desk", startNodeId := "bell",
       nodes :=
        [{ id := "bell", speaker := "narrator", text := "Ding.", emotion := none,
           background := none, characterSprite := none, choices := [], next := none,
           effects := [], autoAdvance := false, autoAdvanceDelay := none,
           scriptId := some "hall" }] }]

/-- The node is found as the one of the script that it stands in, and the other script is not
found. -/
theorem faithful_bell :
    ∃ i, ofPack bellPack = .ok i ∧ (i.node? "bell").map (·.scriptId) = some (some "bell") ∧
      (i.scriptOfNode? "bell").map (·.title) = some "Desk" ∧ i.script? "hall" = none := by
  obtain ⟨hindex, hfaithful⟩ := faithful_ofPack bellPack
  obtain ⟨i, hi⟩ := hindex.mpr ⟨by decide, by decide, by decide⟩
  obtain ⟨-, hscripts, -, -, hnone, -⟩ := hfaithful i hi
  obtain ⟨-, hnodes⟩ := hscripts _ (List.mem_singleton_self _)
  obtain ⟨hnode, hscript, -⟩ := hnodes _ (List.mem_singleton_self _)
  refine ⟨i, hi, congrArg _ hnode, congrArg _ hscript, hnone "hall" fun s hs => ?_⟩
  rw [List.mem_singleton.mp hs]
  decide

end Index

end Content

end Storyline
