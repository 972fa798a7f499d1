import Storyline.Content.Index

/-!
# Look-ups that agree with each other

An index keeps scenes and scripts by id and once more by phase.  The index of a pack
keeps the same record in both places, under the record's own id.

* `Index.Coherent`: what the look-ups by id and by phase say about each other;
* `Index.coherent_of_ofPack`: the index of a pack is coherent;
* `Index.exists_of_script?`: a script that is found was written in the pack.
-/

namespace Storyline

namespace Table

variable {α : Type}

/-- What is found after an insertion. -/
theorem get?_insert (t : Table α) (name other : String) (value : α) :
    (t.insert name value).get? other = if other = name then some value else t.get? other := by
  by_cases h : other = name
  · rw [if_pos h, h, get?_insert_self]
  · rw [if_neg h, get?_insert_of_ne t h]

/-- A value found after an insertion that replaces nothing is an old one or the new one. -/
theorem get?_insertIfNew_eq_some {t : Table α} {name other : String} {value found : α}
    (h : (t.insertIfNew name value).get? other = some found) :
    t.get? other = some found ∨ found = value := by
  unfold insertIfNew at h
  split at h
  · exact Or.inl h
  · rw [get?_insert] at h
    split at h
    · exact Or.inr (Option.some_inj.mp h).symm
    · exact Or.inl h

theorem get?_eq_none_of_not_contains {t : Table α} {name : String}
    (h : ¬ t.contains name = true) : t.get? name = none := by
  simpa [contains] using h

end Table

namespace Content

/-- What every step of a fold that may fail keeps, the fold keeps. -/
theorem foldlM_induction {ε α β : Type} {f : β → α → Except ε β} {P : β → Prop} :
    ∀ {l : List α}, (∀ a ∈ l, ∀ b b', P b → f b a = .ok b' → P b') →
      ∀ {b b' : β}, l.foldlM f b = .ok b' → P b → P b'
  | [], _, b, b', h, hb => by
    rw [List.foldlM_nil] at h
    have hbb : b = b' := by injection h
    exact hbb ▸ hb
  | a :: l, hstep, b, b', h, hb => by
    rw [List.foldlM_cons] at h
    cases hm : f b a with
    | error e =>
      rw [hm] at h
      cases h
    | ok m =>
      rw [hm] at h
      have hP : P m := hstep a (List.mem_cons_self ..) b m hb hm
      exact foldlM_induction (fun x hx => hstep x (List.mem_cons_of_mem a hx)) h hP

namespace Index

/-- Every record is found under its own id, and what is found by phase is found by
id. -/
structure Coherent (i : Index) : Prop where
  id_of_scene : ∀ {k s}, i.scene? k = some s → s.id = k
  id_of_script : ∀ {k s}, i.script? k = some s → s.id = k
  scene_of_phase : ∀ {p s}, i.phaseScene? p = some s → i.scene? s.id = some s
  script_of_phase : ∀ {p s}, i.phaseScript? p = some s → i.script? s.id = some s

theorem coherent_empty : Coherent empty where
  id_of_scene h := by cases h
  id_of_script h := by cases h
  scene_of_phase h := by cases h
  script_of_phase h := by cases h

/-- A record found by id is still found when another one is added under an id that was
free. -/
theorem get?_insert_of_free {α : Type} {t : Table α} {name other : String} {value found : α}
    (hfree : t.get? name = none) (h : t.get? other = some found) :
    (t.insert name value).get? other = some found := by
  have hne : other ≠ name := by
    rintro rfl
    rw [hfree] at h
    cases h
  rw [Table.get?_insert_of_ne t hne, h]

/-- What it takes to add a scene, and what is then in the index. -/
theorem addScene_eq_ok {i j : Index} {s : Scene} (h : i.addScene s = .ok j) :
    i.scenes.get? s.id = none ∧
      j = { i with
        scenes := i.scenes.insert s.id s
        phaseScenes := i.phaseScenes.insertIfNew s.phase.name s } := by
  unfold addScene at h
  split at h
  · cases h
  · rename_i hc
    injection h with h
    exact ⟨Table.get?_eq_none_of_not_contains hc, h.symm⟩

/-- What it takes to add a script, and what is then in the index. -/
theorem addScript_eq_ok {i j : Index} {s : Script} (h : i.addScript s = .ok j) :
    i.scripts.get? s.id = none ∧
      ∃ nodes, addNodes s.id s.nodes i.nodes = .ok nodes ∧ j = { i with
        nodes := nodes
        scripts := i.scripts.insert s.id (owned s)
        phaseScripts := i.phaseScripts.insertIfNew s.phase.name (owned s) } := by
  unfold addScript at h
  split at h
  · cases h
  · rename_i hc
    cases hn : addNodes s.id s.nodes i.nodes with
    | error e =>
      rw [hn] at h
      cases h
    | ok nodes =>
      rw [hn] at h
      injection h with h
      exact ⟨Table.get?_eq_none_of_not_contains hc, nodes, rfl, h.symm⟩

theorem coherent_addScene {i j : Index} {s : Scene} (hi : Coherent i)
    (h : i.addScene s = .ok j) : Coherent j := by
  obtain ⟨hfree, rfl⟩ := addScene_eq_ok h
  refine ⟨fun {k x} hk => ?_, hi.id_of_script, fun {p x} hp => ?_, hi.script_of_phase⟩
  · have hk' : (i.scenes.insert s.id s).get? k = some x := hk
    rw [Table.get?_insert] at hk'
    split at hk'
    · rename_i hks
      rw [← Option.some_inj.mp hk', hks]
    · exact hi.id_of_scene hk'
  · show (i.scenes.insert s.id s).get? x.id = some x
    rcases Table.get?_insertIfNew_eq_some hp with hold | rfl
    · exact get?_insert_of_free hfree (hi.scene_of_phase hold)
    · exact Table.get?_insert_self ..

theorem coherent_addScript {i j : Index} {s : Script} (hi : Coherent i)
    (h : i.addScript s = .ok j) : Coherent j := by
  obtain ⟨hfree, nodes, -, rfl⟩ := addScript_eq_ok h
  refine ⟨hi.id_of_scene, fun {k x} hk => ?_, hi.scene_of_phase, fun {p x} hp => ?_⟩
  · have hk' : (i.scripts.insert s.id (owned s)).get? k = some x := hk
    rw [Table.get?_insert] at hk'
    split at hk'
    · rename_i hks
      rw [← Option.some_inj.mp hk', hks]
      rfl
    · exact hi.id_of_script hk'
  · show (i.scripts.insert s.id (owned s)).get? x.id = some x
    rcases Table.get?_insertIfNew_eq_some hp with hold | rfl
    · exact get?_insert_of_free hfree (hi.script_of_phase hold)
    · exact Table.get?_insert_self ..

/-- The index of a pack is built from the empty one, scenes first. -/
theorem exists_scenes_of_ofPack {p : Pack} {i : Index} (h : ofPack p = .ok i) :
    ∃ j, p.scenes.foldlM addScene empty = .ok j ∧ p.scripts.foldlM addScript j = .ok i := by
  unfold ofPack at h
  cases hj : p.scenes.foldlM addScene empty with
  | error e =>
    rw [hj] at h
    cases h
  | ok j =>
    rw [hj] at h
    exact ⟨j, rfl, h⟩

/-- The index of a pack is coherent. -/
theorem coherent_of_ofPack {p : Pack} {i : Index} (h : ofPack p = .ok i) : Coherent i := by
  obtain ⟨j, hj, hi⟩ := exists_scenes_of_ofPack h
  have hcj : Coherent j :=
    foldlM_induction (fun _ _ _ _ hb hs => coherent_addScene hb hs) hj coherent_empty
  exact foldlM_induction (fun _ _ _ _ hb hs => coherent_addScript hb hs) hi hcj

/-- A script that is found in the index of a pack was written in the pack. -/
theorem exists_of_script? {p : Pack} {i : Index} (h : ofPack p = .ok i) {k : String}
    {s : Script} (hs : i.script? k = some s) : ∃ s₀ ∈ p.scripts, s = owned s₀ := by
  obtain ⟨j, hj, hi⟩ := exists_scenes_of_ofPack h
  have hempty : j.scripts = ∅ := by
    refine foldlM_induction (P := fun b => b.scripts = ∅) ?_ hj rfl
    intro a _ b b' hb hstep
    rw [(addScene_eq_ok hstep).2]
    exact hb
  have hwritten : ∀ k s, i.script? k = some s → ∃ s₀ ∈ p.scripts, s = owned s₀ := by
    refine foldlM_induction
      (P := fun b => ∀ k s, b.script? k = some s → ∃ s₀ ∈ p.scripts, s = owned s₀) ?_ hi ?_
    · intro a ha b b' hb hstep k s hk
      obtain ⟨-, nodes, -, rfl⟩ := addScript_eq_ok hstep
      have hk' : (b.scripts.insert a.id (owned a)).get? k = some s := hk
      rw [Table.get?_insert] at hk'
      split at hk'
      · exact ⟨a, ha, (Option.some_inj.mp hk').symm⟩
      · exact hb k s hk'
    · intro k s hk
      rw [script?, hempty] at hk
      cases hk
  exact hwritten k s hs

end Index

end Content

end Storyline
