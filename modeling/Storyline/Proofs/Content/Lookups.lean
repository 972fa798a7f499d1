import Storyline.Proofs.Content.Coherence

/-!
# Look-ups of what was written

The index of a pack finds every scene and every script of the pack under its id, and a node
exactly where it was written: ids of nodes are unique in the whole pack, so a node is found
by its id alone as it is found in its script.

* `Index.Kept`: nothing is lost while records are added;
* `Index.addNodes_eq_ok`: what adding the nodes of a script does to the table of nodes;
* `Index.Filed`: nodes by id are nodes of scripts, and the other way round;
* `Index.scene?_of_mem`, `Index.script?_of_mem`: what was written is found;
* `Index.Filed.node?_eq`: a node is found in the script that it was written in.
-/

namespace Storyline

namespace Table

variable {α : Type}

theorem mem_of_lookup {es : List (String × α)} {name : String} {value : α}
    (h : lookup name es = some value) : (name, value) ∈ es := by
  induction es with
  | nil => cases h
  | cons e es ih =>
    obtain ⟨k, v⟩ := e
    rw [lookup] at h
    split at h
    · rename_i hk
      rw [hk, Option.some_inj.mp h]
      exact List.mem_cons_self ..
    · exact List.mem_cons_of_mem _ (ih h)

/-- A value that is found is one of the values. -/
theorem mem_values_of_get? {t : Table α} {name : String} {value : α}
    (h : t.get? name = some value) : value ∈ t.values :=
  List.mem_map.mpr ⟨(name, value), mem_of_lookup h, rfl⟩

end Table

namespace Content.Index

variable {i j : Index}

/-! ## Adding records -/

/-- Scenes and scripts that one index finds are found by the other. -/
structure Kept (i j : Index) : Prop where
  scene : ∀ {k c}, i.scene? k = some c → j.scene? k = some c
  script : ∀ {k s}, i.script? k = some s → j.script? k = some s

theorem Kept.refl (i : Index) : i.Kept i := ⟨id, id⟩

theorem Kept.trans {k : Index} (h : i.Kept j) (h' : j.Kept k) : i.Kept k :=
  ⟨fun hc => h'.scene (h.scene hc), fun hs => h'.script (h.script hs)⟩

theorem kept_addScene {c : Scene} (h : i.addScene c = .ok j) : i.Kept j := by
  obtain ⟨hfree, rfl⟩ := addScene_eq_ok h
  exact ⟨fun hc => get?_insert_of_free hfree hc, id⟩

theorem kept_addScript {s : Script} (h : i.addScript s = .ok j) : i.Kept j := by
  obtain ⟨hfree, nodes, -, rfl⟩ := addScript_eq_ok h
  exact ⟨id, fun hs => get?_insert_of_free hfree hs⟩

theorem scene?_of_addScene {c : Scene} (h : i.addScene c = .ok j) : j.scene? c.id = some c := by
  obtain ⟨-, rfl⟩ := addScene_eq_ok h
  exact Table.get?_insert_self ..

theorem script?_of_addScript {s : Script} (h : i.addScript s = .ok j) :
    j.script? s.id = some (owned s) := by
  obtain ⟨-, nodes, -, rfl⟩ := addScript_eq_ok h
  exact Table.get?_insert_self ..

/-- Where records are added one after another, each is found at the end that is found once it
was added and that is kept. -/
theorem forall_of_foldlM {ε α β : Type} {f : β → α → Except ε β} {P : β → β → Prop}
    {Q : α → β → Prop} (hrefl : ∀ b, P b b) (htrans : ∀ {a b c}, P a b → P b c → P a c)
    (hstep : ∀ a b b', f b a = .ok b' → P b b' ∧ Q a b')
    (hkeep : ∀ a b b', P b b' → Q a b → Q a b') :
    ∀ {l : List α} {b b' : β}, l.foldlM f b = .ok b' → P b b' ∧ ∀ a ∈ l, Q a b'
  | [], b, b', h => by
    rw [List.foldlM_nil] at h
    have hbb : b = b' := by injection h
    rw [hbb]
    exact ⟨hrefl b', List.forall_mem_nil _⟩
  | a :: l, b, b', h => by
    rw [List.foldlM_cons] at h
    cases hm : f b a with
    | error e =>
      rw [hm] at h
      cases h
    | ok m =>
      rw [hm] at h
      obtain ⟨hfirst, hadded⟩ := hstep a b m hm
      obtain ⟨hrest, hall⟩ := forall_of_foldlM hrefl htrans hstep hkeep (l := l) h
      refine ⟨htrans hfirst hrest, fun x hx => ?_⟩
      rcases List.mem_cons.mp hx with rfl | hx
      · exact hkeep _ _ _ hrest hadded
      · exact hall x hx

theorem scenes_of_foldlM {cs : List Scene} (h : cs.foldlM addScene i = .ok j) :
    i.Kept j ∧ ∀ c ∈ cs, j.scene? c.id = some c :=
  forall_of_foldlM (Q := fun c b => b.scene? c.id = some c) Kept.refl Kept.trans
    (fun _ _ _ h => ⟨kept_addScene h, scene?_of_addScene h⟩)
    (fun _ _ _ hkept hfound => hkept.scene hfound) h

theorem scripts_of_foldlM {ss : List Script} (h : ss.foldlM addScript i = .ok j) :
    i.Kept j ∧ ∀ s ∈ ss, j.script? s.id = some (owned s) :=
  forall_of_foldlM (Q := fun s b => b.script? s.id = some (owned s)) Kept.refl Kept.trans
    (fun _ _ _ h => ⟨kept_addScript h, script?_of_addScript h⟩)
    (fun _ _ _ hkept hfound => hkept.script hfound) h

/-- A scene of the pack is found under its id. -/
theorem scene?_of_mem {p : Pack} (h : ofPack p = .ok i) {c : Scene} (hc : c ∈ p.scenes) :
    i.scene? c.id = some c := by
  obtain ⟨j, hj, hi⟩ := exists_scenes_of_ofPack h
  exact (scripts_of_foldlM hi).1.scene ((scenes_of_foldlM hj).2 c hc)

/-- A script of the pack is found under its id, with its nodes marked. -/
theorem script?_of_mem {p : Pack} (h : ofPack p = .ok i) {s : Script} (hs : s ∈ p.scripts) :
    i.script? s.id = some (owned s) := by
  obtain ⟨j, -, hi⟩ := exists_scenes_of_ofPack h
  exact (scripts_of_foldlM hi).2 s hs

/-! ## Nodes -/

/-- Adding the nodes of a script keeps the nodes that are found, finds the new ones under
their ids, and finds nothing else. -/
theorem addNodes_eq_ok {scriptId : String} {ns : List DialogNode} {t u : Table DialogNode}
    (h : addNodes scriptId ns t = .ok u) :
    (∀ k n, t.get? k = some n → u.get? k = some n) ∧
      (∀ n ∈ ns, u.get? n.id = some (n.inScript scriptId)) ∧
      ∀ k n, u.get? k = some n →
        t.get? k = some n ∨ ∃ m ∈ ns, m.id = k ∧ n = m.inScript scriptId := by
  induction ns generalizing t with
  | nil =>
    have htu : t = u := Except.ok.inj h
    rw [htu]
    exact ⟨fun _ _ hn => hn, List.forall_mem_nil _, fun _ _ hn => .inl hn⟩
  | cons m ns ih =>
    rw [addNodes] at h
    split at h
    · cases h
    · rename_i hc
      have hfree : t.get? m.id = none := Table.get?_eq_none_of_not_contains hc
      obtain ⟨hkept, hnew, honly⟩ := ih h
      refine ⟨fun k n hn => hkept k n (get?_insert_of_free hfree hn), fun n hn => ?_,
        fun k n hn => ?_⟩
      · rcases List.mem_cons.mp hn with rfl | hn
        · exact hkept _ _ (Table.get?_insert_self ..)
        · exact hnew n hn
      · rcases honly k n hn with hold | ⟨m', hm', hid, rfl⟩
        · rw [Table.get?_insert] at hold
          split at hold
          · rename_i hk
            exact .inr ⟨m, List.mem_cons_self .., hk.symm, (Option.some_inj.mp hold).symm⟩
          · exact .inl hold
        · exact .inr ⟨m', List.mem_cons_of_mem m hm', hid, rfl⟩

/-- Every node of a script that is found carries the script's id and is found by its own, and
every node that is found by its id is one of the script whose id it carries. -/
structure Filed (i : Index) : Prop where
  node_of_script : ∀ {k s n}, i.script? k = some s → n ∈ s.nodes →
    i.node? n.id = some n ∧ n.scriptId = some k
  script_of_node : ∀ {k n}, i.node? k = some n →
    n.id = k ∧ ∃ s, n.scriptId = some s.id ∧ i.script? s.id = some s ∧ n ∈ s.nodes

theorem filed_empty : Filed empty where
  node_of_script h := by cases h
  script_of_node h := by cases h

theorem filed_addScene {c : Scene} (hi : i.Filed) (h : i.addScene c = .ok j) : j.Filed := by
  obtain ⟨-, rfl⟩ := addScene_eq_ok h
  exact ⟨hi.node_of_script, hi.script_of_node⟩

theorem filed_addScript {r : Script} (hi : i.Filed) (h : i.addScript r = .ok j) : j.Filed := by
  have hkept : i.Kept j := kept_addScript h
  have hadded : j.script? r.id = some (owned r) := script?_of_addScript h
  obtain ⟨hfree, nodes, hnodes, rfl⟩ := addScript_eq_ok h
  obtain ⟨hold, hnew, honly⟩ := addNodes_eq_ok hnodes
  refine ⟨fun {k s n} hk hn => ?_, fun {k n} hk => ?_⟩
  · have hk' : (i.scripts.insert r.id (owned r)).get? k = some s := hk
    rw [Table.get?_insert] at hk'
    split at hk'
    · rename_i hkr
      rw [← Option.some_inj.mp hk'] at hn
      obtain ⟨m, hm, rfl⟩ := List.mem_map.mp hn
      exact ⟨hnew m hm, by rw [hkr]; rfl⟩
    · obtain ⟨hfound, hcarried⟩ := hi.node_of_script hk' hn
      exact ⟨hold _ _ hfound, hcarried⟩
  · rcases honly k n hk with hk | ⟨m, hm, rfl, rfl⟩
    · obtain ⟨hid, s, hscript, hs, hn⟩ := hi.script_of_node hk
      exact ⟨hid, s, hscript, hkept.script hs, hn⟩
    · exact ⟨rfl, owned r, rfl, hadded, List.mem_map_of_mem hm⟩

/-- The nodes in the index of a pack are filed. -/
theorem filed_of_ofPack {p : Pack} (h : ofPack p = .ok i) : i.Filed := by
  obtain ⟨j, hj, hi⟩ := exists_scenes_of_ofPack h
  have hscenes : j.Filed :=
    foldlM_induction (fun _ _ _ _ hb hs => filed_addScene hb hs) hj filed_empty
  exact foldlM_induction (fun _ _ _ _ hb hs => filed_addScript hb hs) hi hscenes

/-- The node of an id in a script is the node of that id, and carries the script's. -/
theorem Filed.node?_of_node? (hi : i.Filed) {k nodeId : String} {s : Script} {n : DialogNode}
    (hs : i.script? k = some s) (hn : s.node? nodeId = some n) :
    i.node? nodeId = some n ∧ n.scriptId = some k := by
  have hfound := hi.node_of_script hs (Script.mem_of_node? hn)
  rwa [Script.id_of_node? hn] at hfound

/-- A node of a nonempty id is found in the script that it was written in; in any other
script there is no node of that id. -/
theorem Filed.node?_eq (hi : i.Filed) {nodeId : String} (hne : nodeId ≠ "") {n : DialogNode}
    (hn : i.node? nodeId = some n) {k : String} {s : Script} (hs : i.script? k = some s) :
    s.node? nodeId = if n.scriptId = some k then some n else none := by
  have honly : ∀ m, s.node? nodeId = some m → m = n ∧ n.scriptId = some k := by
    intro m hm
    obtain ⟨hfound, hcarried⟩ := hi.node?_of_node? hs hm
    rw [hn] at hfound
    rw [← Option.some_inj.mp hfound] at hcarried ⊢
    exact ⟨rfl, hcarried⟩
  split
  · rename_i hk
    obtain ⟨hid, r, hscript, hr, hmem⟩ := hi.script_of_node hn
    have hrk : r.id = k := Option.some_inj.mp (hscript.symm.trans hk)
    have hrs : r = s := Option.some_inj.mp (hr.symm.trans (by rw [hrk, hs]))
    rw [hrs] at hmem
    obtain ⟨m, hm⟩ : ∃ m, s.nodes.find? (·.id = nodeId) = some m :=
      Option.isSome_iff_exists.mp (List.find?_isSome.mpr ⟨n, hmem, by simpa using hid⟩)
    have hfound : s.node? nodeId = some m := by rw [Script.node?, if_neg hne, hm]
    rw [hfound, (honly m hfound).1]
  · rename_i hk
    cases hm : s.node? nodeId with
    | none => rfl
    | some m => exact absurd (honly m hm).2 hk

end Content.Index

end Storyline
