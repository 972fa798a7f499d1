import Storyline.Action
import Storyline.Content.Index
import Storyline.Proofs.Schema.Fields

/-!
# Valid records

What the readers of records ensure: phases are among the seven, no quantity is negative,
and every removal takes something.

* `Phase.Known`, `Memory.Valid`, `Item.Valid`, `Effect.Valid`, `Save.Valid`,
  `DialogNode.Valid`, `Action.Valid`: what is ensured;
* `valid_of_read` of each: what was read is valid;
* `Content.Pack.scripts_of_read`: so are the nodes of the scripts in a pack.
-/

namespace Storyline

open Schema

/-! ## Phases and memories -/

/-- The phase is one of the seven. -/
def Phase.Known (p : Phase) : Prop := Phase.ofName? p.name = some p

theorem Phase.known_planning : Phase.planning.Known := by
  rw [Phase.Known]
  decide

theorem Phase.known_of_ofName? {name : String} {p : Phase} (h : Phase.ofName? name = some p) :
    p.Known := by
  rw [Phase.Known, Phase.name_of_ofName? h, h]

theorem Phase.known_of_read {v : Json} {p : Phase} (h : Phase.read v = .good p) : p.Known := by
  unfold Phase.read oneOf at h
  split at h
  · split at h
    · rename_i hname
      rw [← Checked.good.inj h]
      exact Phase.known_of_ofName? hname
    · cases h
  · cases h

/-- The phase of a memory is one of the seven, if it has one. -/
def Memory.Valid (m : Memory) : Prop := ∀ p ∈ m.phase, p.Known

theorem Memory.phase_of_read {ms : Json.Members} {m : Memory}
    (h : Memory.read (.obj ms) = .good m) : orNone "phase" Phase.read ms = .good m.phase := by
  rw [Memory.read, ofRecord, Checked.eq_good_iff] at h
  simp only [Checked.exists_seq_eq_good, Checked.exists_map_eq_good] at h
  obtain ⟨_, hphase, _, -, _, -, _, -, _, -, _, -, _, -, rfl⟩ := h
  exact hphase

theorem Memory.valid_of_read {v : Json} {m : Memory} (h : Memory.read v = .good m) : m.Valid := by
  obtain ⟨ms, rfl, -⟩ := ofRecord_eq_good h
  intro p hp
  rcases withDefault_eq_good (Memory.phase_of_read h) with hnone | ⟨v, -, hv⟩
  · rw [hnone] at hp
    cases hp
  · rcases nullable_eq_good hv with hnone | ⟨q, hq, hread⟩
    · rw [hnone] at hp
      cases hp
    · rw [hq] at hp
      rw [← Option.some_inj.mp hp]
      exact Phase.known_of_read hread

/-! ## Items and effects -/

/-- What an effect itself is about is valid; the item that it adds is left out. -/
def Effect.Sound : Effect → Prop
  | .removeItem _ quantity => 1 ≤ quantity
  | .addMemory memory => memory.Valid
  | .changePhase phase => phase.Known
  | _ => True

/-- No quantity is negative, in the item and in the items that its effects add. -/
inductive Item.Valid : Item → Prop
  | intro {i : Item} (quantity : 0 ≤ i.quantity) (sound : ∀ e ∈ i.useEffects, e.Sound)
    (nested : ∀ e ∈ i.useEffects, ∀ j, e = .addItem j → Item.Valid j) : Item.Valid i

/-- The effect and the item that it adds are valid. -/
def Effect.Valid (e : Effect) : Prop := e.Sound ∧ ∀ j, e = .addItem j → j.Valid

theorem Item.valid_iff {i : Item} :
    i.Valid ↔ 0 ≤ i.quantity ∧ ∀ e ∈ i.useEffects, e.Valid := by
  constructor
  · rintro ⟨hquantity, hsound, hnested⟩
    exact ⟨hquantity, fun e he => ⟨hsound e he, hnested e he⟩⟩
  · rintro ⟨hquantity, heffects⟩
    exact ⟨hquantity, fun e he => (heffects e he).1, fun e he => (heffects e he).2⟩

theorem integerAtLeast_le {low n : Int} {v : Json} (h : integerAtLeast low v = .good n) :
    low ≤ n := by
  obtain ⟨m, -, hm⟩ := andThen_eq_good h
  split at hm
  · rename_i hle
    rw [← Checked.good.inj hm]
    exact hle
  · cases hm

/-- The fields of an item that are bounded. -/
theorem Item.fields_of_read {readEffect : Reader Effect} {ms : Json.Members} {i : Item}
    (h : Item.readMembers readEffect ms = .good i) :
    withDefault "quantity" 1 (integerAtLeast 0) ms = .good i.quantity ∧
      withDefault "use_effects" [] (list readEffect) ms = .good i.useEffects := by
  rw [Item.readMembers, Checked.eq_good_iff] at h
  simp only [Checked.exists_seq_eq_good, Checked.exists_map_eq_good] at h
  obtain ⟨_, heffects, _, -, _, hquantity, _, -, _, -, _, -, _, -, _, -, rfl⟩ := h
  exact ⟨hquantity, heffects⟩

/-- Items of a field with no items by default were read. -/
theorem exists_read_of_mem_field {α : Type} {read : Reader α} {name : String}
    {ms : Json.Members} {as : List α} (h : withDefault name [] (list read) ms = .good as) {a : α}
    (ha : a ∈ as) : ∃ v, read v = .good a := by
  rcases withDefault_eq_good h with rfl | ⟨v, -, hv⟩
  · cases ha
  · exact exists_read_of_mem hv ha

/-- The payload that was read. -/
theorem exists_read_of_inPayload {α : Type} {mayBeAbsent : Bool}
    {read : Json.Members → Checked α} {ms : Json.Members} {a : α}
    (h : inPayload mayBeAbsent read ms = .good a) : ∃ ps, read ps = .good a := by
  unfold inPayload at h
  split at h
  · obtain ⟨ps, -, hps⟩ := ofRecord_eq_good (Checked.under_eq_good.mp h)
    exact ⟨ps, hps⟩
  · split at h
    · exact ⟨[], h⟩
    · cases h

theorem removal_le {ms : Json.Members} {r : String × Int} (h : removal ms = .good r) :
    1 ≤ r.2 := by
  obtain ⟨g, n, hg, hn, rfl⟩ := Checked.seq_eq_good.mp h
  obtain ⟨itemId, -, rfl⟩ := Checked.map_eq_good.mp hg
  rcases withDefault_eq_good hn with rfl | ⟨v, -, hv⟩
  · exact Int.le_refl 1
  · exact integerAtLeast_le hv

theorem Effect.valid_of_readWith {readItem : Reader Item}
    (hitem : ∀ v j, readItem v = .good j → j.Valid) {v : Json} {e : Effect}
    (h : Effect.readWith readItem v = .good e) : e.Valid := by
  obtain ⟨ms, tag, readMembers, -, -, hkind, hms⟩ := tagged_eq_good h
  obtain ⟨readPayload, hpayload, rfl⟩ := Option.map_eq_some_iff.mp hkind
  obtain ⟨ps, hps⟩ := exists_read_of_inPayload hms
  unfold Effect.readPayload? at hpayload
  split at hpayload <;> cases hpayload
  case h_1 =>
    obtain ⟨_, -, rfl⟩ := Checked.map_eq_good.mp hps
    exact ⟨trivial, nofun⟩
  case h_2 =>
    obtain ⟨j, hj, rfl⟩ := Checked.map_eq_good.mp hps
    obtain ⟨w, -, hw⟩ := required_eq_good.mp hj
    refine ⟨trivial, fun i hi => ?_⟩
    cases hi
    exact hitem w j hw
  case h_3 =>
    obtain ⟨r, hr, rfl⟩ := Checked.map_eq_good.mp hps
    exact ⟨removal_le hr, nofun⟩
  case h_4 =>
    obtain ⟨m, hm, rfl⟩ := Checked.map_eq_good.mp hps
    obtain ⟨w, -, hw⟩ := required_eq_good.mp hm
    exact ⟨Memory.valid_of_read hw, nofun⟩
  case h_5 =>
    obtain ⟨_, -, rfl⟩ := Checked.map_eq_good.mp hps
    exact ⟨trivial, nofun⟩
  case h_6 =>
    obtain ⟨_, -, rfl⟩ := Checked.map_eq_good.mp hps
    exact ⟨trivial, nofun⟩
  case h_7 =>
    obtain ⟨p, hp, rfl⟩ := Checked.map_eq_good.mp hps
    obtain ⟨w, -, hw⟩ := required_eq_good.mp hp
    exact ⟨Phase.known_of_read hw, nofun⟩
  case h_8 =>
    obtain ⟨_, -, rfl⟩ := Checked.map_eq_good.mp hps
    exact ⟨trivial, nofun⟩
  case h_9 =>
    obtain ⟨g, _, hg, -, rfl⟩ := Checked.seq_eq_good.mp hps
    obtain ⟨_, -, rfl⟩ := Checked.map_eq_good.mp hg
    exact ⟨trivial, nofun⟩

theorem Item.valid_of_readWithin {fuel : Nat} {v : Json} {i : Item}
    (h : Item.readWithin fuel v = .good i) : i.Valid := by
  induction fuel generalizing v i with
  | zero => cases h
  | succ n ih =>
    obtain ⟨ms, -, hms⟩ := ofRecord_eq_good h
    obtain ⟨hquantity, heffects⟩ := Item.fields_of_read hms
    refine Item.valid_iff.mpr ⟨?_, fun e he => ?_⟩
    · rcases withDefault_eq_good hquantity with hone | ⟨w, -, hw⟩
      · rw [hone]
        decide
      · exact integerAtLeast_le hw
    · obtain ⟨w, hw⟩ := exists_read_of_mem_field heffects he
      exact Effect.valid_of_readWith (fun v j hj => ih hj) hw

theorem Item.valid_of_read {v : Json} {i : Item} (h : Item.read v = .good i) : i.Valid :=
  Item.valid_of_readWithin h

theorem Effect.valid_of_read {v : Json} {e : Effect} (h : Effect.read v = .good e) : e.Valid :=
  Effect.valid_of_readWith (fun _ _ hj => Item.valid_of_readWithin hj) h

/-! ## Saves -/

/-- The save is of the present layout, and its phase, items and memories are valid. -/
structure Save.Valid (s : Save) : Prop where
  version : s.version = Save.currentVersion
  phase : s.currentPhase.Known
  inventory : ∀ i ∈ s.inventory, i.Valid
  memories : ∀ m ∈ s.memories, m.Valid

/-- The fields of a save that are bounded, or that hold doubles. -/
theorem Save.fields_of_read {ms : Json.Members} {s : Save} (h : Save.read (.obj ms) = .good s) :
    withDefault "version" Save.currentVersion integer ms = .good s.version ∧
      required "current_phase" Phase.read ms = .good s.currentPhase ∧
      withDefault "inventory" [] (list Item.read) ms = .good s.inventory ∧
      withDefault "memories" [] (list Memory.read) ms = .good s.memories ∧
      withDefault "flags" ∅ Flags.read ms = .good s.flags ∧
      withDefault "play_time" 0.0 number ms = .good s.playTime := by
  rw [Save.read, ofRecord, Checked.eq_good_iff] at h
  simp only [Checked.exists_seq_eq_good, Checked.exists_map_eq_good] at h
  obtain ⟨_, htime, _, hflags, _, -, _, hmemories, _, hinventory, _, -, _, -, _, -, _, -, _, hphase,
    _, -, _, -, _, -, _, -, _, -, _, hversion, _, -, rfl⟩ := h
  exact ⟨hversion, hphase, hinventory, hmemories, hflags, htime⟩

/-- A save that was read is valid if it is of the present layout. -/
theorem Save.valid_of_read {v : Json} {s : Save} (h : Save.read v = .good s)
    (hversion : s.version = Save.currentVersion) : s.Valid := by
  obtain ⟨ms, rfl, -⟩ := ofRecord_eq_good h
  obtain ⟨-, hphase, hinventory, hmemories, -, -⟩ := Save.fields_of_read h
  obtain ⟨w, -, hw⟩ := required_eq_good.mp hphase
  refine ⟨hversion, Phase.known_of_read hw, fun i hi => ?_, fun m hm => ?_⟩
  · obtain ⟨w, hw⟩ := exists_read_of_mem_field hinventory hi
    exact Item.valid_of_read hw
  · obtain ⟨w, hw⟩ := exists_read_of_mem_field hmemories hm
    exact Memory.valid_of_read hw

/-! ## Content -/

/-- The effects of a node and of its choices are valid. -/
structure DialogNode.Valid (n : DialogNode) : Prop where
  effects : ∀ e ∈ n.effects, e.Valid
  choices : ∀ c ∈ n.choices, ∀ e ∈ c.effects, e.Valid

theorem Choice.effects_of_read {v : Json} {c : Choice} (h : Choice.read v = .good c) :
    ∀ e ∈ c.effects, e.Valid := by
  obtain ⟨ms, -, h⟩ := ofRecord_eq_good h
  rw [Checked.eq_good_iff] at h
  simp only [Checked.exists_seq_eq_good, Checked.exists_map_eq_good] at h
  obtain ⟨_, heffects, _, -, _, -, _, -, _, -, rfl⟩ := h
  intro e he
  obtain ⟨w, hw⟩ := exists_read_of_mem_field heffects he
  exact Effect.valid_of_read hw

theorem DialogNode.valid_of_read {v : Json} {n : DialogNode} (h : DialogNode.read v = .good n) :
    n.Valid := by
  obtain ⟨ms, -, h⟩ := ofRecord_eq_good h
  rw [Checked.eq_good_iff] at h
  simp only [Checked.exists_seq_eq_good, Checked.exists_map_eq_good] at h
  obtain ⟨_, -, _, -, _, -, _, heffects, _, -, _, hchoices, _, -, _, -, _, -, _, -, _, -, _, -,
    rfl⟩ := h
  refine ⟨fun e he => ?_, fun c hc => ?_⟩
  · obtain ⟨w, hw⟩ := exists_read_of_mem_field heffects he
    exact Effect.valid_of_read hw
  · obtain ⟨w, hw⟩ := exists_read_of_mem_field hchoices hc
    exact Choice.effects_of_read hw

theorem Script.nodes_of_read {v : Json} {s : Script} (h : Script.read v = .good s) :
    ∀ n ∈ s.nodes, n.Valid := by
  obtain ⟨ms, -, h⟩ := ofRecord_eq_good h
  rw [Checked.eq_good_iff] at h
  simp only [Checked.exists_seq_eq_good, Checked.exists_map_eq_good] at h
  obtain ⟨_, hnodes, _, -, _, -, _, -, _, -, rfl⟩ := h
  intro n hn
  obtain ⟨w, hw⟩ := exists_read_of_mem_field hnodes hn
  exact DialogNode.valid_of_read hw

namespace Content

theorem Pack.scripts_of_read {v : Json} {p : Pack} (h : Pack.read v = .good p) :
    ∀ s ∈ p.scripts, ∀ n ∈ s.nodes, n.Valid := by
  obtain ⟨ms, -, h⟩ := ofRecord_eq_good h
  rw [Checked.eq_good_iff] at h
  simp only [Checked.exists_seq_eq_good, Checked.exists_map_eq_good] at h
  obtain ⟨_, hscripts, _, -, rfl⟩ := h
  intro s hs
  obtain ⟨w, hw⟩ := exists_read_of_mem_field hscripts hs
  exact Script.nodes_of_read hw

end Content

/-! ## Actions -/

/-- What an action brings is valid. -/
def Action.Valid : Action → Prop
  | .changePhase phase => phase.Known
  | .addItem item => item.Valid
  | .removeItem _ quantity => 1 ≤ quantity
  | .addMemory memory => memory.Valid
  | _ => True

theorem Action.valid_of_read {v : Json} {a : Action} (h : Action.read v = .good a) : a.Valid := by
  obtain ⟨ms, tag, readMembers, -, -, hkind, hms⟩ := tagged_eq_good h
  unfold Action.readKind? at hkind
  split at hkind <;> cases hkind
  case h_3 =>
    obtain ⟨p, hp, rfl⟩ := Checked.map_eq_good.mp hms
    obtain ⟨w, -, hw⟩ := required_eq_good.mp hp
    exact Phase.known_of_read hw
  case h_9 =>
    obtain ⟨i, hi, rfl⟩ := Checked.map_eq_good.mp hms
    obtain ⟨w, -, hw⟩ := required_eq_good.mp hi
    exact Item.valid_of_read hw
  case h_10 =>
    obtain ⟨r, hr, rfl⟩ := Checked.map_eq_good.mp hms
    obtain ⟨w, -, hw⟩ := required_eq_good.mp hr
    obtain ⟨ps, -, hps⟩ := ofRecord_eq_good hw
    exact removal_le hps
  case h_11 =>
    obtain ⟨m, hm, rfl⟩ := Checked.map_eq_good.mp hms
    obtain ⟨w, -, hw⟩ := required_eq_good.mp hm
    exact Memory.valid_of_read hw
  case h_6 | h_8 | h_14 | h_15 | h_16 | h_17 =>
    cases hms
    exact trivial
  all_goals
    obtain ⟨_, -, rfl⟩ := Checked.map_eq_good.mp hms
    exact trivial

end Storyline
