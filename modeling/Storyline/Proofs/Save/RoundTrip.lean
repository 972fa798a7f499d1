import Storyline.Proofs.Json.Doubles
import Storyline.Proofs.Save.Valid

/-!
# Records written and read

A valid record is read back from its own JSON value, and no object in that value names
a member twice.

* `read_toJson` of phases, memories, effects, items, flags, players and saves;
* `distinct_toJson` of each: the members of its objects are distinct.
-/

namespace Storyline

open Schema

/-! ## Valid records are read back -/

theorem Phase.read_toJson {p : Phase} (h : p.Known) : Phase.read p.toJson = .good p := by
  have hname : Phase.ofName? p.name = some p := h
  simp only [Phase.read, Phase.toJson, oneOf, hname]

theorem Memory.read_toJson {m : Memory} (h : m.Valid) : Memory.read m.toJson = .good m := by
  have hphase : nullable Phase.read (m.phase.elim .null Phase.toJson) = .good m.phase := by
    cases hm : m.phase with
    | none => rfl
    | some p =>
      show some <$> Phase.read p.toJson = .good (some p)
      rw [Phase.read_toJson (h p hm)]
      rfl
  simp [Memory.read, Memory.toJson, Memory.members, ofRecord, required, withDefault, orNone,
    Json.Members.get?, hphase]

/-- The record of an item, field by field. -/
theorem Item.toJson_eq (i : Item) :
    i.toJson = .obj [("id", .str i.id), ("name", .str i.name),
      ("description", .str i.description), ("type", .str i.kind.name), ("icon", .str i.icon),
      ("quantity", .int i.quantity), ("usable", .bool i.usable),
      ("use_effects", .arr (i.useEffects.map Effect.toJson))] := by
  cases i
  rw [Item.toJson, Item.members, effectsJson_eq_map]

theorem inPayload_of_get? {α : Type} {mayBeAbsent : Bool} {read : Json.Members → Checked α}
    {kind : String} {payload : Json.Members} {a : α} (h : read payload = .good a) :
    inPayload mayBeAbsent read [("type", .str kind), ("payload", .obj payload)] = .good a := by
  show (read payload).inMember "payload" = .good a
  rw [h, Checked.inMember_good]

theorem integerAtLeast_int {low n : Int} (h : low ≤ n) :
    integerAtLeast low (.int n) = .good n := by
  show (if low ≤ n then Checked.good n else _) = _
  rw [if_pos h]

theorem Effect.readWith_toJson {readItem : Reader Item} {e : Effect} (h : e.Sound)
    (hitem : ∀ j, e = .addItem j → readItem j.toJson = .good j) :
    Effect.readWith readItem e.toJson = .good e := by
  cases e with
  | setFlag key value =>
    refine tagged_of_get? rfl rfl (inPayload_of_get? ?_)
    simp [setting, settingMembers, Effect.payload, required, Json.Members.get?]
  | addItem item =>
    refine tagged_of_get? rfl rfl (inPayload_of_get? ?_)
    have hread : required "item" readItem [("item", .obj item.members)] = .good item :=
      required_of_get? rfl (hitem item rfl)
    simp [Effect.payload, hread]
  | removeItem itemId quantity =>
    refine tagged_of_get? rfl rfl (inPayload_of_get? ?_)
    have hquantity : integerAtLeast 1 (.int quantity) = .good quantity := integerAtLeast_int h
    simp [removal, removalMembers, Effect.payload, required, withDefault, Json.Members.get?,
      hquantity]
  | addMemory memory =>
    refine tagged_of_get? rfl rfl (inPayload_of_get? ?_)
    simp [Effect.payload, required, Json.Members.get?, Memory.read_toJson h]
  | unlockAchievement achievementId =>
    refine tagged_of_get? rfl rfl (inPayload_of_get? ?_)
    simp [Effect.payload, required, Json.Members.get?]
  | changeScene sceneId =>
    refine tagged_of_get? rfl rfl (inPayload_of_get? ?_)
    simp [Effect.payload, required, Json.Members.get?]
  | changePhase phase =>
    refine tagged_of_get? rfl rfl (inPayload_of_get? ?_)
    simp [Effect.payload, required, Json.Members.get?, Phase.read_toJson h]
  | playSound sound =>
    refine tagged_of_get? rfl rfl (inPayload_of_get? ?_)
    simp [Effect.payload, withDefault, Json.Members.get?]
  | shakeScreen intensity duration =>
    refine tagged_of_get? rfl rfl (inPayload_of_get? ?_)
    simp [Effect.payload, withDefault, Json.Members.get?]

theorem Json.depth_lt_of_mem_arr {x : Json} {xs : List Json} (h : x ∈ xs) :
    x.depth < (Json.arr xs).depth := by
  rw [Json.depth, Nat.lt_succ_iff]
  induction xs with
  | nil => cases h
  | cons y ys ih =>
    rw [Json.itemsDepth]
    rcases List.mem_cons.mp h with rfl | h
    · exact Nat.le_max_left ..
    · exact Nat.le_trans (ih h) (Nat.le_max_right ..)

theorem Json.depth_lt_of_mem_obj {m : String × Json} {ms : Json.Members} (h : m ∈ ms) :
    m.2.depth < (Json.obj ms).depth := by
  rw [Json.depth, Nat.lt_succ_iff]
  induction ms with
  | nil => cases h
  | cons n ns ih =>
    rw [Json.membersDepth]
    rcases List.mem_cons.mp h with rfl | h
    · exact Nat.le_max_left ..
    · exact Nat.le_trans (ih h) (Nat.le_max_right ..)

theorem Effect.depth_lt_of_addItem (j : Item) :
    j.toJson.depth + 1 < (Effect.addItem j).toJson.depth := by
  have hpayload : j.toJson.depth < (Json.obj [("item", j.toJson)]).depth :=
    Json.depth_lt_of_mem_obj (m := ("item", j.toJson)) (by simp)
  have hrecord : (Json.obj [("item", j.toJson)]).depth < (Effect.addItem j).toJson.depth :=
    Json.depth_lt_of_mem_obj (m := ("payload", .obj [("item", j.toJson)]))
      (by simp [Effect.payload, Item.toJson])
  omega

/-- Items that the effects of an item add are nested less deeply than the item. -/
theorem Item.depth_lt {i j : Item} (h : .addItem j ∈ i.useEffects) :
    j.toJson.depth < i.toJson.depth := by
  have hrecord := Effect.depth_lt_of_addItem j
  have hlist : (Effect.addItem j).toJson.depth <
      (Json.arr (i.useEffects.map Effect.toJson)).depth :=
    Json.depth_lt_of_mem_arr (List.mem_map_of_mem h)
  have hitem : (Json.arr (i.useEffects.map Effect.toJson)).depth < i.toJson.depth := by
    rw [Item.toJson_eq]
    exact Json.depth_lt_of_mem_obj
      (m := ("use_effects", .arr (i.useEffects.map Effect.toJson))) (by simp)
  omega

theorem Item.readWithin_toJson {i : Item} (h : i.Valid) {fuel : Nat}
    (hfuel : i.toJson.depth < fuel) : Item.readWithin fuel i.toJson = .good i := by
  induction h generalizing fuel with
  | @intro i hquantity hsound _ ih =>
    obtain ⟨fuel, rfl⟩ : ∃ n, fuel = n + 1 := ⟨fuel - 1, by omega⟩
    have heffects : list (Effect.readWith (Item.readWithin fuel))
        (.arr (i.useEffects.map Effect.toJson)) = .good i.useEffects := by
      refine list_map fun e he => Effect.readWith_toJson (hsound e he) fun j hj => ?_
      have hmem : Effect.addItem j ∈ i.useEffects := hj ▸ he
      have hlt := Item.depth_lt hmem
      exact ih e he j hj (by omega)
    have hkind : oneOf ItemKind.ofName? (.str i.kind.name) = .good i.kind := by
      simp only [oneOf, ItemKind.ofName?_name]
    rw [Item.toJson_eq]
    simp [Item.readWithin, Item.readMembers, ofRecord, required, withDefault, Json.Members.get?,
      heffects, hkind, integerAtLeast_int hquantity]
    cases i
    rfl

theorem Item.read_toJson {i : Item} (h : i.Valid) : Item.read i.toJson = .good i :=
  Item.readWithin_toJson h (Nat.lt_succ_self _)

theorem Effect.read_toJson {e : Effect} (h : e.Valid) : Effect.read e.toJson = .good e := by
  refine Effect.readWith_toJson h.1 fun j hj => ?_
  have hlt : j.toJson.depth < e.toJson.depth := by
    rw [hj]
    have hnext := Effect.depth_lt_of_addItem j
    omega
  exact Item.readWithin_toJson (h.2 j hj) (by omega)

/-- A table is what its entries make. -/
theorem Table.ofList_entries {α : Type} (t : Table α) : Table.ofList t.entries = t := by
  have hupdate : ∀ {name : String} {es : List (String × α)} (value : α),
      name ∉ es.map Prod.fst → Table.update name value es = es ++ [(name, value)] := by
    intro name es value h
    induction es with
    | nil => rfl
    | cons e es ih =>
      rw [List.map_cons, List.mem_cons, not_or] at h
      rw [Table.update, if_neg (Ne.symm h.1), ih h.2, List.cons_append]
  have hfold : ∀ (es : List (String × α)) (s : Table α),
      ((s.entries ++ es).map Prod.fst).Nodup →
        (es.foldl (fun t e => t.insert e.1 e.2) s).entries = s.entries ++ es := by
    intro es
    induction es with
    | nil => intro s _; rw [List.foldl_nil, List.append_nil]
    | cons e es ih =>
      intro s hs
      have hnew : e.1 ∉ s.entries.map Prod.fst := by
        rw [List.map_append, List.nodup_append] at hs
        exact fun hmem => hs.2.2 e.1 hmem e.1 (by simp) rfl
      have hinsert : (s.insert e.1 e.2).entries = s.entries ++ [e] := hupdate e.2 hnew
      rw [List.foldl_cons, ih, hinsert, List.append_assoc]
      · rfl
      · rw [hinsert, List.append_assoc]
        exact hs
  exact Table.ext (hfold t.entries Table.empty t.nodup)

theorem Flags.read_toJson (f : Flags) : Flags.read f.toJson = .good f := by
  have hentries : ∀ es : List (String × FlagValue),
      Flags.readEntries (es.map fun e => (e.1, e.2.toJson)) = .good es := by
    intro es
    induction es with
    | nil => rfl
    | cons e es ih =>
      rw [List.map_cons, Flags.readEntries, ih, FlagValue.read_toJson]
      rfl
  show Table.ofList <$> Flags.readEntries _ = _
  rw [hentries, Checked.map_good, Table.ofList_entries]

@[simp] theorem Player.read_toJson (p : Player) : Player.read p.toJson = .good p := by
  simp [Player.read, Player.toJson, ofRecord, required, withDefault, orNone, Json.Members.get?]

/-- A valid save is read back from its record. -/
theorem Save.read_toJson {s : Save} (h : s.Valid) : Save.read s.toJson = .good s := by
  have hinventory : list Item.read (.arr (s.inventory.map Item.toJson)) = .good s.inventory :=
    list_map fun i hi => Item.read_toJson (h.inventory i hi)
  have hmemories : list Memory.read (.arr (s.memories.map Memory.toJson)) = .good s.memories :=
    list_map fun m hm => Memory.read_toJson (h.memories m hm)
  simp [Save.read, Save.toJson, ofRecord, required, withDefault, orNone, Json.Members.get?,
    Phase.read_toJson h.phase, hinventory, hmemories, Flags.read_toJson]

/-! ## No member is named twice -/

namespace Json

theorem distinct_ofOption (o : Option String) : (ofOption o).Distinct := by
  cases o with
  | none => exact .null
  | some s => exact .str s

theorem distinct_texts (ss : List String) : (texts ss).Distinct := by
  refine .arr fun x hx => ?_
  obtain ⟨s, -, rfl⟩ := List.mem_map.mp hx
  exact .str s

theorem distinct_map {α : Type} {write : α → Json} {as : List α}
    (h : ∀ a ∈ as, (write a).Distinct) : (arr (as.map write)).Distinct := by
  refine .arr fun x hx => ?_
  obtain ⟨a, ha, rfl⟩ := List.mem_map.mp hx
  exact h a ha

end Json

open Json

theorem Phase.distinct_toJson (p : Phase) : p.toJson.Distinct := .str _

theorem Memory.distinct_toJson (m : Memory) : m.toJson.Distinct := by
  have hphase : (m.phase.elim .null Phase.toJson).Distinct := by
    cases m.phase with
    | none => exact .null
    | some p => exact p.distinct_toJson
  refine .obj (by simp [Memory.members]) ?_
  simp [Memory.members, Distinct.str, hphase]

theorem FlagValue.distinct_toJson (v : FlagValue) : v.toJson.Distinct := by
  cases v with
  | bool b => exact .bool b
  | int n => exact .int n
  | float x => exact .float x
  | str s => exact .str s

theorem Flags.distinct_toJson (f : Flags) : f.toJson.Distinct := by
  refine .obj ?_ fun m hm => ?_
  · have hnames : (f.entries.map fun e => (e.1, e.2.toJson)).map Prod.fst =
        f.entries.map Prod.fst := by
      rw [List.map_map]
      rfl
    rw [hnames]
    exact f.nodup
  · obtain ⟨e, -, rfl⟩ := List.mem_map.mp hm
    exact e.2.distinct_toJson

theorem Player.distinct_toJson (p : Player) : p.toJson.Distinct := by
  refine .obj (by simp) ?_
  simp [Distinct.str, distinct_ofOption]

theorem distinct_effectRecord {kind : String} {payload : Json.Members}
    (h : (Json.obj payload).Distinct) : (effectRecord kind payload).Distinct := by
  refine .obj (by simp) ?_
  simp [Distinct.str, h]

/-- The record of an effect, if that of an added item is fine. -/
theorem Effect.distinct_toJson_of {e : Effect} (h : ∀ j, e = .addItem j → j.toJson.Distinct) :
    e.toJson.Distinct := by
  refine distinct_effectRecord ?_
  cases e with
  | addItem item =>
    exact .obj (by simp [payload]) (by simpa [payload, Item.toJson] using h item rfl)
  | setFlag key value =>
    refine .obj (by simp [payload, settingMembers]) ?_
    simp [payload, settingMembers, Distinct.str, value.distinct_toJson]
  | removeItem itemId quantity =>
    refine .obj (by simp [payload, removalMembers]) ?_
    simp [payload, removalMembers, Distinct.str, Distinct.int]
  | addMemory memory => exact .obj (by simp [payload]) (by simp [payload, memory.distinct_toJson])
  | unlockAchievement achievementId =>
    exact .obj (by simp [payload]) (by simp [payload, Distinct.str])
  | changeScene sceneId => exact .obj (by simp [payload]) (by simp [payload, Distinct.str])
  | changePhase phase => exact .obj (by simp [payload]) (by simp [payload, phase.distinct_toJson])
  | playSound sound => exact .obj (by simp [payload]) (by simp [payload, Distinct.str])
  | shakeScreen intensity duration =>
    exact .obj (by simp [payload]) (by simp [payload, Distinct.float, Distinct.int])

theorem Item.distinct_toJson {i : Item} (h : i.Valid) : i.toJson.Distinct := by
  induction h with
  | @intro i _ _ _ ih =>
    have heffects : (Json.arr (i.useEffects.map Effect.toJson)).Distinct :=
      distinct_map fun e he => Effect.distinct_toJson_of (ih e he)
    rw [Item.toJson_eq]
    refine .obj (by simp) ?_
    simp [Distinct.str, Distinct.int, Distinct.bool, heffects]

theorem Save.distinct_toJson {s : Save} (h : s.Valid) : s.toJson.Distinct := by
  have hinventory : (Json.arr (s.inventory.map Item.toJson)).Distinct :=
    distinct_map fun i hi => Item.distinct_toJson (h.inventory i hi)
  have hmemories : (Json.arr (s.memories.map Memory.toJson)).Distinct :=
    distinct_map fun m _ => m.distinct_toJson
  refine .obj (by simp) ?_
  simp [Distinct.str, Distinct.int, Distinct.float, distinct_ofOption, distinct_texts,
    Phase.distinct_toJson, Player.distinct_toJson, Flags.distinct_toJson, hinventory, hmemories]

end Storyline
