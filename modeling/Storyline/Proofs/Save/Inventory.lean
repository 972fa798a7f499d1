import Storyline.Effect.Apply
import Storyline.Proofs.Save.Valid
import Mathlib.Data.List.Nodup

/-!
# The inventory under effects

What a list of effects makes of an inventory in which no id stands twice: how much is held
of each item, which entries last, and which ones the effects bring.

* `Save.held`: how much a save holds of an item; `Effect.heldAfter`: what one effect makes
  of that amount;
* `Effect.Counted`: no addition is negative and every removal takes something;
* `Effect.lasts`: an entry is never taken away entirely; `Effect.newcomers`: the entries that
  the effects bring and that last, with `mem_newcomers_iff`;
* `Effect.inventory_change`, `Effect.nodup_change`, `Effect.held_change`: one effect;
* `Effect.inventory_conserved`: the amounts, the order and the fields of the entries after
  any list of effects.
-/

namespace Storyline

/-! ## Amounts -/

/-- The item in another quantity. -/
def Item.inQuantity (i : Item) (n : Int) : Item := { i with quantity := n }

namespace Item

@[simp] theorem id_inQuantity (i : Item) (n : Int) : (i.inQuantity n).id = i.id := rfl

@[simp] theorem quantity_inQuantity (i : Item) (n : Int) : (i.inQuantity n).quantity = n := rfl

@[simp] theorem inQuantity_inQuantity (i : Item) (m n : Int) :
    (i.inQuantity m).inQuantity n = i.inQuantity n := rfl

@[simp] theorem inQuantity_quantity (i : Item) : i.inQuantity i.quantity = i := by
  cases i
  rfl

end Item

namespace Save

variable {s : Save}

/-- How much the save holds of an item. -/
def held (s : Save) (itemId : String) : Int := (s.item? itemId).elim 0 (·.quantity)

/-- The ids in the inventory. -/
def itemIds (s : Save) : List String := s.inventory.map (·.id)

theorem item?_eq_none_iff {itemId : String} : s.item? itemId = none ↔ itemId ∉ s.itemIds := by
  simp [item?, itemIds]

theorem held_of_notMem {itemId : String} (h : itemId ∉ s.itemIds) : s.held itemId = 0 := by
  rw [held, item?_eq_none_iff.mpr h]
  rfl

/-- An entry is what is found under its id. -/
theorem item?_of_mem (hids : s.itemIds.Nodup) {i : Item} (hi : i ∈ s.inventory) :
    s.item? i.id = some i := by
  obtain ⟨j, hj⟩ : ∃ j, s.item? i.id = some j := by
    refine Option.ne_none_iff_exists'.mp fun hnone => ?_
    exact item?_eq_none_iff.mp hnone (List.mem_map_of_mem hi)
  have hid : j.id = i.id := by simpa using List.find?_some hj
  rw [hj, List.inj_on_of_nodup_map hids (List.mem_of_find?_eq_some hj) hi hid]

theorem held_of_mem (hids : s.itemIds.Nodup) {i : Item} (hi : i ∈ s.inventory) :
    s.held i.id = i.quantity := by
  rw [held, item?_of_mem hids hi]
  rfl

theorem held_nonneg (hs : ∀ i ∈ s.inventory, 0 ≤ i.quantity) (itemId : String) :
    0 ≤ s.held itemId := by
  rw [held]
  cases h : s.item? itemId with
  | none => exact Int.le_refl 0
  | some i => exact hs i (List.mem_of_find?_eq_some h)

@[simp] theorem inventory_setFlag (s : Save) (key : String) (value : FlagValue) :
    (s.setFlag key value).inventory = s.inventory := rfl

@[simp] theorem inventory_addMemory (s : Save) (memory : Memory) :
    (s.addMemory memory).inventory = s.inventory := by
  rw [addMemory]
  split <;> rfl

@[simp] theorem inventory_unlockAchievement (s : Save) (achievementId : String) :
    (s.unlockAchievement achievementId).inventory = s.inventory := by
  rw [unlockAchievement]
  split <;> rfl

/-- Every entry lies there in the quantity that is held of its id. -/
theorem map_held_inventory (hids : s.itemIds.Nodup) :
    s.inventory.map (fun i => i.inQuantity (s.held i.id)) = s.inventory := by
  conv_rhs => rw [← List.map_id s.inventory]
  refine List.map_congr_left fun i hi => ?_
  rw [held_of_mem hids hi, Item.inQuantity_quantity, id_eq]

end Save

namespace Effect

variable {s : Save} {e : Effect} {es : List Effect}

/-- No addition is negative, and every removal takes something. -/
def Counted : Effect → Prop
  | .addItem item => 0 ≤ item.quantity
  | .removeItem _ quantity => 1 ≤ quantity
  | _ => True

theorem counted_of_valid (h : e.Valid) : e.Counted := by
  cases e with
  | addItem item => exact (Item.valid_iff.mp (h.2 item rfl)).1
  | removeItem itemId quantity => exact h.1
  | _ => exact trivial

/-- What an effect makes of an amount held of an item: an addition adds to it, and a removal
takes from it what is there. -/
def heldAfter (itemId : String) (q : Int) : Effect → Int
  | .addItem item => if item.id = itemId then q + item.quantity else q
  | .removeItem removed n => if removed = itemId then max (q - n) 0 else q
  | _ => q

/-- The effect takes all that is held of an item. -/
def empties (itemId : String) (q : Int) : Effect → Bool
  | .removeItem removed n => removed = itemId ∧ q ≤ n
  | _ => false

/-- The entry that the effect puts at the end of an inventory, if it adds an item that is not
held. -/
def newcomer? (s : Save) : Effect → Option Item
  | .addItem item => if item.id ∈ s.itemIds then none else some item
  | _ => none

theorem heldAfter_nonneg (he : e.Counted) {q : Int} (hq : 0 ≤ q) (itemId : String) :
    0 ≤ e.heldAfter itemId q := by
  cases e with
  | addItem item =>
    have hadd : 0 ≤ item.quantity := he
    simp only [heldAfter]
    split <;> omega
  | removeItem removed n =>
    simp only [heldAfter]
    split <;> omega
  | _ => exact hq

theorem foldl_heldAfter_nonneg (hes : ∀ e ∈ es, e.Counted) {q : Int} (hq : 0 ≤ q)
    (itemId : String) : 0 ≤ es.foldl (heldAfter itemId) q := by
  induction es generalizing q with
  | nil => exact hq
  | cons e es ih =>
    rw [List.forall_mem_cons] at hes
    exact ih hes.2 (heldAfter_nonneg hes.1 hq itemId)

/-- Nothing is left of an item that is taken entirely. -/
theorem heldAfter_of_empties {itemId : String} {q : Int} (h : e.empties itemId q = true) :
    e.heldAfter itemId q = 0 := by
  cases e with
  | removeItem removed n =>
    obtain ⟨hid, hle⟩ : removed = itemId ∧ q ≤ n := by simpa [empties] using h
    simp only [heldAfter, if_pos hid]
    omega
  | _ => cases h

/-! ## One effect -/

/-- What a removal leaves of an entry. -/
theorem taken_eq_ite (itemId : String) (n : Int) (i : Item) :
    Save.taken itemId n i =
      if !(removeItem itemId n).empties i.id i.quantity then
        some (i.inQuantity ((removeItem itemId n).heldAfter i.id i.quantity))
      else none := by
  by_cases hid : i.id = itemId
  · by_cases hle : i.quantity ≤ n
    · rw [Save.taken, if_neg (not_not.mpr hid), if_neg (by omega), if_neg]
      simp [empties, hid, hle]
    · have hleft : max (i.quantity - n) 0 = i.quantity - n := by omega
      rw [Save.taken, if_neg (not_not.mpr hid), if_pos (by omega), if_pos]
      · simp only [heldAfter, if_pos hid.symm, hleft]
        rfl
      · simp [empties, hle]
  · rw [Save.taken, if_pos hid, if_pos]
    · simp only [heldAfter, if_neg (Ne.symm hid), Item.inQuantity_quantity]
    · simp [empties, Ne.symm hid]

/-- What stacking makes of the entries. -/
theorem stack_eq_append (s : Save) (item : Item) :
    Save.stack s.inventory item =
      s.inventory.map (fun i => i.inQuantity ((addItem item).heldAfter i.id i.quantity)) ++
        ((addItem item).newcomer? s).toList := by
  by_cases hmem : item.id ∈ s.itemIds
  · obtain ⟨j, hj, hid⟩ := List.mem_map.mp hmem
    have hany : s.inventory.any (·.id = item.id) = true :=
      List.any_eq_true.mpr ⟨j, hj, decide_eq_true hid⟩
    rw [Save.stack, if_pos hany, newcomer?, if_pos hmem, Option.toList_none, List.append_nil]
    refine List.map_congr_left fun i _ => ?_
    by_cases hi : i.id = item.id
    · simp only [if_pos hi, heldAfter, if_pos hi.symm]
      rfl
    · simp only [if_neg hi, heldAfter, if_neg (Ne.symm hi), Item.inQuantity_quantity]
  · have hother : ∀ i ∈ s.inventory, i.id ≠ item.id := fun i hi hid =>
      hmem (List.mem_map.mpr ⟨i, hi, hid⟩)
    have hany : ¬s.inventory.any (·.id = item.id) = true := by simpa using hother
    rw [Save.stack, if_neg hany, newcomer?, if_neg hmem, Option.toList_some]
    congr 1
    conv_lhs => rw [← List.map_id s.inventory]
    refine List.map_congr_left fun i hi => ?_
    simp only [heldAfter, if_neg (hother i hi).symm, Item.inQuantity_quantity, id_eq]

/-- An effect takes away the entries that it empties, leaves the others in their order with
what it makes of their quantities, and puts what it brings at the end. -/
theorem inventory_change (e : Effect) (s : Save) :
    (e.change s).inventory =
      (s.inventory.filter fun i => !e.empties i.id i.quantity).map
        (fun i => i.inQuantity (e.heldAfter i.id i.quantity)) ++ (e.newcomer? s).toList := by
  cases e with
  | addItem item =>
    rw [change, Save.inventory_addItem, stack_eq_append]
    simp only [empties, Bool.not_false, List.filter_true]
  | removeItem itemId n =>
    have hnone : (removeItem itemId n).newcomer? s = none := rfl
    rw [change, Save.inventory_removeItem, hnone, Option.toList_none, List.append_nil,
      ← List.filterMap_eq_map, List.filterMap_filter]
    exact List.filterMap_congr fun i _ => taken_eq_ite itemId n i
  | _ => simp [change, empties, heldAfter, newcomer?]

/-- An entry after an effect is one that was there and is not emptied, or the one that the
effect brings. -/
theorem mem_inventory_change {i : Item} :
    i ∈ (e.change s).inventory ↔
      (∃ j ∈ s.inventory, e.empties j.id j.quantity = false ∧
        j.inQuantity (e.heldAfter j.id j.quantity) = i) ∨ e.newcomer? s = some i := by
  simp only [inventory_change, List.mem_append, List.mem_map, List.mem_filter,
    Bool.not_eq_true', and_assoc, Option.mem_toList]

/-- What an effect brings has an id that is not held. -/
theorem newcomer?_eq_some_iff {i : Item} :
    e.newcomer? s = some i ↔ e = .addItem i ∧ i.id ∉ s.itemIds := by
  cases e with
  | addItem item =>
    rw [newcomer?]
    split
    · rename_i hmem
      refine iff_of_false nofun ?_
      rintro ⟨hitem, hnot⟩
      rw [← addItem.inj hitem] at hnot
      exact hnot hmem
    · rename_i hnot
      constructor
      · intro hi
        rw [← Option.some_inj.mp hi]
        exact ⟨rfl, hnot⟩
      · rintro ⟨hitem, -⟩
        rw [addItem.inj hitem]
  | _ => exact iff_of_false nofun nofun

theorem nodup_change (hids : s.itemIds.Nodup) (e : Effect) : (e.change s).itemIds.Nodup := by
  have hkept : (s.inventory.filter fun i => !e.empties i.id i.quantity).map (·.id) |>.Nodup :=
    hids.sublist (List.filter_sublist.map _)
  have hids' : (e.change s).itemIds =
      (s.inventory.filter fun i => !e.empties i.id i.quantity).map (·.id) ++
        (e.newcomer? s).toList.map (·.id) := by
    rw [Save.itemIds, inventory_change, List.map_append, List.map_map]
    rfl
  rw [hids']
  cases hnew : e.newcomer? s with
  | none => rwa [Option.toList_none, List.map_nil, List.append_nil]
  | some i =>
    obtain ⟨-, hnot⟩ := newcomer?_eq_some_iff.mp hnew
    refine List.nodup_append'.mpr ⟨hkept, List.nodup_singleton _, ?_⟩
    refine List.disjoint_singleton.mpr fun hmem => hnot ?_
    exact (List.filter_sublist.map _).subset hmem

/-- Of an id that is not held, an effect leaves something only by bringing it. -/
theorem heldAfter_zero (he : e.Counted) {itemId : String}
    (hnew : ∀ i, e = .addItem i → i.id ≠ itemId) : e.heldAfter itemId 0 = 0 := by
  cases e with
  | addItem item => rw [heldAfter, if_neg (hnew item rfl)]
  | removeItem removed n =>
    have hn : 1 ≤ n := he
    simp only [heldAfter]
    split <;> omega
  | _ => rfl

/-- How much is held after an effect. -/
theorem held_change (hids : s.itemIds.Nodup) (he : e.Counted) (itemId : String) :
    (e.change s).held itemId = e.heldAfter itemId (s.held itemId) := by
  by_cases hmem : itemId ∈ s.itemIds
  · obtain ⟨i, hi, rfl⟩ := List.mem_map.mp hmem
    rw [Save.held_of_mem hids hi]
    cases hempty : e.empties i.id i.quantity with
    | true =>
      -- the entry is gone, and no other has its id
      rw [heldAfter_of_empties hempty]
      refine Save.held_of_notMem fun hin => ?_
      obtain ⟨j, hj, hid⟩ := List.mem_map.mp hin
      rcases mem_inventory_change.mp hj with ⟨k, hk, hleft, rfl⟩ | hnew
      · rw [List.inj_on_of_nodup_map hids hk hi hid, hempty] at hleft
        cases hleft
      · rw [← hid] at hmem
        exact (newcomer?_eq_some_iff.mp hnew).2 hmem
    | false =>
      have hleft : i.inQuantity (e.heldAfter i.id i.quantity) ∈ (e.change s).inventory :=
        mem_inventory_change.mpr (.inl ⟨i, hi, hempty, rfl⟩)
      exact Save.held_of_mem (nodup_change hids e) hleft
  · rw [Save.held_of_notMem hmem]
    by_cases hnew : ∃ i, e = .addItem i ∧ i.id = itemId
    · obtain ⟨i, rfl, rfl⟩ := hnew
      have hbrought : i ∈ ((addItem i).change s).inventory :=
        mem_inventory_change.mpr (.inr (newcomer?_eq_some_iff.mpr ⟨rfl, hmem⟩))
      rw [Save.held_of_mem (nodup_change hids _) hbrought, heldAfter, if_pos rfl, Int.zero_add]
    · have hother : ∀ i, e = .addItem i → i.id ≠ itemId := fun i hi hid => hnew ⟨i, hi, hid⟩
      rw [heldAfter_zero he hother]
      refine Save.held_of_notMem fun hin => ?_
      obtain ⟨j, hj, hid⟩ := List.mem_map.mp hin
      rcases mem_inventory_change.mp hj with ⟨k, hk, -, rfl⟩ | hbrought
      · exact hmem (List.mem_map.mpr ⟨k, hk, hid⟩)
      · exact hother j (newcomer?_eq_some_iff.mp hbrought).1 hid

/-! ## Any list of effects -/

/-- An entry held in quantity `q` is never taken away entirely by the effects. -/
def lasts (itemId : String) (q : Int) : List Effect → Bool
  | [] => true
  | e :: es => !e.empties itemId q && lasts itemId (e.heldAfter itemId q) es

/-- The items that the effects bring as entries of their own and that last to the end, in the
order in which they come. -/
def newcomers (s : Save) : List Effect → List Item
  | [] => []
  | e :: es => (e.newcomer? s).toList.filter (fun i => lasts i.id i.quantity es) ++
      newcomers (e.change s) es

/-- An entry lasts if no removal of its item asks for as much as is held then. -/
theorem lasts_iff {itemId : String} {q : Int} :
    lasts itemId q es = true ↔ ∀ before n after, es = before ++ .removeItem itemId n :: after →
      n < before.foldl (heldAfter itemId) q := by
  induction es generalizing q with
  | nil => exact iff_of_true rfl fun before n after h => by cases before <;> cases h
  | cons e es ih =>
    rw [lasts, Bool.and_eq_true, ih, Bool.not_eq_true']
    constructor
    · rintro ⟨hfirst, hrest⟩ before n after hes
      cases before with
      | nil =>
        rw [List.nil_append] at hes
        rw [(List.cons.inj hes).1] at hfirst
        simpa [empties] using hfirst
      | cons b before =>
        obtain ⟨rfl, rfl⟩ := List.cons.inj hes
        exact hrest before n after rfl
    · intro h
      refine ⟨?_, fun before n after hes => h (e :: before) n after (by rw [hes]; rfl)⟩
      cases e with
      | removeItem removed n =>
        by_cases hid : removed = itemId
        · subst hid
          simpa [empties] using h [] n es rfl
        · simp [empties, hid]
      | _ => rfl

/-- The newcomers are the items that are added while nothing of their id is held, and that
last through the effects after that. -/
theorem mem_newcomers_iff {i : Item} :
    i ∈ newcomers s es ↔ ∃ before after, es = before ++ .addItem i :: after ∧
      i.id ∉ (applyAll s before).1.itemIds ∧ lasts i.id i.quantity after = true := by
  induction es generalizing s with
  | nil => exact iff_of_false nofun fun ⟨before, _, h, _⟩ => by cases before <;> cases h
  | cons e es ih =>
    rw [newcomers, List.mem_append, ih, List.mem_filter, Option.mem_toList,
      newcomer?_eq_some_iff]
    constructor
    · rintro (⟨⟨rfl, hnot⟩, hlasts⟩ | ⟨before, after, rfl, hnot, hlasts⟩)
      · exact ⟨[], es, rfl, hnot, hlasts⟩
      · exact ⟨e :: before, after, rfl, hnot, hlasts⟩
    · rintro ⟨before, after, hes, hnot, hlasts⟩
      cases before with
      | nil =>
        obtain ⟨rfl, rfl⟩ := List.cons.inj hes
        exact .inl ⟨⟨rfl, hnot⟩, hlasts⟩
      | cons b before =>
        obtain ⟨rfl, rfl⟩ := List.cons.inj hes
        exact .inr ⟨before, after, rfl, hnot, hlasts⟩

/-- The entries after an effect that last through further ones. -/
theorem filter_lasts_change (e : Effect) (s : Save) (es : List Effect) :
    (e.change s).inventory.filter (fun i => lasts i.id i.quantity es) =
      (s.inventory.filter fun i => lasts i.id i.quantity (e :: es)).map
          (fun i => i.inQuantity (e.heldAfter i.id i.quantity)) ++
        (e.newcomer? s).toList.filter (fun i => lasts i.id i.quantity es) := by
  rw [inventory_change, List.filter_append, List.filter_map, List.filter_filter]
  congr 3
  funext i
  exact Bool.and_comm _ _

theorem nodup_applyAll (hids : s.itemIds.Nodup) (es : List Effect) :
    (applyAll s es).1.itemIds.Nodup := by
  induction es generalizing s with
  | nil => exact hids
  | cons e es ih => exact ih (nodup_change hids e)

theorem held_applyAll (hids : s.itemIds.Nodup) (hes : ∀ e ∈ es, e.Counted) (itemId : String) :
    (applyAll s es).1.held itemId = es.foldl (heldAfter itemId) (s.held itemId) := by
  induction es generalizing s with
  | nil => rfl
  | cons e es ih =>
    rw [List.forall_mem_cons] at hes
    rw [List.foldl_cons, ← held_change hids hes.1 itemId]
    exact ih (nodup_change hids e) hes.2

/-- The entries after the effects: those that last, then the newcomers. -/
theorem inventory_applyAll (hids : s.itemIds.Nodup) (es : List Effect) :
    (applyAll s es).1.inventory =
      (s.inventory.filter (fun i => lasts i.id i.quantity es) ++ newcomers s es).map
        fun i => i.inQuantity ((applyAll s es).1.held i.id) := by
  induction es generalizing s with
  | nil =>
    simp only [lasts, newcomers, List.filter_true, List.append_nil]
    exact (Save.map_held_inventory hids).symm
  | cons e es ih =>
    have hstep : (applyAll s (e :: es)).1 = (applyAll (e.change s) es).1 := rfl
    rw [hstep, ih (nodup_change hids e), newcomers, filter_lasts_change]
    simp only [List.append_assoc, List.map_append, List.map_map]
    rfl

/-- What effects make of an inventory in which no id stands twice: no id stands twice and no
quantity is negative; of each item as much is held as the effects say one after the other; and
the entries are those that last, in their order, then the newcomers, each with its fields. -/
theorem inventory_conserved (hids : s.itemIds.Nodup) (hes : ∀ e ∈ es, e.Counted) :
    (applyAll s es).1.itemIds.Nodup ∧
      ((∀ i ∈ s.inventory, 0 ≤ i.quantity) → ∀ i ∈ (applyAll s es).1.inventory, 0 ≤ i.quantity) ∧
      (∀ itemId, (applyAll s es).1.held itemId = es.foldl (heldAfter itemId) (s.held itemId)) ∧
      (applyAll s es).1.inventory =
        (s.inventory.filter (fun i => lasts i.id i.quantity es) ++ newcomers s es).map
          fun i => i.inQuantity ((applyAll s es).1.held i.id) := by
  refine ⟨nodup_applyAll hids es, fun hs i hi => ?_, held_applyAll hids hes,
    inventory_applyAll hids es⟩
  rw [← Save.held_of_mem (nodup_applyAll hids es) hi, held_applyAll hids hes]
  exact foldl_heldAfter_nonneg hes (Save.held_nonneg hs _) i.id

/-- A thing to carry, under a name. -/
def luggage (itemId name : String) (quantity : Int) : Item :=
  ⟨itemId, name, "", .document, "", quantity, false, []⟩

/-- A game in which two tickets, a map and a coin are carried. -/
def packedSave : Save where
  id := "ann 1"
  version := 2
  createdAt := "2024-05-01T10:00:00+00:00"
  updatedAt := "2024-05-01T10:05:00+00:00"
  name := none
  thumbnail := none
  player := ⟨"Ann", none⟩
  currentPhase := .planning
  currentSceneId := "gate"
  currentDialogId := none
  currentDialogScriptId := none
  readDialogIds := []
  inventory := [luggage "map" "Map" 1, luggage "ticket" "Ticket" 2, luggage "coin" "Coin" 1]
  memories := []
  achievements := []
  flags := ∅
  playTime := 0.0

/-- The map is handed in and another one bought, tickets are bought and used, more coins are
asked for than there are, and no stamp is given. -/
def errands : List Effect :=
  [.removeItem "map" 1, .addItem (luggage "ticket" "Pass" 3), .addItem (luggage "map" "Plan" 2),
    .removeItem "ticket" 4, .addItem (luggage "map" "Chart" 1), .removeItem "coin" 5,
    .addItem (luggage "stamp" "Stamp" 0)]

/-- After the errands one ticket is left of the first ones, and the map that was bought is at
the end under the name it was bought by. -/
theorem inventory_conserved_errands :
    packedSave.itemIds.Nodup ∧ (∀ e ∈ errands, e.Counted) ∧
      (∀ i ∈ (applyAll packedSave errands).1.inventory, 0 ≤ i.quantity) ∧
      (applyAll packedSave errands).1.held "map" = 3 ∧
      (applyAll packedSave errands).1.inventory =
        [luggage "ticket" "Ticket" 1, luggage "map" "Plan" 3, luggage "stamp" "Stamp" 0] := by
  have hids : packedSave.itemIds.Nodup := by decide
  have hquantities : ∀ i ∈ packedSave.inventory, 0 ≤ i.quantity := by decide
  have hes : ∀ e ∈ errands, e.Counted := by
    intro e he
    simp only [errands, List.mem_cons, List.not_mem_nil, or_false] at he
    rcases he with rfl | rfl | rfl | rfl | rfl | rfl | rfl <;> simp [Counted, luggage]
  obtain ⟨-, hnonneg, hheld, hinventory⟩ := inventory_conserved hids hes
  refine ⟨hids, hes, hnonneg hquantities, (hheld "map").trans (by decide), ?_⟩
  rw [hinventory]
  simp only [hheld]
  rfl

end Effect

end Storyline
