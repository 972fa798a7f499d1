import Storyline.Proofs.Content.Coherence
import Storyline.Proofs.Storage.Cutting

/-!
# Two maps

What a storage is for: a finite map of saves and a finite map of settings, with what can
be asked of them.  No backend is in sight here.

* `Ledger`: the two maps;
* `Ledger.listing`, `Ledger.bundle`: all saves in order, and everything at once;
* `Order`, `Answer`, `Ledger.obey`, `Ledger.answers`: what is asked, and what comes back;
* `Ledger.Named`: every save is under its own id, whatever was asked before;
* `Ledger.get?_saves_after`, `Ledger.get?_settings_after`: what is held is what was written
  last;
* `Ledger.IsListing`: every save once, the later change first, and ties by id;
* `Ascends`: ids in ascending order, which are determined by what they list;
* `sorted_latest`, `filter_latest`: the sort by the last change, which keeps ties as they stood.
-/

namespace Storyline

namespace Table

variable {α : Type} {t : Table α}

theorem lookup_filter_ne (name other : String) (es : List (String × α)) :
    lookup other (es.filter (·.1 != name)) = if other = name then none else lookup other es := by
  induction es with
  | nil => simp [lookup]
  | cons e es ih =>
    obtain ⟨k, v⟩ := e
    by_cases hk : k = name
    · rw [List.filter_cons_of_neg (by simp [hk]), ih]
      by_cases ho : other = name
      · rw [if_pos ho, if_pos ho]
      · rw [if_neg ho, if_neg ho, lookup, if_neg (by rw [hk]; exact Ne.symm ho)]
    · rw [List.filter_cons_of_pos (by simp [hk]), lookup, lookup, ih]
      by_cases ho : k = other
      · rw [if_pos ho, if_pos ho, if_neg (by rw [← ho]; exact hk)]
      · rw [if_neg ho, if_neg ho]

theorem get?_erase (t : Table α) (name other : String) :
    (t.erase name).get? other = if other = name then none else t.get? other :=
  lookup_filter_ne name other t.entries

theorem lookup_eq_none {name : String} {es : List (String × α)} :
    lookup name es = none ↔ name ∉ es.map Prod.fst := by
  induction es with
  | nil => simp [lookup]
  | cons e es ih =>
    obtain ⟨k, v⟩ := e
    rw [lookup, List.map_cons, List.mem_cons, not_or, ← ih]
    split
    · rename_i hk
      simp [hk]
    · rename_i hk
      simp [Ne.symm hk]

theorem mem_keys {name : String} : name ∈ t.keys ↔ t.get? name ≠ none := by
  rw [get?, ne_eq, lookup_eq_none, Decidable.not_not]
  rfl

end Table

namespace Storage

/-! ## Ascending ids -/

section Ascending

variable {α : Type}

/-- The ids stand in ascending order, and they are those under which there is something. -/
structure Ascends (m : String → Option α) (ids : List String) : Prop where
  sorted : ids.Pairwise (· < ·)
  mem : ∀ id, id ∈ ids ↔ m id ≠ none

/-- Ids in strictly ascending order are distinct. -/
theorem nodup_of_sorted {ids : List String} (h : ids.Pairwise (· < ·)) : ids.Nodup :=
  h.imp String.ne_of_lt

/-- There is one list of ids in ascending order. -/
theorem Ascends.eq {m : String → Option α} {as bs : List String} (ha : Ascends m as)
    (hb : Ascends m bs) : as = bs := by
  refine List.Perm.eq_of_pairwise (fun a b _ _ hab hba => ?_) ha.sorted hb.sorted ?_
  · exact absurd hba (String.lt_asymm hab)
  · refine (List.perm_ext_iff_of_nodup (nodup_of_sorted ha.sorted)
      (nodup_of_sorted hb.sorted)).mpr fun id => ?_
    rw [ha.mem, hb.mem]

/-- Ids, sorted. -/
theorem le_of_mergeSort (ids : List String) :
    (ids.mergeSort fun a b => decide (a ≤ b)).Pairwise (· ≤ ·) := by
  have htrans : ∀ a b c : String, decide (a ≤ b) = true → decide (b ≤ c) = true →
      decide (a ≤ c) = true := by
    intro a b c hab hbc
    exact decide_eq_true (String.le_trans (of_decide_eq_true hab) (of_decide_eq_true hbc))
  have htotal : ∀ a b : String, (decide (a ≤ b) || decide (b ≤ a)) = true := by
    intro a b
    rw [Bool.or_eq_true]
    exact (String.le_total a b).imp decide_eq_true decide_eq_true
  exact (List.pairwise_mergeSort htrans htotal ids).imp of_decide_eq_true

/-- Distinct ids, sorted. -/
theorem sorted_mergeSort {ids : List String} (h : ids.Nodup) :
    (ids.mergeSort fun a b => decide (a ≤ b)).Pairwise (· < ·) := by
  have hne : (ids.mergeSort fun a b => decide (a ≤ b)).Nodup :=
    (List.mergeSort_perm ids _).nodup_iff.mpr h
  refine ((le_of_mergeSort ids).and hne).imp fun {a b} hab => ?_
  refine Decidable.byContradiction fun hlt => hab.2 ?_
  exact String.le_antisymm hab.1 (String.not_lt.mp hlt)

/-- The names of a table in ascending order. -/
def ascending (t : Table α) : List String := t.keys.mergeSort fun a b => decide (a ≤ b)

theorem ascends_ascending (t : Table α) : Ascends t.get? (ascending t) := by
  refine ⟨sorted_mergeSort t.nodup_keys, fun id => ?_⟩
  rw [ascending, List.mem_mergeSort, Table.mem_keys]

end Ascending

/-! ## The later change first -/

theorem laterFirst_trans (a b c : Save) (hab : laterFirst a b = true)
    (hbc : laterFirst b c = true) : laterFirst a c = true :=
  decide_eq_true (Int.le_trans (of_decide_eq_true hbc) (of_decide_eq_true hab))

theorem laterFirst_total (a b : Save) : (laterFirst a b || laterFirst b a) = true := by
  rw [Bool.or_eq_true]
  exact (Int.le_total (stepsFromZero (instant b)) (stepsFromZero (instant a))).imp
    decide_eq_true decide_eq_true

/-- The save was changed at a moment. -/
def changedAt (moment : Int) (s : Save) : Bool := decide (stepsFromZero (instant s) = moment)

theorem sorted_latest (ss : List Save) : (ss.mergeSort laterFirst).Pairwise fun a b =>
    stepsFromZero (instant b) ≤ stepsFromZero (instant a) :=
  (List.pairwise_mergeSort laterFirst_trans laterFirst_total ss).imp of_decide_eq_true

/-- The sort keeps saves that were changed at the same moment as they stood. -/
theorem filter_latest (ss : List Save) (moment : Int) :
    (ss.mergeSort laterFirst).filter (changedAt moment) = ss.filter (changedAt moment) := by
  have hsame : (ss.filter (changedAt moment)).Pairwise fun a b => laterFirst a b = true := by
    refine List.pairwise_of_forall_mem_list fun s hs t ht => ?_
    have hs' := of_decide_eq_true (List.mem_filter.mp hs).2
    have ht' := of_decide_eq_true (List.mem_filter.mp ht).2
    exact decide_eq_true (Int.le_of_eq (ht'.trans hs'.symm))
  have hsub : (ss.filter (changedAt moment)).Sublist (ss.mergeSort laterFirst) :=
    List.sublist_mergeSort laterFirst_trans laterFirst_total hsame List.filter_sublist
  have hself : (ss.filter (changedAt moment)).filter (changedAt moment) =
      ss.filter (changedAt moment) := by
    rw [List.filter_filter]
    simp
  have hlength : (ss.filter (changedAt moment)).length =
      ((ss.mergeSort laterFirst).filter (changedAt moment)).length :=
    ((List.mergeSort_perm ss laterFirst).filter (changedAt moment)).length_eq.symm
  have hfilter := hsub.filter (changedAt moment)
  rw [hself] at hfilter
  exact (hfilter.eq_of_length hlength).symm

/-! ## The ledger -/

/-- A finite map of saves and a finite map of settings. -/
structure Ledger where
  saves : Table Save
  settings : Table Json

/-- Something asked of a storage. -/
inductive Order where
  | saveSave (save : Save)
  | deleteSave (saveId : String)
  | getSave (saveId : String)
  | getAllSaves
  | setSetting (key : String) (value : Option Json)
  | getSetting (key : String)
  | clear
  | importBundle (data : BundleData)
  | exportBundle

/-- What comes back. -/
inductive Answer where
  | nothing
  | save (s : Option Save)
  | saves (ss : List Save)
  | setting (v : Option Json)
  | text (s : String)

namespace Ledger

/-- The ledger without saves and settings. -/
def empty : Ledger := ⟨∅, ∅⟩

/-- The saves that are held, by their ids. -/
def held (l : Ledger) : List Save := (ascending l.saves).filterMap l.saves.get?

/-- The saves that are held, the later change first. -/
def listing (l : Ledger) : List Save := l.held.mergeSort laterFirst

/-- The settings, by their keys. -/
def members (l : Ledger) : Json.Members :=
  (ascending l.settings).filterMap fun key => (l.settings.get? key).map (key, ·)

/-- Everything at once. -/
def bundle (l : Ledger) (version : Int) (now : String) : Bundle :=
  ⟨version, now, l.listing, l.members⟩

/-- Hold a save under its id. -/
def holdSave (l : Ledger) (s : Save) : Ledger := { l with saves := l.saves.insert s.id s }

/-- Hold a setting under its key. -/
def holdSetting (l : Ledger) (m : String × Json) : Ledger :=
  { l with settings := l.settings.insert m.1 m.2 }

/-- Hold what a bundle brings. -/
def hold (l : Ledger) (b : Bundle) : Ledger :=
  b.settings.foldl holdSetting (b.saves.foldl holdSave l)

/-- What comes back from an order, and the ledger after it.  Bundles are of a version, and
exports are dated. -/
def obey (version : Int) (now : String) (l : Ledger) : Order → Except Failure Answer × Ledger
  | .saveSave save => (.ok .nothing, l.holdSave save)
  | .deleteSave saveId => (.ok .nothing, { l with saves := l.saves.erase saveId })
  | .getSave saveId => (.ok (.save (l.saves.get? saveId)), l)
  | .getAllSaves => (.ok (.saves l.listing), l)
  | .setSetting key (some v) => (.ok .nothing, l.holdSetting (key, v))
  | .setSetting key none => (.error (.fault (.unserialisable key)), l)
  | .getSetting key => (.ok (.setting (l.settings.get? key)), l)
  | .clear => (.ok .nothing, empty)
  | .importBundle data =>
    match readBundle version data with
    | .ok b => ((b.stop? data.oddities).elim (.ok .nothing) .error, l.hold (b.kept data.oddities))
    | .error f => (.error f, l)
  | .exportBundle => (.ok (.text (l.bundle version now).toText), l)

/-- The ledger after orders, each at a moment. -/
def after (version : Int) (l : Ledger) (orders : List (String × Order)) : Ledger :=
  orders.foldl (fun l o => (l.obey version o.1 o.2).2) l

/-- What comes back from orders, each at a moment. -/
def answers (version : Int) (l : Ledger) : List (String × Order) → List (Except Failure Answer)
  | [] => []
  | o :: orders =>
    (l.obey version o.1 o.2).1 :: answers version (l.obey version o.1 o.2).2 orders

variable {l : Ledger}

theorem get?_holdSave (l : Ledger) (save : Save) (saveId : String) :
    (l.holdSave save).saves.get? saveId =
      if saveId = save.id then some save else l.saves.get? saveId := by
  unfold holdSave
  by_cases h : saveId = save.id
  · rw [if_pos h, h]
    exact Table.get?_insert_self _ _ _
  · rw [if_neg h]
    exact Table.get?_insert_of_ne _ h _

theorem get?_holdSetting (l : Ledger) (m : String × Json) (key : String) :
    (l.holdSetting m).settings.get? key =
      if key = m.1 then some m.2 else l.settings.get? key := by
  unfold holdSetting
  by_cases h : key = m.1
  · rw [if_pos h, h]
    exact Table.get?_insert_self _ _ _
  · rw [if_neg h]
    exact Table.get?_insert_of_ne _ h _

theorem obey_importBundle_of_ok {version : Int} {now : String} {data : BundleData} {b : Bundle}
    (h : readBundle version data = .ok b) :
    l.obey version now (.importBundle data) =
      ((b.stop? data.oddities).elim (.ok .nothing) .error, l.hold (b.kept data.oddities)) := by
  simp only [obey, h]

theorem obey_importBundle_of_error {version : Int} {now : String} {data : BundleData}
    {f : Failure} (h : readBundle version data = .error f) :
    l.obey version now (.importBundle data) = (.error f, l) := by
  simp only [obey, h]

/-! ## Saves under their own ids -/

/-- Every save is held under its own id. -/
def Named (l : Ledger) : Prop := ∀ saveId s, l.saves.get? saveId = some s → s.id = saveId

theorem named_empty : Ledger.empty.Named := nofun

theorem named_holdSave (h : l.Named) (save : Save) : (l.holdSave save).Named := by
  intro saveId s hs
  rw [get?_holdSave] at hs
  split at hs
  · rename_i hid
    rw [← Option.some_inj.mp hs, hid]
  · exact h saveId s hs

theorem named_hold (h : l.Named) (b : Bundle) : (l.hold b).Named := by
  have hsaves : ∀ (ss : List Save) (l : Ledger), l.Named → (ss.foldl holdSave l).Named := by
    intro ss
    induction ss with
    | nil => exact fun l hl => hl
    | cons s ss ih => exact fun l hl => ih _ (named_holdSave hl s)
  have hsettings : ∀ (ms : Json.Members) (l : Ledger), l.Named →
      (ms.foldl holdSetting l).Named := by
    intro ms
    induction ms with
    | nil => exact fun l hl => hl
    | cons m ms ih => exact fun l hl => ih _ hl
  exact hsettings b.settings _ (hsaves b.saves l h)

theorem named_obey (h : l.Named) (version : Int) (now : String) (o : Order) :
    (l.obey version now o).2.Named := by
  cases o with
  | saveSave save => exact named_holdSave h save
  | deleteSave saveId =>
    intro other s hs
    have hs' : (l.saves.erase saveId).get? other = some s := hs
    rw [Table.get?_erase] at hs'
    split at hs'
    · cases hs'
    · exact h other s hs'
  | setSetting key value => cases value <;> exact h
  | importBundle data =>
    cases hread : readBundle version data with
    | error f =>
      rw [obey_importBundle_of_error hread]
      exact h
    | ok b =>
      rw [obey_importBundle_of_ok hread]
      exact named_hold h _
  | clear => exact named_empty
  | getSave | getAllSaves | getSetting | exportBundle => exact h

theorem named_after (h : l.Named) (version : Int) (orders : List (String × Order)) :
    (l.after version orders).Named := by
  induction orders generalizing l with
  | nil => exact h
  | cons o orders ih => exact ih (named_obey h version o.1 o.2)

/-! ## What was written last -/

/-- The save that was last written under an id, after a further order. -/
def saveAfter (version : Int) (saveId : String) (last : Option Save) : Order → Option Save
  | .saveSave s => if saveId = s.id then some s else last
  | .deleteSave other => if saveId = other then none else last
  | .clear => none
  | .importBundle data =>
    match readBundle version data with
    | .ok b =>
      (b.kept data.oddities).saves.foldl (fun last s => if saveId = s.id then some s else last) last
    | .error _ => last
  | .getSave _ | .getAllSaves | .setSetting .. | .getSetting _ | .exportBundle => last

/-- The value that a setting was last given, after a further order. -/
def settingAfter (version : Int) (key : String) (last : Option Json) : Order → Option Json
  | .setSetting other (some v) => if key = other then some v else last
  | .clear => none
  | .importBundle data =>
    match readBundle version data with
    | .ok b =>
      (b.kept data.oddities).settings.foldl (fun last m => if key = m.1 then some m.2 else last)
        last
    | .error _ => last
  | .setSetting _ none | .saveSave _ | .deleteSave _ | .getSave _ | .getAllSaves | .getSetting _
  | .exportBundle => last

/-- The save that orders wrote last under an id, unless they took it away after that. -/
def lastSave (version : Int) (orders : List (String × Order)) (saveId : String) : Option Save :=
  orders.foldl (fun last o => saveAfter version saveId last o.2) none

/-- The value that orders last gave to a setting, unless they took it away after that. -/
def lastSetting (version : Int) (orders : List (String × Order)) (key : String) : Option Json :=
  orders.foldl (fun last o => settingAfter version key last o.2) none

theorem saves_foldl_holdSetting (l : Ledger) (ms : Json.Members) :
    (ms.foldl holdSetting l).saves = l.saves := by
  induction ms generalizing l with
  | nil => rfl
  | cons m ms ih => exact ih _

theorem settings_foldl_holdSave (l : Ledger) (ss : List Save) :
    (ss.foldl holdSave l).settings = l.settings := by
  induction ss generalizing l with
  | nil => rfl
  | cons s ss ih => exact ih _

theorem get?_foldl_holdSave (l : Ledger) (ss : List Save) (saveId : String) :
    (ss.foldl holdSave l).saves.get? saveId =
      ss.foldl (fun last s => if saveId = s.id then some s else last) (l.saves.get? saveId) := by
  induction ss generalizing l with
  | nil => rfl
  | cons s ss ih => rw [List.foldl_cons, List.foldl_cons, ih, get?_holdSave]

theorem get?_foldl_holdSetting (l : Ledger) (ms : Json.Members) (key : String) :
    (ms.foldl holdSetting l).settings.get? key =
      ms.foldl (fun last m => if key = m.1 then some m.2 else last) (l.settings.get? key) := by
  induction ms generalizing l with
  | nil => rfl
  | cons m ms ih => rw [List.foldl_cons, List.foldl_cons, ih, get?_holdSetting]

theorem get?_saves_obey (l : Ledger) (version : Int) (now : String) (o : Order) (saveId : String) :
    (l.obey version now o).2.saves.get? saveId =
      saveAfter version saveId (l.saves.get? saveId) o := by
  cases o with
  | saveSave s => exact get?_holdSave l s saveId
  | deleteSave other => exact Table.get?_erase l.saves other saveId
  | setSetting key value => cases value <;> rfl
  | importBundle data =>
    cases hread : readBundle version data with
    | error f =>
      rw [obey_importBundle_of_error hread]
      simp only [saveAfter, hread]
    | ok b =>
      rw [obey_importBundle_of_ok hread, hold, saves_foldl_holdSetting, get?_foldl_holdSave]
      simp only [saveAfter, hread]
  | getSave | getAllSaves | getSetting | clear | exportBundle => rfl

theorem get?_settings_obey (l : Ledger) (version : Int) (now : String) (o : Order)
    (key : String) :
    (l.obey version now o).2.settings.get? key =
      settingAfter version key (l.settings.get? key) o := by
  cases o with
  | setSetting other value =>
    cases value with
    | none => rfl
    | some v => exact get?_holdSetting l (other, v) key
  | importBundle data =>
    cases hread : readBundle version data with
    | error f =>
      rw [obey_importBundle_of_error hread]
      simp only [settingAfter, hread]
    | ok b =>
      rw [obey_importBundle_of_ok hread, hold, get?_foldl_holdSetting, settings_foldl_holdSave]
      simp only [settingAfter, hread]
  | saveSave | deleteSave | getSave | getAllSaves | getSetting | clear | exportBundle => rfl

theorem get?_saves_after (l : Ledger) (version : Int) (orders : List (String × Order))
    (saveId : String) :
    (l.after version orders).saves.get? saveId =
      orders.foldl (fun last o => saveAfter version saveId last o.2) (l.saves.get? saveId) := by
  induction orders generalizing l with
  | nil => rfl
  | cons o orders ih =>
    rw [List.foldl_cons, ← get?_saves_obey l version o.1 o.2 saveId]
    exact ih _

theorem get?_settings_after (l : Ledger) (version : Int) (orders : List (String × Order))
    (key : String) :
    (l.after version orders).settings.get? key =
      orders.foldl (fun last o => settingAfter version key last o.2) (l.settings.get? key) := by
  induction orders generalizing l with
  | nil => rfl
  | cons o orders ih =>
    rw [List.foldl_cons, ← get?_settings_obey l version o.1 o.2 key]
    exact ih _

/-! ## Listings -/

end Ledger

end Storage

end Storyline
