import Storyline.Proofs.Json.Reading
import Storyline.Proofs.Save.RoundTrip
import Storyline.Migration

/-!
# Whole numbers of a save

A save that is made of a value with short whole numbers has short whole numbers itself, so that
its text can be read again.  Bringing the value up to date moves numbers around but makes no
longer ones, and a reader takes a whole number from a text or from a double only below a bound.

* `Json.Short`: no whole number in the value is longer than is read;
* `Migration.short_upgrade`: what was brought up to date;
* `Schema.short_of_integer`: a whole number, whatever it was read from;
* `Item.short_of_read`, `Flags.short_of_read`, `Save.short_of_read`: records.
-/

namespace Storyline

open Schema

/-- No whole number in the value has more digits than are read. -/
def Json.Short (v : Json) : Prop := v.fits (some Json.maxDigits) = true

instance (v : Json) : Decidable v.Short :=
  inferInstanceAs (Decidable (v.fits (some Json.maxDigits) = true))

namespace Json

/-- A whole number has at most so many digits if it is below a power of ten. -/
theorem fits_int_iff {n : Int} {k : Nat} (hk : 0 < k) :
    (Json.int n).fits (some k) = true ↔ n.natAbs < Nat.pow 10 k := by
  have hlength : Decimal.digitCount n.natAbs ≤ k ↔ n.natAbs < Nat.pow 10 k :=
    Nat.length_toDigits_le_iff (by decide) hk
  rw [fits_int, ← hlength]
  simp only [Option.any_some, Bool.not_eq_true', decide_eq_false_iff_not, Nat.not_lt]

@[simp] theorem short_null : Short .null := rfl

@[simp] theorem short_bool (b : Bool) : (Json.bool b).Short := rfl

@[simp] theorem short_float (x : Float) : (Json.float x).Short := rfl

@[simp] theorem short_str (s : String) : (Json.str s).Short := rfl

theorem short_arr {xs : List Json} : (Json.arr xs).Short ↔ ∀ x ∈ xs, x.Short := by
  rw [Short, fits_arr, List.all_eq_true]
  rfl

theorem short_obj {ms : Members} : (Json.obj ms).Short ↔ ∀ m ∈ ms, m.2.Short := by
  rw [Short, fits_obj, List.all_eq_true]
  rfl

@[simp] theorem short_obj_nil : (Json.obj []).Short := rfl

@[simp] theorem short_obj_cons {m : String × Json} {ms : Members} :
    (Json.obj (m :: ms)).Short ↔ m.2.Short ∧ (Json.obj ms).Short := by
  rw [short_obj, short_obj, List.forall_mem_cons]

theorem Members.mem_of_get? {name : String} {ms : Members} {v : Json}
    (h : ms.get? name = some v) : (name, v) ∈ ms := by
  induction ms with
  | nil => cases h
  | cons m ms ih =>
    obtain ⟨k, w⟩ := m
    rw [Members.get?_cons] at h
    split at h
    · rename_i hname
      rw [hname, Option.some_inj.mp h]
      exact List.mem_cons_self ..
    · exact List.mem_cons_of_mem _ (ih h)

/-- A member of an object with short whole numbers. -/
theorem Short.of_get? {name : String} {ms : Members} {v : Json} (h : (Json.obj ms).Short)
    (hv : ms.get? name = some v) : v.Short :=
  short_obj.mp h _ (Members.mem_of_get? hv)

theorem Short.insert {name : String} {ms : Members} {v : Json} (h : (Json.obj ms).Short)
    (hv : v.Short) : (Json.obj (ms.insert name v)).Short := by
  refine short_obj.mpr fun m hm => ?_
  rcases Members.mem_insert hm with rfl | hm
  · exact hv
  · exact short_obj.mp h m hm

end Json

open Json

/-! ## Bringing up to date -/

namespace Migration

theorem snakeItems_eq_map (xs : List Json) : snakeItems xs = xs.map snakeNames := by
  induction xs with
  | nil => rw [snakeItems, List.map_nil]
  | cons x xs ih => rw [snakeItems, ih, List.map_cons]

theorem snakeMembers_eq_map (ms : Members) :
    snakeMembers ms = ms.map fun m => (snakeCase m.1, snakeNames m.2) := by
  induction ms with
  | nil => rw [snakeMembers, List.map_nil]
  | cons m ms ih => rw [snakeMembers, ih, List.map_cons]

/-- Members that are respelt have short whole numbers, if their values do when they are. -/
theorem short_ofList_snakeMembers {ms : Members} (h : ∀ m ∈ ms, (snakeNames m.2).Short) :
    (Json.obj (Members.ofList (snakeMembers ms))).Short := by
  refine short_obj.mpr fun m hm => ?_
  have hmem := Members.mem_ofList hm
  rw [snakeMembers_eq_map] at hmem
  obtain ⟨n, hn, rfl⟩ := List.mem_map.mp hmem
  exact h n hn

theorem short_snakeNames {v : Json} (h : v.Short) : (snakeNames v).Short := by
  induction v using Json.induct with
  | null | bool | int | float | str => exact h
  | arr xs ih =>
    rw [snakeNames, snakeItems_eq_map]
    refine short_arr.mpr fun y hy => ?_
    obtain ⟨x, hx, rfl⟩ := List.mem_map.mp hy
    exact ih x hx (short_arr.mp h x hx)
  | obj ms ih =>
    rw [snakeNames]
    exact short_ofList_snakeMembers fun m hm => ih m hm (short_obj.mp h m hm)

theorem short_upgradeFirst {ms ns : Members} (h : (Json.obj ms).Short)
    (hns : upgradeFirst ms = .ok ns) : (Json.obj ns).Short := by
  obtain ⟨flags, hflags, rfl⟩ := ok_of_map hns
  have hshort : (Json.obj flags).Short := by
    unfold flagsOf at hflags
    split at hflags
    · cases hflags
      rfl
    · cases hflags
      rfl
    · rename_i hget
      rw [← Except.ok.inj hflags]
      exact h.of_get? hget
    · cases hflags
  refine (Short.insert (short_ofList_snakeMembers fun m hm => ?_) hshort).insert (by decide)
  exact short_snakeNames (short_obj.mp h m (List.mem_filter.mp hm).1)

/-- What was brought up to date has short whole numbers, if it had them before. -/
theorem short_upgrade {v w : Json} (h : v.Short) (hw : upgrade v = .ok w) : w.Short := by
  cases v with
  | obj ms =>
    obtain ⟨version, -, hmembers⟩ := ok_of_bind hw
    obtain ⟨ns, hns, rfl⟩ := ok_of_map hmembers
    rcases upgradeMembers_eq_ok hns with ⟨-, rfl⟩ | ⟨-, -, hfirst⟩
    · exact h
    · exact short_upgradeFirst h hfirst
  | _ => cases hw

end Migration

/-! ## Fields -/

namespace Schema

/-- What the reader makes of a value with short whole numbers has short ones, once written. -/
def KeepsShort {α : Type} (read : Reader α) (write : α → Json) : Prop :=
  ∀ (v : Json) (a : α), v.Short → read v = .good a → (write a).Short

section Fields

variable {α : Type} {read : Reader α} {write : α → Json} {name : String} {ms : Members} {a : α}

theorem KeepsShort.required (h : KeepsShort read write) (hms : (Json.obj ms).Short)
    (ha : required name read ms = .good a) : (write a).Short := by
  obtain ⟨v, hv, hread⟩ := required_eq_good.mp ha
  exact h v a (hms.of_get? hv) hread

theorem KeepsShort.withDefault (h : KeepsShort read write) (hms : (Json.obj ms).Short)
    {default : α} (hdefault : (write default).Short)
    (ha : withDefault name default read ms = .good a) : (write a).Short := by
  rcases withDefault_eq_good ha with rfl | ⟨v, hv, hread⟩
  · exact hdefault
  · exact h v a (hms.of_get? hv) hread

theorem KeepsShort.list (h : KeepsShort read write) :
    KeepsShort (list read) fun as => .arr (as.map write) := by
  intro v as hv has
  obtain ⟨xs, rfl, -⟩ := list_eq_good has
  refine short_arr.mpr fun y hy => ?_
  obtain ⟨a, ha, rfl⟩ := List.mem_map.mp hy
  obtain ⟨x, hx, hread⟩ := exists_item_of_mem has ha
  exact h x a (short_arr.mp hv x hx) hread

end Fields

/-- A whole number that a double stands for is short. -/
theorem short_of_lt_doubleIntegerBound {n : Int} (h : n.natAbs < doubleIntegerBound) :
    (Json.int n).Short := by
  have hfits : ∀ k, 63 ≤ k → (Json.int n).fits (some k) = true := fun k hk => by
    refine (fits_int_iff (by omega)).mpr (Nat.lt_of_lt_of_le h ?_)
    calc doubleIntegerBound ≤ Nat.pow 10 63 := Nat.pow_le_pow_left (by decide) 63
      _ ≤ Nat.pow 10 k := Nat.pow_le_pow_right (by decide) hk
  exact hfits maxDigits (by decide)

/-- A whole number is short, whatever it was read from. -/
theorem short_of_integer : KeepsShort integer Json.int := by
  intro v n hv hn
  cases v with
  | int m =>
    rw [← Checked.good.inj hn]
    exact hv
  | bool b =>
    rw [← Checked.good.inj hn]
    cases b <;> decide
  | float x =>
    have hdouble : integerOfDouble x = .good n := hn
    unfold integerOfDouble at hdouble
    split at hdouble
    · cases hdouble
    · split at hdouble
      · cases hdouble
      · split at hdouble
        · rename_i hlt
          rw [← Checked.good.inj hdouble]
          exact short_of_lt_doubleIntegerBound hlt
        · cases hdouble
  | str s =>
    obtain ⟨-, hlt⟩ := integerOfText_eq_good.mp hn
    unfold textIntegerBound at hlt
    show (Json.int n).fits (some 4300) = true
    generalize hdigits : 4300 = digits at hlt ⊢
    exact (fits_int_iff (by omega)).mpr hlt
  | null | arr | obj => cases hn

theorem short_of_integerAtLeast (low : Int) : KeepsShort (integerAtLeast low) Json.int := by
  intro v n hv hn
  obtain ⟨m, hm, hle⟩ := andThen_eq_good hn
  split at hle
  · rw [← Checked.good.inj hle]
    exact short_of_integer v m hv hm
  · cases hle

end Schema

/-! ## Records -/

theorem Json.short_of_wholes_eq_nil {v : Json} (h : v.wholes = []) : v.Short := by
  rw [Json.Short, fits, h, List.all_nil]

@[simp] theorem Json.short_ofOption (o : Option String) : (ofOption o).Short := by
  cases o <;> rfl

@[simp] theorem Json.short_texts (ss : List String) : (texts ss).Short :=
  Json.short_of_wholes_eq_nil (by simp [texts, List.flatMap_map])

@[simp] theorem Phase.short_toJson (p : Phase) : p.toJson.Short := rfl

theorem Memory.short_toJson (m : Memory) : m.toJson.Short := by
  refine Json.short_of_wholes_eq_nil ?_
  cases h : m.phase <;> simp [Memory.toJson, Memory.members, h, Phase.toJson]

@[simp] theorem Player.short_toJson (p : Player) : p.toJson.Short := by
  simp [Player.toJson]

theorem FlagValue.short_of_read : KeepsShort FlagValue.read FlagValue.toJson := by
  intro v f hv hf
  cases v with
  | bool | int | float | str =>
    rw [← Checked.good.inj hf]
    exact hv
  | null | arr | obj => cases hf

theorem Flags.short_of_readEntries {ms : Members} {fs : List (String × FlagValue)}
    (h : (Json.obj ms).Short) (hfs : Flags.readEntries ms = .good fs) :
    ∀ f ∈ fs, f.2.toJson.Short := by
  induction ms generalizing fs with
  | nil =>
    cases hfs
    exact nofun
  | cons m ms ih =>
    obtain ⟨hfirst, hrest⟩ := List.forall_mem_cons.mp (short_obj.mp h)
    obtain ⟨_, rest, hhead, htail, rfl⟩ := Checked.seq_eq_good.mp hfs
    obtain ⟨f, hf, rfl⟩ := Checked.map_eq_good.mp hhead
    have hread : FlagValue.read m.2 = .good f := Checked.under_eq_good.mp hf
    exact List.forall_mem_cons.mpr
      ⟨FlagValue.short_of_read m.2 f hfirst hread, ih (short_obj.mpr hrest) htail⟩

/-- What is written over an entry, or after all of them. -/
theorem Table.forall_update {α : Type} {P : α → Prop} {name : String} {a : α}
    {es : List (String × α)} (ha : P a) (hes : ∀ e ∈ es, P e.2) :
    ∀ e ∈ Table.update name a es, P e.2 := by
  induction es with
  | nil => exact List.forall_mem_singleton.mpr ha
  | cons e es ih =>
    obtain ⟨hfirst, hrest⟩ := List.forall_mem_cons.mp hes
    unfold Table.update
    split
    · exact List.forall_mem_cons.mpr ⟨ha, hrest⟩
    · exact List.forall_mem_cons.mpr ⟨hfirst, ih hrest⟩

/-- What was written of entries one after another. -/
theorem Table.forall_ofList {α : Type} {P : α → Prop} {es : List (String × α)}
    (h : ∀ e ∈ es, P e.2) : ∀ e ∈ (Table.ofList es).entries, P e.2 := by
  have hfold : ∀ (es : List (String × α)) (t : Table α), (∀ e ∈ t.entries, P e.2) →
      (∀ e ∈ es, P e.2) → ∀ e ∈ (es.foldl (fun t e => t.insert e.1 e.2) t).entries, P e.2 := by
    intro es
    induction es with
    | nil => exact fun _ ht _ => ht
    | cons e es ih =>
      intro t ht hes
      obtain ⟨hfirst, hrest⟩ := List.forall_mem_cons.mp hes
      exact ih _ (Table.forall_update hfirst ht) hrest
  exact hfold es Table.empty (fun e he => absurd he List.not_mem_nil) h

theorem Flags.short_of_read : KeepsShort Flags.read Flags.toJson := by
  intro v f hv hf
  unfold Flags.read at hf
  split at hf
  · obtain ⟨fs, hfs, rfl⟩ := Checked.map_eq_good.mp hf
    rw [Flags.toJson]
    refine short_obj.mpr fun m hm => ?_
    obtain ⟨e, he, rfl⟩ := List.mem_map.mp hm
    exact Table.forall_ofList (P := fun f => f.toJson.Short) (Flags.short_of_readEntries hv hfs) e he
  · cases hf

/-- An effect has short whole numbers if the item that it adds does. -/
theorem Effect.short_of_readWith {readItem : Reader Item}
    (hitem : KeepsShort readItem Item.toJson) :
    KeepsShort (Effect.readWith readItem) Effect.toJson := by
  intro v e hv he
  obtain ⟨ms, tag, readMembers, rfl, -, hkind, hms⟩ := tagged_eq_good he
  obtain ⟨readPayload, hpayload, rfl⟩ := Option.map_eq_some_iff.mp hkind
  obtain ⟨ps, hshort, hps⟩ : ∃ ps, (Json.obj ps).Short ∧ readPayload ps = .good e := by
    unfold inPayload at hms
    split at hms
    · rename_i w hw
      obtain ⟨ps, rfl, hps⟩ := ofRecord_eq_good (Checked.under_eq_good.mp hms)
      exact ⟨ps, hv.of_get? hw, hps⟩
    · split at hms
      · exact ⟨[], rfl, hms⟩
      · cases hms
  have hrecord : ∀ d : Effect, (Json.obj d.payload).Short → d.toJson.Short := by
    intro d hd
    rw [Effect.toJson, effectRecord]
    simp [hd]
  refine hrecord e ?_
  unfold Effect.readPayload? at hpayload
  split at hpayload <;> cases hpayload
  case h_1 =>
    obtain ⟨⟨key, value⟩, hsetting, rfl⟩ := Checked.map_eq_good.mp hps
    obtain ⟨_, _, hkey, hf, heq⟩ := Checked.seq_eq_good.mp hsetting
    obtain ⟨k, -, rfl⟩ := Checked.map_eq_good.mp hkey
    cases heq
    have hvalue : value.toJson.Short := FlagValue.short_of_read.required hshort hf
    simp [Effect.payload, settingMembers, hvalue]
  case h_2 =>
    obtain ⟨j, hj, rfl⟩ := Checked.map_eq_good.mp hps
    have hadded : (Json.obj j.members).Short := hitem.required hshort hj
    simp [Effect.payload, hadded]
  case h_3 =>
    obtain ⟨⟨itemId, quantity⟩, hremoval, rfl⟩ := Checked.map_eq_good.mp hps
    obtain ⟨_, _, hid, hn, heq⟩ := Checked.seq_eq_good.mp hremoval
    obtain ⟨k, -, rfl⟩ := Checked.map_eq_good.mp hid
    cases heq
    have hnumber : (Json.int quantity).Short :=
      (short_of_integerAtLeast 1).withDefault hshort (by decide) hn
    simp [Effect.payload, removalMembers, hnumber]
  case h_4 =>
    obtain ⟨m, -, rfl⟩ := Checked.map_eq_good.mp hps
    simp [Effect.payload, Memory.short_toJson m]
  case h_9 =>
    obtain ⟨_, duration, hintensity, hduration, rfl⟩ := Checked.seq_eq_good.mp hps
    obtain ⟨intensity, -, rfl⟩ := Checked.map_eq_good.mp hintensity
    have hnumber : (Json.int duration).Short :=
      short_of_integer.withDefault hshort (by decide) hduration
    simp [Effect.payload, hnumber]
  all_goals
    obtain ⟨_, -, rfl⟩ := Checked.map_eq_good.mp hps
    rfl

theorem Item.short_of_readWithin (fuel : Nat) : KeepsShort (Item.readWithin fuel) Item.toJson := by
  induction fuel with
  | zero =>
    intro v i _ hi
    cases hi
  | succ fuel ih =>
    intro v i hv hi
    obtain ⟨ms, rfl, hms⟩ := ofRecord_eq_good hi
    obtain ⟨hquantity, heffects⟩ := Item.fields_of_read hms
    have hnumber : (Json.int i.quantity).Short :=
      (short_of_integerAtLeast 0).withDefault hv (by decide) hquantity
    have hlist : (Json.arr (i.useEffects.map Effect.toJson)).Short :=
      (Effect.short_of_readWith ih).list.withDefault hv (by decide) heffects
    rw [Item.toJson_eq]
    simp [hnumber, hlist]

theorem Item.short_of_read : KeepsShort Item.read Item.toJson := fun v i hv hi =>
  Item.short_of_readWithin (v.depth + 1) v i hv hi

/-- A save that was read has short whole numbers, if the value that it was read from had. -/
theorem Save.short_of_read : KeepsShort Save.read Save.toJson := by
  intro v s hv hs
  obtain ⟨ms, rfl, -⟩ := ofRecord_eq_good hs
  obtain ⟨hversion, -, hinventory, -, hflags, -⟩ := Save.fields_of_read hs
  have hnumber : (Json.int s.version).Short := short_of_integer.withDefault hv (by decide) hversion
  have hitems : (Json.arr (s.inventory.map Item.toJson)).Short :=
    Item.short_of_read.list.withDefault hv (by decide) hinventory
  have hfilled : s.flags.toJson.Short := Flags.short_of_read.withDefault hv (by decide) hflags
  have hmemories : (Json.arr (s.memories.map Memory.toJson)).Short := by
    refine short_arr.mpr fun x hx => ?_
    obtain ⟨m, -, rfl⟩ := List.mem_map.mp hx
    exact Memory.short_toJson m
  rw [Save.toJson]
  simp [hnumber, hitems, hfilled, hmemories]

end Storyline
