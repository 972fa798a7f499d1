import Storyline.Proofs.Save.RoundTrip

/-!
# Doubles of a save

A stored save has null where it had a double that is no number, and no reader of a number
accepts null.  So a save that is read in spite of this had finite doubles alone.

* `Save.doubles_toJson`: the doubles of a save are in its items, its flags and its time;
* `Item.finite_of_read`, `Flags.finite_of_read`: the readers that refuse null;
* `Save.finite_of_read`: a stored save that is read has finite doubles.
-/

namespace Storyline

open Schema

/-- All doubles of the value are finite. -/
def Json.Finite (v : Json) : Prop := ∀ x ∈ v.doubles, Decimal.isFinite x = true

instance (v : Json) : Decidable v.Finite :=
  inferInstanceAs (Decidable (∀ x ∈ v.doubles, Decimal.isFinite x = true))

namespace Json

theorem finite_of_doubles_eq_nil {v : Json} (h : v.doubles = []) : v.Finite := by
  intro x hx
  rw [h] at hx
  cases hx

/-- A value with finite doubles is stored as it is. -/
theorem Finite.stored {v : Json} (h : v.Finite) : v.withDoubles stored = v :=
  withDoubles_eq_self fun x hx => stored_of_finite (h x hx)

/-- A value is stored as it is only if its doubles are finite. -/
theorem withDoubles_stored_eq_self_iff {v : Json} : v.withDoubles stored = v ↔ v.Finite := by
  refine ⟨fun h x hx => ?_, Finite.stored⟩
  have hstored := eq_float_of_withDoubles h x hx
  unfold stored at hstored
  split at hstored
  · assumption
  · cases hstored

theorem wholes_stored (x : Float) : (stored x).wholes = [] := by
  unfold stored
  split <;> rfl

theorem distinct_stored (x : Float) : (stored x).Distinct := by
  unfold stored
  split
  · exact .float x
  · exact .null

/-- What is stored has the finite doubles alone. -/
theorem mem_doubles_withDoubles_stored {v : Json} {x : Float} :
    x ∈ (v.withDoubles stored).doubles ↔ x ∈ v.doubles ∧ Decimal.isFinite x = true := by
  rw [doubles_withDoubles, List.mem_flatMap]
  constructor
  · rintro ⟨y, hy, hx⟩
    unfold stored at hx
    split at hx
    · rename_i hfinite
      rw [List.mem_singleton.mp hx]
      exact ⟨hy, hfinite⟩
    · cases hx
  · rintro ⟨hx, hfinite⟩
    refine ⟨x, hx, ?_⟩
    rw [stored_of_finite hfinite]
    exact List.mem_singleton_self x

@[simp] theorem doubles_ofOption (o : Option String) : (ofOption o).doubles = [] := by
  cases o <;> rfl

@[simp] theorem doubles_texts (ss : List String) : (texts ss).doubles = [] := by
  simp [texts, List.flatMap_map]

end Json

open Json

@[simp] theorem Phase.doubles_toJson (p : Phase) : p.toJson.doubles = [] := rfl

@[simp] theorem Memory.doubles_toJson (m : Memory) : m.toJson.doubles = [] := by
  cases h : m.phase <;> simp [Memory.toJson, Memory.members, h]

@[simp] theorem Player.doubles_toJson (p : Player) : p.toJson.doubles = [] := by
  simp [Player.toJson]

/-- The doubles of a save are in its items, its flags and its time. -/
theorem Save.doubles_toJson (s : Save) :
    s.toJson.doubles =
      s.inventory.flatMap (·.toJson.doubles) ++ s.flags.toJson.doubles ++ [s.playTime] := by
  simp [Save.toJson, List.flatMap_map]

/-! ## Readers that refuse null -/

theorem isFinite_of_number {x y : Float} (h : number (stored x) = .good y) :
    Decimal.isFinite x = true := by
  unfold stored at h
  split at h
  · assumption
  · cases h

theorem FlagValue.finite_of_read {v w : FlagValue}
    (h : FlagValue.read (v.toJson.withDoubles stored) = .good w) : v.toJson.Finite := by
  cases v with
  | bool b => exact finite_of_doubles_eq_nil rfl
  | int n => exact finite_of_doubles_eq_nil rfl
  | str s => exact finite_of_doubles_eq_nil rfl
  | float x =>
    intro y hy
    rw [List.mem_singleton.mp hy]
    have hx : FlagValue.read (stored x) = .good w := h
    unfold stored at hx
    split at hx
    · assumption
    · cases hx

theorem Flags.finite_of_read {f g : Flags}
    (h : Flags.read (f.toJson.withDoubles stored) = .good g) : f.toJson.Finite := by
  have hentries : ∀ (es : List (String × FlagValue)) {fs : List (String × FlagValue)},
      Flags.readEntries (es.map fun e => (e.1, e.2.toJson.withDoubles stored)) = .good fs →
      ∀ e ∈ es, e.2.toJson.Finite := by
    intro es
    induction es with
    | nil => intro _ _ e he; cases he
    | cons e es ih =>
      intro fs hfs
      obtain ⟨_, rest, hfirst, hrest, -⟩ := Checked.seq_eq_good.mp hfs
      obtain ⟨w, hw, -⟩ := Checked.map_eq_good.mp hfirst
      intro d hd
      rcases List.mem_cons.mp hd with rfl | hd
      · exact FlagValue.finite_of_read (Checked.under_eq_good.mp hw)
      · exact ih hrest d hd
  have hread : Flags.read (.obj (f.entries.map fun e => (e.1, e.2.toJson.withDoubles stored))) =
      .good g := by
    rw [Flags.toJson, withDoubles_obj, List.map_map] at h
    exact h
  obtain ⟨fs, hfs, -⟩ := Checked.map_eq_good.mp hread
  intro x hx
  rw [Flags.toJson, doubles_obj, List.flatMap_map, List.mem_flatMap] at hx
  obtain ⟨e, he, hx⟩ := hx
  exact hentries f.entries hfs e he x hx

/-- The payload of a record of an effect, as it was read. -/
theorem Effect.payload_of_readWith {readItem : Reader Item} {kind : String}
    {payload : Json.Members} {readPayload : Json.Members → Checked Effect} {e : Effect}
    (hkind : Effect.readPayload? readItem kind = some readPayload)
    (h : Effect.readWith readItem (effectRecord kind payload) = .good e) :
    readPayload payload = .good e := by
  obtain ⟨ms, tag, readMembers, hms, htag, hread, hgood⟩ := tagged_eq_good h
  cases hms
  have htag' : kind = tag := by
    have hstr : some (Json.str kind) = some (Json.str tag) := htag
    cases hstr
    rfl
  rw [← htag', Effect.readKind?, hkind, Option.map_some, Option.some_inj] at hread
  rw [← hread] at hgood
  exact Checked.under_eq_good.mp hgood

/-- An effect that is read in spite of its nulls has none, if the same goes for the item
that it adds. -/
theorem Effect.finite_of_readWith {readItem : Reader Item} {e d : Effect}
    (hitem : ∀ j k, e = .addItem j → readItem (j.toJson.withDoubles stored) = .good k →
      j.toJson.Finite)
    (h : Effect.readWith readItem (e.toJson.withDoubles stored) = .good d) : e.toJson.Finite := by
  have hrecord : e.toJson.withDoubles stored =
      effectRecord e.kind (e.payload.map fun m => (m.1, m.2.withDoubles stored)) := by
    simp [Effect.toJson, effectRecord]
  have hdoubles : e.toJson.doubles = (Json.obj e.payload).doubles := by
    simp [Effect.toJson, effectRecord]
  rw [hrecord] at h
  intro x hx
  rw [hdoubles] at hx
  cases e with
  | setFlag key value =>
    have hpayload := Effect.payload_of_readWith rfl h
    obtain ⟨_, hsetting, -⟩ := Checked.map_eq_good.mp hpayload
    obtain ⟨_, w, -, hvalue, -⟩ := Checked.seq_eq_good.mp hsetting
    obtain ⟨v, hv, hread⟩ := required_eq_good.mp hvalue
    have hget : some (value.toJson.withDoubles stored) = some v := hv
    rw [← Option.some_inj.mp hget] at hread
    refine FlagValue.finite_of_read hread x ?_
    simpa [Effect.payload, settingMembers] using hx
  | addItem item =>
    have hpayload := Effect.payload_of_readWith rfl h
    obtain ⟨k, hk, -⟩ := Checked.map_eq_good.mp hpayload
    obtain ⟨v, hv, hread⟩ := required_eq_good.mp hk
    have hget : some (item.toJson.withDoubles stored) = some v := hv
    rw [← Option.some_inj.mp hget] at hread
    refine hitem item k rfl hread x ?_
    simpa [Effect.payload, Item.toJson] using hx
  | shakeScreen intensity duration =>
    have hpayload := Effect.payload_of_readWith rfl h
    obtain ⟨_, _, hintensity, -, -⟩ := Checked.seq_eq_good.mp hpayload
    obtain ⟨y, hy, -⟩ := Checked.map_eq_good.mp hintensity
    have hfinite : Decimal.isFinite intensity = true :=
      isFinite_of_number (read_of_withDefault (v := stored intensity) rfl hy)
    have hmem : x = intensity := by simpa [Effect.payload] using hx
    rw [hmem, hfinite]
  | removeItem itemId quantity => simp [Effect.payload, removalMembers] at hx
  | addMemory memory => simp [Effect.payload] at hx
  | unlockAchievement achievementId => simp [Effect.payload] at hx
  | changeScene sceneId => simp [Effect.payload] at hx
  | changePhase phase => simp [Effect.payload] at hx
  | playSound sound => simp [Effect.payload] at hx

theorem Item.finite_of_readWithin {i : Item} (h : i.Valid) {fuel : Nat} {j : Item}
    (hread : Item.readWithin fuel (i.toJson.withDoubles stored) = .good j) : i.toJson.Finite := by
  induction h generalizing fuel j with
  | @intro i _ _ _ ih =>
    cases fuel with
    | zero => cases hread
    | succ n =>
      obtain ⟨ms, hms, hgood⟩ := ofRecord_eq_good hread
      rw [Item.toJson_eq, withDoubles_obj] at hms
      obtain ⟨-, heffects⟩ := Item.fields_of_read hgood
      have hlist := read_of_withDefault
        (v := (Json.arr (i.useEffects.map Effect.toJson)).withDoubles stored)
        (by rw [← Json.obj.inj hms]; rfl) heffects
      rw [withDoubles_arr] at hlist
      intro x hx
      have hx' : ∃ e ∈ i.useEffects, x ∈ e.toJson.doubles := by
        rw [Item.toJson_eq] at hx
        simpa [List.flatMap_map] using hx
      obtain ⟨e, he, hxe⟩ := hx'
      obtain ⟨d, hd⟩ := exists_good_of_mem hlist
        (List.mem_map_of_mem (List.mem_map_of_mem (f := Effect.toJson) he))
      exact Effect.finite_of_readWith (fun j k hj hk => ih e he j hj hk) hd x hxe

theorem Item.finite_of_read {i j : Item} (h : i.Valid)
    (hread : Item.read (i.toJson.withDoubles stored) = .good j) : i.toJson.Finite :=
  Item.finite_of_readWithin h hread

/-- A valid save that is read in spite of its nulls has none. -/
theorem Save.finite_of_read {s t : Save} (h : s.Valid)
    (hread : Save.read (s.toJson.withDoubles stored) = .good t) : s.toJson.Finite := by
  rw [Save.toJson, withDoubles_obj] at hread
  obtain ⟨-, -, hinventory, -, hflags, htime⟩ := Save.fields_of_read hread
  have hitems := read_of_withDefault
    (v := (Json.arr (s.inventory.map Item.toJson)).withDoubles stored) rfl hinventory
  have hflags' := read_of_withDefault (v := s.flags.toJson.withDoubles stored) rfl hflags
  have htime' := read_of_withDefault (v := stored s.playTime) rfl htime
  rw [withDoubles_arr] at hitems
  intro x hx
  rw [Save.doubles_toJson, List.mem_append, List.mem_append] at hx
  rcases hx with (hx | hx) | hx
  · obtain ⟨i, hi, hx⟩ := List.mem_flatMap.mp hx
    obtain ⟨j, hj⟩ := exists_good_of_mem hitems
      (List.mem_map_of_mem (List.mem_map_of_mem (f := Item.toJson) hi))
    exact Item.finite_of_read (h.inventory i hi) hj x hx
  · exact Flags.finite_of_read hflags' x hx
  · rw [List.mem_singleton.mp hx]
    exact isFinite_of_number htime'

end Storyline
