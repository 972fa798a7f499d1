import Storyline.Proofs.Storage.Serving

/-!
# The text of a bundle

A bundle that is written as a text and read again has its saves as they were and its settings
with null in place of doubles that are no numbers.

* `Json.Storable.stored`: what the text of a bundle makes of a setting can be kept again;
* `readSave_of_infinite`: the text of a save with a double that is no number is no save;
* `Bundle.Sent`: what a bundle needs to come through its text;
* `Bundle.received`: what comes through; `readBundle_toText`: it does;
* `Bundle.ordinary_of_sent`: nothing is odd in it.
-/

namespace Storyline

open Decimal

/-- What the text of a bundle makes of a setting can be kept again. -/
theorem Json.Storable.stored {v : Json} (h : v.Storable) : (v.withDoubles stored).Storable where
  distinct := h.distinct.withDoubles distinct_stored
  fits := by rw [fits_withDoubles wholes_stored, h.fits]
  printed x hx := h.printed x (mem_doubles_withDoubles_stored.mp hx).1

namespace Storage

/-! ## Saves that do not come back -/

section

variable {s : Save}

/-- The text of a save with a double that is no number is no save. -/
theorem readSave_of_infinite (h : s.Valid) (hprinted : s.toJson.Printed)
    (hfits : s.toJson.fits (some Json.maxDigits) = true) (hinfinite : ¬ s.toJson.Finite) :
    ∃ f, readSave s.toText = .error (.fault f) := by
  have htext : Json.read s.toText = .ok (s.toJson.withDoubles Json.stored) := by
    rw [read_toText h hprinted, if_pos hfits]
  cases hread : readSave s.toText with
  | ok t => exact absurd (durable_of_readSave h hprinted hread).1 hinfinite
  | error e =>
    unfold readSave at hread
    rw [htext] at hread
    dsimp only at hread
    rw [upgrade_toJson s h.version] at hread
    dsimp only at hread
    split at hread
    · exact ⟨_, hread.symm⟩
    · cases hread

/-- The text of a save with a number that is too long is not read at all. -/
theorem readSave_of_long (h : s.Valid) (hprinted : s.toJson.Printed)
    (hlong : s.toJson.fits (some Json.maxDigits) ≠ true) :
    readSave s.toText = .error (.escape .numberTooLong) := by
  have htext : Json.read s.toText = .error .numberTooLong := by
    rw [read_toText h hprinted, if_neg hlong]
  unfold readSave
  rw [htext]

end

/-! ## The round trip -/

/-- The bundle comes through its text: its saves come back from theirs, and no object in its
settings has two members of one name, no number is too long, and the text of each finite double
reads back. -/
structure Bundle.Sent (b : Bundle) : Prop where
  version : (Json.int b.version).fits (some Json.maxDigits) = true
  saves : ∀ s ∈ b.saves, s.Storable
  names : (b.settings.map Prod.fst).Nodup
  settings : ∀ m ∈ b.settings, m.2.Storable
  printed : ∀ m ∈ b.settings, m.2.Printed

/-- A bundle with null in place of the doubles in its settings that are no numbers. -/
def Bundle.received (b : Bundle) : Bundle :=
  { b with settings := b.settings.map fun m => (m.1, m.2.withDoubles Json.stored) }

variable {b : Bundle}

theorem Bundle.Sent.storable_received (h : b.Sent) : ∀ m ∈ b.received.settings, m.2.Storable := by
  intro m hm
  obtain ⟨n, hn, rfl⟩ := List.mem_map.mp hm
  exact (h.settings n hn).stored

theorem Bundle.distinct_of_valid (hsaves : ∀ s ∈ b.saves, s.Valid)
    (hsettings : (Json.obj b.settings).Distinct) : b.toJson.Distinct := by
  have hrecords : (Json.arr (b.saves.map Save.toJson)).Distinct :=
    Json.distinct_map fun s hs => Save.distinct_toJson (hsaves s hs)
  refine .obj (by simp) ?_
  simp [Json.Distinct.int, Json.Distinct.str, hrecords, hsettings]

theorem Bundle.distinct_toJson (h : b.Sent) : b.toJson.Distinct :=
  distinct_of_valid (fun s hs => (h.saves s hs).valid)
    (.obj h.names fun m hm => (h.settings m hm).distinct)

theorem Bundle.fits_toJson (h : b.Sent) : b.toJson.fits (some Json.maxDigits) = true := by
  have hsaves : ∀ s ∈ b.saves, s.toJson.fits (some Json.maxDigits) = true :=
    fun s hs => (h.saves s hs).durable.2
  have hsettings : ∀ m ∈ b.settings, m.2.fits (some Json.maxDigits) = true :=
    fun m hm => (h.settings m hm).fits
  simp only [toJson, Json.fits_obj, List.all_cons, List.all_nil, h.version, Json.fits_str,
    Json.fits_arr, List.all_map, Bool.and_true, Bool.true_and, Bool.and_eq_true, List.all_eq_true,
    Function.comp_apply]
  exact ⟨hsaves, fun m hm => hsettings m hm⟩

/-- The text of a bundle as a JSON value. -/
theorem Bundle.read_toText (h : b.Sent) : Json.read b.toText = .ok b.received.toJson := by
  have hdoubles : ∀ x ∈ b.toJson.doubles, Json.Style.indented.Reads Json.stored x := by
    intro x hx
    refine Json.reads_stored rfl fun hfinite => ?_
    simp only [toJson, Json.doubles_obj, List.flatMap_cons, List.flatMap_nil, Json.doubles_int,
      Json.doubles_str, Json.doubles_arr, List.nil_append, List.append_nil, List.mem_append,
      List.mem_flatMap, List.mem_map] at hx
    rcases hx with ⟨_, ⟨s, hs, rfl⟩, hx⟩ | ⟨m, hm, hx⟩
    · exact (h.saves s hs).printed x hx hfinite
    · exact h.printed m hm x hx hfinite
  have hsaves : b.saves.map (fun s => s.toJson.withDoubles Json.stored) =
      b.saves.map Save.toJson :=
    List.map_congr_left fun s hs => (h.saves s hs).durable.1.stored
  have hvalue : b.toJson.withDoubles Json.stored = b.received.toJson := by
    simp only [toJson, received, Json.withDoubles_obj, List.map_cons, List.map_nil,
      Json.withDoubles_int, Json.withDoubles_str, Json.withDoubles_arr, List.map_map]
    rw [← hsaves]
    rfl
  have htext : Json.read b.toText = _ :=
    Json.readChars_write Json.readable_indented (distinct_toJson h) hdoubles
  rw [htext, if_pos (fits_toJson h), hvalue]

/-- What has come through its text is ordinary: no half stands alone in it. -/
theorem Bundle.ordinary_of_sent (h : b.Sent) : b.received.Ordinary (.ofText b.toText) := by
  have hwhole : ∀ v : Json, (∀ t ∈ v.strings, t ∈ b.toJson.strings) →
      (Oddities.ofText b.toText).tears v = false := fun v hv => Json.hasHalf_write .indented hv
  refine ⟨fun s hs => hwhole _ fun t ht => ?_, fun m hm => hwhole _ fun t ht => ?_,
    fun _ _ => rfl, fun m hm => (h.storable_received m hm).fits⟩
  · simp only [toJson, Json.strings_obj, Json.strings_arr, List.flatMap_cons, List.mem_append,
      List.mem_cons, List.mem_flatMap, List.mem_map]
    exact .inr (.inr (.inl (.inr ⟨_, ⟨s, hs, rfl⟩, ht⟩)))
  · obtain ⟨n, hn, rfl⟩ := List.mem_map.mp hm
    obtain rfl : t = n.1 := List.mem_singleton.mp ht
    simp only [toJson, Json.strings_obj, Json.strings_arr, List.flatMap_cons, List.mem_append,
      List.mem_cons, List.mem_flatMap]
    exact .inr (.inr (.inr (.inl (.inr ⟨n, hn, .inl rfl⟩))))

/-- The record of a bundle is read as the bundle. -/
theorem Bundle.read_toJson (h : ∀ s ∈ b.saves, s.Valid) : Bundle.read b.toJson = .good b := by
  have hsaves : Schema.list Save.read (.arr (b.saves.map Save.toJson)) = .good b.saves :=
    Schema.list_map fun s hs => Save.read_toJson (h s hs)
  simp [Bundle.read, Bundle.toJson, Schema.ofRecord, Schema.required, Schema.withDefault,
    Schema.anyMap, Json.Members.get?, hsaves]

/-- Valid saves are up to date. -/
theorem mapM_upgrade {ss : List Save} (h : ∀ s ∈ ss, s.Valid) :
    (ss.map Save.toJson).mapM Migration.upgrade = .ok (ss.map Save.toJson) := by
  induction ss with
  | nil => rfl
  | cons s ss ih =>
    have hfirst := upgrade_toJson s (h s (List.mem_cons_self ..)).version Json.float
    rw [Json.withDoubles_eq_self fun _ _ => rfl] at hfirst
    rw [List.map_cons, List.mapM_cons, hfirst, ih fun t ht => h t (List.mem_cons_of_mem s ht)]
    rfl

/-- Members are taken in once their saves are brought up to date and the whole is read. -/
theorem readContents_of_read {ms : Json.Members} {xs ws : List Json} (hsaves : savesOf ms = .ok xs)
    (hupgrade : xs.mapM Migration.upgrade = .ok ws)
    (hread : Bundle.read (.obj (ms.insert "saves" (.arr ws))) = .good b) :
    readContents ms = .ok b := by
  have hmapped : (xs.mapM Migration.upgrade).mapError
      (fun f => Failure.fault (.malformedBundle (.migration f))) = .ok ws := by
    rw [hupgrade]
    rfl
  simp only [readContents, hsaves, bind, Except.bind, hmapped, hread]
  rfl

/-- The record of a bundle with valid saves is taken in as the bundle, as long as its version is
supported. -/
theorem readBundle_of_toJson {supported : Int} {data : BundleData}
    (hdata : data.toJson = .ok b.toJson) (hvalid : ∀ s ∈ b.saves, s.Valid)
    (hsupported : b.version ≤ supported) : readBundle supported data = .ok b := by
  have hcontents : readContents [("version", .int b.version), ("exported_at", .str b.exportedAt),
      ("saves", .arr (b.saves.map Save.toJson)), ("settings", .obj b.settings)] = .ok b :=
    readContents_of_read rfl (mapM_upgrade hvalid) (Bundle.read_toJson hvalid)
  unfold readBundle
  rw [hdata]
  show (if supported < b.version then _ else readContents _) = _
  rw [if_neg (Int.not_lt.mpr hsupported)]
  exact hcontents

/-- A bundle comes through its text, as long as its version is supported. -/
theorem readBundle_toText (h : b.Sent) {supported : Int} (hsupported : b.version ≤ supported) :
    readBundle supported (.text b.toText) = .ok b.received := by
  have hdata : (BundleData.text b.toText).toJson = .ok b.received.toJson := by
    simp only [BundleData.toJson, Bundle.read_toText h]
  exact readBundle_of_toJson hdata (fun s hs => (h.saves s hs).valid) hsupported

end Storage

end Storyline
