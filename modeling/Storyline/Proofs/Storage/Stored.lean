import Storyline.Proofs.Json.Layouts
import Storyline.Proofs.Json.Reading
import Storyline.Proofs.Save.Doubles
import Storyline.Storage.Record

/-!
# Stored saves

What becomes of a save that is written and read again: it comes back as it was exactly if
its doubles are finite and its whole numbers are not too long.

* `Save.Durable`: what a save needs to come back;
* `Json.Printed`, `Json.printed`: the text of each finite double in it reads back;
* `Storage.readSave_toText_iff`: a valid save comes back if and only if it is durable;
* `Migration.exists_of_upgradeTo`: what was brought to a version is of that version;
* `Storage.valid_of_readSave`: what is read from storage is valid, whatever the text;
* `Storage.Bundle.TakenFrom`: what a bundle that is read has of the members it is read from;
* `Storage.valid_of_readBundle`: its saves are valid, whatever it is read from.
-/

namespace Storyline

open Decimal

/-- The doubles of the save are finite, and no whole number in it has more digits than are
read. -/
def Save.Durable (s : Save) : Prop :=
  s.toJson.Finite ∧ s.toJson.fits (some Json.maxDigits) = true

/-- The text of each finite double in the value reads back as that double. -/
def Json.Printed (v : Json) : Prop :=
  ∀ x ∈ v.doubles, isFinite x = true → Layout.compact.Keeps x

/-- It does in every value. -/
theorem Json.printed (v : Json) : v.Printed := fun _ _ hx => Json.keeps_of_finite _ hx

/-! ## The version of a stored save -/

namespace Migration

variable {version target : Int} {ms ns : Json.Members} {v w : Json}

theorem versionOf_of_get? (h : ms.get? "version" = some (.int version)) :
    versionOf ms = .ok version := by
  rw [versionOf, h]

/-- Every version but the first is written down. -/
theorem get?_of_versionOf (h : versionOf ms = .ok version) (hlater : version ≠ 1) :
    ms.get? "version" = some (.int version) := by
  unfold versionOf at h
  split at h
  · exact absurd (Except.ok.inj h).symm hlater
  · exact absurd (Except.ok.inj h).symm hlater
  · rename_i hget
    rw [hget, Except.ok.inj h]
  · cases h

/-- The step to version 2 writes the version down. -/
theorem get?_of_upgradeFirst (h : upgradeFirst ms = .ok ns) :
    ns.get? "version" = some (.int 2) := by
  obtain ⟨flags, -, rfl⟩ := ok_of_map h
  exact Json.Members.get?_insert_self ..

/-- Members that were brought to a version are of that version. -/
theorem versionOf_of_upgradeMembers (hversion : versionOf ms = .ok version)
    (h : upgradeMembers version target ms = .ok ns) : versionOf ns = .ok target := by
  rcases upgradeMembers_eq_ok h with ⟨rfl, rfl⟩ | ⟨-, rfl, hfirst⟩
  · exact hversion
  · exact versionOf_of_get? (get?_of_upgradeFirst hfirst)

theorem exists_of_upgradeTo (h : upgradeTo target v = .ok w) :
    ∃ ms, w = .obj ms ∧ versionOf ms = .ok target := by
  cases v with
  | obj ms =>
    obtain ⟨version, hversion, hmembers⟩ := ok_of_bind h
    obtain ⟨ns, hns, rfl⟩ := ok_of_map hmembers
    exact ⟨ns, rfl, versionOf_of_upgradeMembers hversion hns⟩
  | _ => cases h

end Migration

namespace Storage

theorem upgrade_toJson (s : Save) (h : s.version = Save.currentVersion) (f : Float → Json) :
    Migration.upgrade (s.toJson.withDoubles f) = .ok (s.toJson.withDoubles f) := by
  rw [Save.toJson, h]
  rw [Json.withDoubles_obj]
  rfl

/-- What was brought up to date says so. -/
theorem version_of_upgrade {v w : Json} (h : Migration.upgrade v = .ok w) :
    ∃ ms, w = .obj ms ∧ Json.Members.get? "version" ms = some (.int Save.currentVersion) := by
  obtain ⟨ms, hw, hversion⟩ := Migration.exists_of_upgradeTo h
  exact ⟨ms, hw, Migration.get?_of_versionOf hversion (by decide)⟩

/-- The save that was read from a record of the present version is of that version. -/
theorem version_of_read {ms : Json.Members} {s : Save}
    (hms : Json.Members.get? "version" ms = some (.int Save.currentVersion))
    (h : Save.read (.obj ms) = .good s) : s.version = Save.currentVersion := by
  obtain ⟨hversion, -⟩ := Save.fields_of_read h
  have hread := Schema.read_of_withDefault hms hversion
  rw [Schema.integer_int] at hread
  exact (Schema.Checked.good.inj hread).symm

/-- What is read from storage is valid, whatever the text. -/
theorem valid_of_readSave {text : String} {s : Save} (h : readSave text = .ok s) : s.Valid := by
  unfold readSave at h
  split at h
  · cases h
  · cases h
  · split at h
    · cases h
    · rename_i w hupgrade
      obtain ⟨ms, rfl, hms⟩ := version_of_upgrade hupgrade
      split at h
      · cases h
      · rename_i t hread
        rw [← Except.ok.inj h]
        exact Save.valid_of_read hread (version_of_read hms hread)

/-! ## Saves that come back -/

section

variable {s : Save}

/-- The text of a save as a JSON value. -/
theorem read_toText (h : s.Valid) (hprinted : s.toJson.Printed) :
    Json.read s.toText =
      if s.toJson.fits (some Json.maxDigits) then .ok (s.toJson.withDoubles Json.stored)
      else .error .numberTooLong :=
  Json.readChars_write Json.readable_compact (Save.distinct_toJson h) fun x hx =>
    Json.reads_stored rfl (hprinted x hx)

/-- A durable save comes back as it was. -/
theorem readSave_toText (h : s.Valid) (hprinted : s.toJson.Printed) (hdurable : s.Durable) :
    readSave s.toText = .ok s := by
  have htext : Json.read s.toText = .ok s.toJson := by
    rw [read_toText h hprinted, if_pos hdurable.2, hdurable.1.stored]
  have hupgrade : Migration.upgrade s.toJson = .ok s.toJson := by
    have hstored := upgrade_toJson s h.version Json.stored
    rwa [hdurable.1.stored] at hstored
  unfold readSave
  rw [htext]
  dsimp only
  rw [hupgrade]
  dsimp only
  rw [Save.read_toJson h]

/-- A save that comes back at all was durable. -/
theorem durable_of_readSave (h : s.Valid) (hprinted : s.toJson.Printed) {t : Save}
    (hread : readSave s.toText = .ok t) : s.Durable := by
  by_cases hfits : s.toJson.fits (some Json.maxDigits) = true
  · have htext : Json.read s.toText = .ok (s.toJson.withDoubles Json.stored) := by
      rw [read_toText h hprinted, if_pos hfits]
    unfold readSave at hread
    rw [htext] at hread
    dsimp only at hread
    rw [upgrade_toJson s h.version] at hread
    dsimp only at hread
    split at hread
    · cases hread
    · rename_i hgood
      exact ⟨Save.finite_of_read h hgood, hfits⟩
  · have htext : Json.read s.toText = .error .numberTooLong := by
      rw [read_toText h hprinted, if_neg hfits]
    unfold readSave at hread
    rw [htext] at hread
    cases hread

/-- A valid save comes back if and only if it is durable, and then it comes back as it
was. -/
theorem readSave_toText_iff (h : s.Valid) (hprinted : s.toJson.Printed) (t : Save) :
    readSave s.toText = .ok t ↔ s.Durable ∧ t = s := by
  constructor
  · intro hread
    have hdurable := durable_of_readSave h hprinted hread
    rw [readSave_toText h hprinted hdurable] at hread
    exact ⟨hdurable, (Except.ok.inj hread).symm⟩
  · rintro ⟨hdurable, rfl⟩
    exact readSave_toText h hprinted hdurable

end

/-! ## Bundles -/

/-- Values that went well one after another went well each. -/
theorem forall₂_of_mapM {ε α β : Type} {f : α → Except ε β} {as : List α} {bs : List β}
    (h : as.mapM f = .ok bs) : List.Forall₂ (fun a b => f a = .ok b) as bs := by
  induction as generalizing bs with
  | nil =>
    rw [List.mapM_nil] at h
    rw [← Except.ok.inj h]
    exact List.Forall₂.nil
  | cons a as ih =>
    rw [List.mapM_cons] at h
    obtain ⟨b, hfirst, h⟩ := ok_of_bind h
    obtain ⟨rest, hrest, h⟩ := ok_of_bind h
    have hcons : b :: rest = bs := Except.ok.inj h
    rw [← hcons]
    exact List.Forall₂.cons hfirst (ih hrest)

/-- Items that go with those of a second list go with those of a third one over these. -/
theorem forall₂_of_forall₂ {α β γ : Type} {R : α → β → Prop} {S : β → γ → Prop} {as : List α}
    {bs : List β} {cs : List γ} (hR : List.Forall₂ R as bs) (hS : List.Forall₂ S bs cs) :
    List.Forall₂ (fun a c => ∃ b, R a b ∧ S b c) as cs := by
  induction hR generalizing cs with
  | nil =>
    cases hS
    exact List.Forall₂.nil
  | cons hfirst _ ih =>
    cases hS with
    | cons hsecond hrest => exact List.Forall₂.cons ⟨_, hfirst, hsecond⟩ (ih hrest)

/-- The record of a save in import data gives the save: it is brought up to date and read. -/
def Brings (x : Json) (s : Save) : Prop := ∃ w, Migration.upgrade x = .ok w ∧ Save.read w = .good s

theorem Brings.valid {x : Json} {s : Save} (h : Brings x s) : s.Valid := by
  obtain ⟨w, hupgrade, hread⟩ := h
  obtain ⟨ms, rfl, hversion⟩ := version_of_upgrade hupgrade
  exact Save.valid_of_read hread (version_of_read hversion hread)

/-- The fields of a bundle that are kept. -/
theorem Bundle.fields_of_read {ms : Json.Members} {b : Bundle}
    (h : Bundle.read (.obj ms) = .good b) :
    Schema.required "version" Schema.integer ms = .good b.version ∧
      Schema.withDefault "saves" [] (Schema.list Save.read) ms = .good b.saves ∧
      Schema.withDefault "settings" [] Schema.anyMap ms = .good b.settings := by
  rw [Bundle.read, Schema.ofRecord, Schema.Checked.eq_good_iff] at h
  simp only [Schema.Checked.exists_seq_eq_good, Schema.Checked.exists_map_eq_good] at h
  obtain ⟨_, hsettings, _, hsaves, _, -, _, hversion, rfl⟩ := h
  exact ⟨hversion, hsaves, hsettings⟩

/-- Members that were taken in had their saves brought up to date and were read as a whole. -/
theorem exists_read_of_readContents {ms : Json.Members} {b : Bundle}
    (h : readContents ms = .ok b) : ∃ xs ws, savesOf ms = .ok xs ∧
      xs.mapM Migration.upgrade = .ok ws ∧
      Bundle.read (.obj (ms.insert "saves" (.arr ws))) = .good b := by
  obtain ⟨xs, hxs, h⟩ := ok_of_bind h
  obtain ⟨ws, hws, h⟩ := ok_of_bind h
  refine ⟨xs, ws, hxs, ?_, ?_⟩
  · cases hmap : xs.mapM Migration.upgrade with
    | error f =>
      rw [hmap] at hws
      cases hws
    | ok vs =>
      rw [hmap] at hws
      rw [Except.ok.inj hws]
  · split at h
    · rename_i c hread
      rw [hread, Except.ok.inj h]
    · cases h

/-- The members of import data that a bundle was taken from: each of its saves was given by a
record, and its settings are as they stand there. -/
structure Bundle.TakenFrom (b : Bundle) (ms : Json.Members) : Prop where
  saves : ∃ xs, savesOf ms = .ok xs ∧ List.Forall₂ Brings xs b.saves
  settings : ms.get? "settings" = some (.obj b.settings) ∨
    ms.get? "settings" = none ∧ b.settings = []

theorem takenFrom_of_readContents {ms : Json.Members} {b : Bundle} (h : readContents ms = .ok b) :
    b.TakenFrom ms := by
  obtain ⟨xs, ws, hxs, hupgrade, hread⟩ := exists_read_of_readContents h
  obtain ⟨-, hsaves, hsettings⟩ := Bundle.fields_of_read hread
  constructor
  · have hlist := Schema.read_of_withDefault (Json.Members.get?_insert_self ..) hsaves
    refine ⟨xs, hxs, ?_⟩
    exact forall₂_of_forall₂ (forall₂_of_mapM hupgrade) (Schema.itemsFrom_eq_good hlist)
  · rw [Schema.withDefault, Json.Members.get?_insert_of_ne (by decide)] at hsettings
    cases hget : Json.Members.get? "settings" ms with
    | none =>
      rw [hget] at hsettings
      exact Or.inr ⟨rfl, (Schema.Checked.good.inj hsettings).symm⟩
    | some v =>
      rw [hget] at hsettings
      have hmap : Schema.anyMap v = .good b.settings := Schema.Checked.under_eq_good.mp hsettings
      cases v with
      | obj settings =>
        rw [← Schema.Checked.good.inj hmap]
        exact Or.inl rfl
      | _ => cases hmap

/-- The version of a bundle that was taken in is the one that its members declare. -/
theorem version_of_readContents {ms : Json.Members} {b : Bundle} {version : Int}
    (hversion : ms.get? "version" = some (.int version)) (h : readContents ms = .ok b) :
    b.version = version := by
  obtain ⟨_, ws, -, -, hread⟩ := exists_read_of_readContents h
  have hkept : Json.Members.get? "version" (ms.insert "saves" (.arr ws)) = some (.int version) := by
    rwa [Json.Members.get?_insert_of_ne (by decide)]
  have hgood := Schema.required_of_get? hkept (Schema.integer_int version)
  exact Schema.Checked.good.inj ((Bundle.fields_of_read hread).1.symm.trans hgood)

/-- A bundle that was read was taken in from the members of an object, and its version is
supported. -/
theorem readContents_of_readBundle {supported : Int} {data : BundleData} {b : Bundle}
    (h : readBundle supported data = .ok b) :
    ∃ ms, data.toJson = .ok (.obj ms) ∧ readContents ms = .ok b ∧ b.version ≤ supported := by
  obtain ⟨v, hv, h⟩ := ok_of_bind h
  split at h
  · rename_i ms
    split at h
    · rename_i version hversion
      split at h
      · cases h
      · rename_i hsupported
        rw [← version_of_readContents hversion h] at hsupported
        exact ⟨ms, hv, h, Int.not_lt.mp hsupported⟩
    · cases h
  · cases h

/-- A bundle that was read was taken from the members of an object. -/
theorem exists_takenFrom {supported : Int} {data : BundleData} {b : Bundle}
    (h : readBundle supported data = .ok b) :
    ∃ ms, data.toJson = .ok (.obj ms) ∧ b.TakenFrom ms := by
  obtain ⟨ms, hms, hcontents, -⟩ := readContents_of_readBundle h
  exact ⟨ms, hms, takenFrom_of_readContents hcontents⟩

/-- The saves of a bundle that was read are valid, whatever it was read from. -/
theorem valid_of_readBundle {supported : Int} {data : BundleData} {b : Bundle}
    (h : readBundle supported data = .ok b) : ∀ s ∈ b.saves, s.Valid := by
  obtain ⟨ms, -, htaken⟩ := exists_takenFrom h
  obtain ⟨xs, -, hsaves⟩ := htaken.saves
  intro s hs
  obtain ⟨x, -, hx⟩ := Schema.exists_of_mem_right hsaves hs
  exact hx.valid

end Storage

end Storyline
