import Mathlib.Data.List.Nodup
import Storyline.Proofs.Save.Wholes
import Storyline.Proofs.Storage.Agreement

/-!
# What an import leaves

Import data is checked as a whole before anything of it is written, but the check lets through
what has no text.  So an import changes nothing, or everything that it should, or it ends
half-way, and then what came before is written.

* `BundleData.Plain`: what is asked of import data;
* `Shelf.keep_save`, `Shelf.keep_setting`: what is on a shelf that a bundle was put on;
* `Store.Brought`: a bundle is there, and all else as it was;
* `importBundle_refused_or_kept`: import changes nothing, or brings what is kept of the bundle;
* `importBundle_gate`: one import that is refused, one that succeeds, one that ends half-way.
-/

namespace Storyline

/-- A plain value comes back from its text. -/
theorem Json.Plain.storable {v : Json} (h : v.Plain (some Json.maxDigits)) : v.Storable where
  distinct := h.distinct
  fits := h.fits
  printed _ _ hx := Json.keeps_of_finite _ hx

namespace Storage

/-! ## Import data -/

/-- No object that is written for a setting names a member twice, and no whole number in it is
longer than is read. -/
def Oddities.Plain (o : Oddities) : Prop :=
  ∀ setting ∈ o.foreign, ∀ v, setting.2 = some v → v.Plain (some Json.maxDigits)

/-- No object in the data names a member twice, and no whole number in it is longer than is
read.  A text has whatever it has. -/
def BundleData.Plain : BundleData → Prop
  | .text _ => True
  | .value v odd => v.Plain (some Json.maxDigits) ∧ odd.Plain
  | .bundle b odd => b.toJson.Plain (some Json.maxDigits) ∧ odd.Plain

/-- The value of import data is the data itself, the record of a bundle, or read from a text. -/
theorem BundleData.cases_of_toJson {data : BundleData} {v : Json} (h : data.toJson = .ok v) :
    (∃ odd, data = .value v odd ∧ data.oddities = odd) ∨
      (∃ b odd, data = .bundle b odd ∧ b.toJson = v) ∨
      ∃ s, data.oddities = .ofText s ∧ Json.read s = .ok v := by
  have htext : ∀ s : String, (BundleData.text s).toJson = .ok v → Json.read s = .ok v := by
    intro s hs
    cases hread : Json.read s with
    | ok w =>
      simp only [BundleData.toJson, hread] at hs
      rw [Except.ok.inj hs]
    | error fault => cases fault <;> simp [BundleData.toJson, hread] at hs
  cases data with
  | text s => exact .inr (.inr ⟨s, rfl, htext s h⟩)
  | value w odd =>
    cases w with
    | str s => exact .inr (.inr ⟨s, rfl, htext s h⟩)
    | _ => exact .inl ⟨odd, congrArg (BundleData.value · odd) (Except.ok.inj h), rfl⟩
  | bundle b odd => exact .inr (.inl ⟨b, odd, rfl, Except.ok.inj h⟩)

/-- The value of plain data is plain, and so is what is written for its settings. -/
theorem BundleData.Plain.toJson {data : BundleData} (h : data.Plain) {v : Json}
    (hv : data.toJson = .ok v) : v.Plain (some Json.maxDigits) ∧ data.oddities.Plain := by
  rcases cases_of_toJson hv with ⟨odd, rfl, hodd⟩ | ⟨b, odd, rfl, rfl⟩ | ⟨s, hodd, hread⟩
  · rw [hodd]
    exact h
  · exact h
  · rw [hodd]
    exact ⟨Json.plain_of_readChars hread, fun _ hsetting => absurd hsetting List.not_mem_nil⟩

/-- What is written for a plain setting is plain. -/
theorem Oddities.Plain.valueOf {o : Oddities} (h : o.Plain) {m : String × Json}
    (hm : m.2.Plain (some Json.maxDigits)) {v : Json} (hv : o.valueOf m = some v) :
    v.Plain (some Json.maxDigits) := by
  unfold Oddities.valueOf at hv
  cases hlookup : o.foreign.lookup m.1 with
  | none =>
    rw [hlookup] at hv
    rw [← Option.some.inj hv]
    exact hm
  | some w =>
    rw [hlookup] at hv
    obtain ⟨before, after, hforeign, -⟩ := List.lookup_eq_some_iff.mp hlookup
    refine h (m.1, w) ?_ v hv
    rw [hforeign]
    exact List.mem_append_right _ List.mem_cons_self

/-! ## What is taken in -/

/-- The last save of an id in a bundle. -/
def Bundle.save? (b : Bundle) (saveId : String) : Option Save :=
  b.saves.reverse.find? (·.id = saveId)

/-- The bundle has something under the id. -/
def Bundle.Names (b : Bundle) : Kind → String → Prop
  | .save, saveId => ∃ save ∈ b.saves, save.id = saveId
  | .setting, key => ∃ m ∈ b.settings, m.1 = key

section Taken

variable {b : Bundle} {ms : Json.Members}

theorem short_of_savesOf (h : (Json.obj ms).Short) {xs : List Json} (hxs : savesOf ms = .ok xs) :
    ∀ x ∈ xs, x.Short := by
  unfold savesOf at hxs
  split at hxs
  · rw [← Except.ok.inj hxs]
    exact fun x hx => absurd hx List.not_mem_nil
  · rename_i hget
    rw [← Except.ok.inj hxs]
    exact Json.short_arr.mp (h.of_get? hget)
  · cases hxs

/-- The saves of a bundle that was taken from plain members have short whole numbers. -/
theorem Bundle.TakenFrom.short (h : b.TakenFrom ms)
    (hms : (Json.obj ms).Plain (some Json.maxDigits)) : ∀ save ∈ b.saves, save.toJson.Short := by
  obtain ⟨xs, hxs, hsaves⟩ := h.saves
  intro save hsave
  obtain ⟨x, hx, w, hupgrade, hread⟩ := Schema.exists_of_mem_right hsaves hsave
  have hshort : x.Short := short_of_savesOf hms.fits hxs x hx
  exact Save.short_of_read w save (Migration.short_upgrade hshort hupgrade) hread

/-- What holds of all members and of an object without any holds of the settings taken from
them. -/
theorem Bundle.TakenFrom.settings_of (h : b.TakenFrom ms) {P : Json → Prop} (hnone : P (.obj []))
    (hmember : ∀ m ∈ ms, P m.2) : P (.obj b.settings) := by
  rcases h.settings with hget | ⟨-, hempty⟩
  · exact hmember _ (Json.Members.mem_of_get? hget)
  · rw [hempty]
    exact hnone

/-- The settings of a bundle that was taken from plain members are plain. -/
theorem Bundle.TakenFrom.plain (h : b.TakenFrom ms)
    (hms : (Json.obj ms).Plain (some Json.maxDigits)) :
    (Json.obj b.settings).Plain (some Json.maxDigits) :=
  h.settings_of (.obj List.nodup_nil nofun) fun _ hm => hms.member hm

end Taken

/-! ## A bundle on a shelf -/

/-- Texts put on a shelf one after another: under a name there is the last one. -/
theorem foldl_set {α : Type} (kind : Kind) (name text : α → String) (xs : List α) (m : Shelf)
    (k : Kind) (i : String) :
    xs.foldl (fun m x => m.set kind (name x) (some (text x))) m k i =
      if k = kind then ((xs.reverse.find? (name · = i)).map text).or (m k i) else m k i := by
  induction xs generalizing m with
  | nil => simp
  | cons x xs ih =>
    rw [List.foldl_cons, ih, List.reverse_cons, List.find?_append, Shelf.set]
    by_cases hk : k = kind
    · cases hfind : xs.reverse.find? (name · = i) with
      | some y => simp [hk]
      | none =>
        by_cases hname : name x = i
        · simp [hk, hname]
        · simp [hk, hname, Ne.symm hname]
    · simp [hk]

namespace Shelf

variable (m : Shelf) (b : Bundle)

theorem keep_save (saveId : String) :
    m.keep b .save saveId = ((b.save? saveId).map Save.toText).or (m .save saveId) := by
  rw [keep, foldl_set, if_neg (by decide), foldl_set, if_pos rfl, Bundle.save?]

theorem keep_setting (key : String) :
    m.keep b .setting key = ((b.settings.reverse.find? (·.1 = key)).map (·.2.write .spaced)).or
      (m .setting key) := by
  rw [keep, foldl_set, if_pos rfl, foldl_set, if_neg (by decide)]

/-- A bundle that is put on a shelf again changes nothing. -/
theorem keep_keep : (m.keep b).keep b = m.keep b := by
  funext kind id
  cases kind with
  | save => rw [keep_save, keep_save, ← Option.or_assoc, Option.or_self]
  | setting => rw [keep_setting, keep_setting, ← Option.or_assoc, Option.or_self]

/-- A bundle leaves all texts but those under its own ids. -/
theorem keep_of_not_names {kind : Kind} {id : String} (h : ¬ b.Names kind id) :
    m.keep b kind id = m kind id := by
  cases kind with
  | save =>
    have hnone : b.save? id = none := by
      refine List.find?_eq_none.mpr fun save hsave heq => h ⟨save, List.mem_reverse.mp hsave, ?_⟩
      exact of_decide_eq_true heq
    rw [keep_save, hnone]
    rfl
  | setting =>
    have hnone : b.settings.reverse.find? (·.1 = id) = none := by
      refine List.find?_eq_none.mpr fun v hv heq => h ⟨v, List.mem_reverse.mp hv, ?_⟩
      exact of_decide_eq_true heq
    rw [keep_setting, hnone]
    rfl

end Shelf

theorem Bundle.save?_eq_some {b : Bundle} {saveId : String} {save : Save}
    (h : b.save? saveId = some save) : save ∈ b.saves ∧ save.id = saveId :=
  ⟨List.mem_reverse.mp (List.mem_of_find?_eq_some h), by simpa using List.find?_some h⟩

/-- A setting whose key is its own is the last one of that key. -/
theorem find?_of_mem {ms : Json.Members} (h : (ms.map Prod.fst).Nodup) {v : String × Json}
    (hv : v ∈ ms) : ms.reverse.find? (·.1 = v.1) = some v := by
  cases hfind : ms.reverse.find? (·.1 = v.1) with
  | none =>
    have hne := List.find?_eq_none.mp hfind v (List.mem_reverse.mpr hv)
    exact absurd (decide_eq_true rfl) hne
  | some w =>
    have hw : w ∈ ms := List.mem_reverse.mp (List.mem_of_find?_eq_some hfind)
    have hname : w.1 = v.1 := by simpa using List.find?_some hfind
    rw [List.inj_on_of_nodup_map h hw hv hname]

/-! ## The import -/

/-- A bundle was brought to a state: for every id of it the state has the last save of that id, as
long as the doubles in it are finite, for every key of it its value, and of all other texts those
that were on the shelf before. -/
structure Store.Brought {σ : Type} (store : Store σ) (b : Bundle) (m m' : Shelf) (t : σ) :
    Prop where
  saves : ∀ saveId save, b.save? saveId = some save → save.toJson.Finite →
    store.getSave saveId t = (.ok (some save), t)
  settings : ∀ v ∈ b.settings, store.getSetting v.1 t = (.ok (some v.2), t)
  others : ∀ kind id, ¬ b.Names kind id → m' kind id = m kind id

section Importing

variable {σ : Type} {store : Store σ} {Fits : Kind → String → Prop} {Holds : Shelf → σ → Prop}
  {m : Shelf} {s t : σ} {b : Bundle}

variable (hserves : store.backend.Serves Fits Holds)

include hserves

theorem getSave_of_keep (h : Holds (m.keep b) t) {saveId : String} (hid : Fits .save saveId)
    {save : Save} (hsave : b.save? saveId = some save) (hstorable : save.Storable) :
    store.getSave saveId t = (.ok (some save), t) := by
  have htext : m.keep b .save saveId = some save.toText := by
    rw [Shelf.keep_save, hsave]
    rfl
  rw [getSave_of_shelf hserves h hid, htext]
  dsimp only
  rw [readSave_of_storable hstorable]
  rfl

theorem getSetting_of_keep (h : Holds (m.keep b) t) (hnames : (b.settings.map Prod.fst).Nodup)
    {v : String × Json} (hv : v ∈ b.settings) (hkey : Fits .setting v.1)
    (hstorable : v.2.Storable) : store.getSetting v.1 t = (.ok (some v.2), t) := by
  have hread : store.backend.read .setting v.1 t = (.ok (some (v.2.write .spaced)), t) := by
    rw [hserves.read h hkey, Shelf.keep_setting, find?_of_mem hnames hv]
    rfl
  unfold Store.getSetting
  rw [bind_of_ok hread]
  dsimp only
  rw [readSetting_write v.1 hstorable]
  rfl

/-- Importing a bundle that could be read, to its end or up to where it stops. -/
theorem importBundle_of_read {data : BundleData} (hread : readBundle store.version data = .ok b)
    (hfits : ∀ kind id, (b.kept data.oddities).Names kind id → Fits kind id) (h : Holds m s) :
    ∃ t, store.importBundle data s = ((b.stop? data.oddities).elim (.ok ()) .error, t) ∧
      Holds (m.keep (b.kept data.oddities)) t := by
  obtain ⟨t, hkeep, ht⟩ := keepBundle_of_holds hserves h
    (fun save hsave => hfits .save save.id ⟨save, hsave, rfl⟩)
    fun v hv => hfits .setting v.1 ⟨v, hv, rfl⟩
  refine ⟨t, ?_, ht⟩
  unfold Store.importBundle
  rw [hread, bind_of_ok (Act.ofExcept_ok b s)]
  exact hkeep

/-- What is kept of a bundle from plain data is brought. -/
theorem brought_of_keep {data : BundleData} (hdata : data.Plain)
    (hread : readBundle store.version data = .ok b)
    (hfits : ∀ kind id, (b.kept data.oddities).Names kind id → Fits kind id)
    (ht : Holds (m.keep (b.kept data.oddities)) t) :
    store.Brought (b.kept data.oddities) m (m.keep (b.kept data.oddities)) t := by
  obtain ⟨ms, hms, htaken⟩ := exists_takenFrom hread
  obtain ⟨hplain, hodd⟩ := hdata.toJson hms
  have hnames : ((b.kept data.oddities).settings.map Prod.fst).Nodup :=
    (htaken.plain hplain).names.sublist Bundle.keys_of_kept.sublist
  refine ⟨fun saveId save hlast hfinite => ?_, fun v hv => ?_,
    fun kind id hother => Shelf.keep_of_not_names m _ hother⟩
  · obtain ⟨hkept, rfl⟩ := Bundle.save?_eq_some hlast
    have hsave := (Bundle.mem_saves_of_kept hkept).1
    exact getSave_of_keep hserves ht (hfits .save save.id ⟨save, hkept, rfl⟩) hlast
      ⟨valid_of_readBundle hread save hsave, Json.printed _, hfinite,
        htaken.short hplain save hsave⟩
  · obtain ⟨w, hw, hsetting⟩ := Bundle.mem_settings_of_kept hv
    obtain ⟨-, hvalue, -, -⟩ := Oddities.setting_eq_ok hsetting
    have hv' := hodd.valueOf ((htaken.plain hplain).member hw) hvalue
    exact getSetting_of_keep hserves ht hnames hv (hfits .setting v.1 ⟨v, hv, rfl⟩) hv'.storable

/-- Whatever a storage holds and whatever plain data it is to import, either the data is refused
and nothing changes, or a bundle is taken from it, with saves of the present version.  Then what is
kept of the bundle is brought to the storage, and importing the same data again changes nothing.
The import fails with what stops it.  Nothing does exactly if no half of a surrogate pair stands
alone in a save or a key and every setting has a JSON form; then all saves are kept, and each
setting with that form. -/
theorem importBundle_refused_or_kept (h : Holds m s) {data : BundleData} (hdata : data.Plain)
    (hfits : ∀ b, readBundle store.version data = .ok b →
      ∀ kind id, (b.kept data.oddities).Names kind id → Fits kind id) :
    (∃ f, readBundle store.version data = .error f ∧ store.importBundle data s = (.error f, s)) ∨
      ∃ b ms m' t, readBundle store.version data = .ok b ∧
        data.toJson = .ok (.obj ms) ∧ b.TakenFrom ms ∧
        (∀ save ∈ b.saves, save.version = Save.currentVersion) ∧
        store.importBundle data s = ((b.stop? data.oddities).elim (.ok ()) .error, t) ∧
        Holds m' t ∧ store.Brought (b.kept data.oddities) m m' t ∧
        (b.stop? data.oddities = none ↔
          (∀ save ∈ b.saves, data.oddities.tears save.toJson = false) ∧
            ∀ v ∈ b.settings, data.oddities.tears (.str v.1) = false ∧
              (data.oddities.valueOf v).isSome) ∧
        (b.stop? data.oddities = none → (b.kept data.oddities).saves = b.saves ∧
          List.Forall₂ (fun v w => w.1 = v.1 ∧ data.oddities.valueOf v = some w.2)
            b.settings (b.kept data.oddities).settings) ∧
        ∃ u, store.importBundle data t = ((b.stop? data.oddities).elim (.ok ()) .error, u) ∧
          Holds m' u := by
  cases hread : readBundle store.version data with
  | error f =>
    refine Or.inl ⟨f, rfl, ?_⟩
    unfold Store.importBundle
    rw [hread]
    rfl
  | ok b =>
    obtain ⟨ms, hms, htaken⟩ := exists_takenFrom hread
    obtain ⟨hplain, hodd⟩ := hdata.toJson hms
    obtain ⟨t, himport, ht⟩ := importBundle_of_read hserves hread (hfits b hread) h
    obtain ⟨u, hagain, hu⟩ := importBundle_of_read hserves hread (hfits b hread) ht
    rw [Shelf.keep_keep] at hu
    have hstop : b.stop? data.oddities = none ↔
        (∀ save ∈ b.saves, data.oddities.tears save.toJson = false) ∧
          ∀ v ∈ b.settings, data.oddities.tears (.str v.1) = false ∧
            (data.oddities.valueOf v).isSome := by
      rw [Bundle.stop?_eq_none_iff]
      refine and_congr_right fun _ => forall₂_congr fun v hv => and_congr_right fun _ => ?_
      rw [Option.isSome_iff_exists]
      refine exists_congr fun w => and_iff_left_of_imp fun hw => ?_
      exact (hodd.valueOf ((htaken.plain hplain).member hv) hw).fits
    exact Or.inr ⟨b, ms, m.keep (b.kept data.oddities), t, rfl, hms, htaken,
      fun save hsave => (valid_of_readBundle hread save hsave).version, himport, ht,
      brought_of_keep hserves hdata hread (hfits b hread) ht, hstop, Bundle.kept_of_stop?,
      u, hagain, hu⟩

end Importing

/-! ## An example -/

/-- A game of Ann in the first layout. -/
def gateLegacy : Json := .obj [("id", .str "ann 1"), ("createdAt", .str "2024-05-01"),
  ("updatedAt", .str "2024-05-01"), ("player", .obj [("name", .str "Ann")]),
  ("currentPhase", .str "planning"), ("currentSceneId", .str "hall"), ("selectedFlight", .null)]

/-- The same game in the present layout. -/
def gateUpgraded : Save :=
  { gateSave with
    createdAt := "2024-05-01", updatedAt := "2024-05-01", currentSceneId := "hall"
    playTime := 0.0 }

/-- A game of a player whose name is half of a surrogate pair. -/
def gateTorn : Save :=
  { gateSave with id := "bob 1", player := ⟨String.ofList (Json.standIn 1 0xd800), none⟩ }

/-- One mark stands for a half. -/
def gateOddities : Oddities := ⟨some 1, []⟩

/-- Import data with records of saves and a volume. -/
def gateData (records : List Json) : BundleData :=
  .value (.obj [("version", .int 1), ("exported_at", .str "7"), ("saves", .arr records),
    ("settings", .obj [("volume", .float 0.5)])]) gateOddities

section Gate

variable {records : List Json}

theorem plain_gateData (h : ∀ x ∈ records, x.Plain (some Json.maxDigits)) :
    (gateData records).Plain := by
  refine ⟨.obj (by simp) ?_, fun _ hsetting => absurd hsetting List.not_mem_nil⟩
  simp only [List.forall_mem_cons]
  refine ⟨⟨.int _, rfl⟩, ⟨.str _, rfl⟩, .arr h, .obj (by simp) ?_,
    fun m hm => absurd hm List.not_mem_nil⟩
  exact List.forall_mem_singleton.mpr ⟨.float _, rfl⟩

theorem plain_gateSave : gateSave.toJson.Plain (some Json.maxDigits) :=
  ⟨Save.distinct_toJson storable_gateSave.valid, rfl⟩

theorem plain_gateTorn : gateTorn.toJson.Plain (some Json.maxDigits) :=
  ⟨Save.distinct_toJson ⟨rfl, Phase.known_planning, nofun, nofun⟩, rfl⟩

theorem plain_gateLegacy : gateLegacy.Plain (some Json.maxDigits) := by
  refine .obj (by decide) ?_
  simp only [List.forall_mem_cons]
  refine ⟨⟨.str _, rfl⟩, ⟨.str _, rfl⟩, ⟨.str _, rfl⟩, .obj (by simp) ?_, ⟨.str _, rfl⟩,
    ⟨.str _, rfl⟩, ⟨.null, rfl⟩, fun m hm => absurd hm List.not_mem_nil⟩
  exact List.forall_mem_singleton.mpr ⟨.str _, rfl⟩

end Gate

/-- At the gate a record that is no save keeps everything out, and a game in the first layout
replaces an earlier one of the same id.  With half of a surrogate pair in the second game the
data is not kept out: the import fails, but the first game has been written. -/
theorem importBundle_gate :
    (∃ f, (Store.mk (gateClient.backend (Kv.transport "")) 1).importBundle
        (gateData [gateSave.toJson, .null]) gateService = (.error f, gateService)) ∧
      (∃ t, (Store.mk (gateClient.backend (Kv.transport "")) 1).importBundle
          (gateData [gateSave.toJson, gateLegacy]) gateService = (.ok (), t) ∧
        (Store.mk (gateClient.backend (Kv.transport "")) 1).getSave "ann 1" t =
          (.ok (some gateUpgraded), t) ∧
        (Store.mk (gateClient.backend (Kv.transport "")) 1).getSetting "volume" t =
          (.ok (some (.float 0.5)), t)) ∧
      ∃ t, (Store.mk (gateClient.backend (Kv.transport "")) 1).importBundle
          (gateData [gateSave.toJson, gateTorn.toJson]) gateService =
            (.error (.escape .halfInText), t) ∧
        (Store.mk (gateClient.backend (Kv.transport "")) 1).getSave "ann 1" t =
          (.ok (some gateSave), t) := by
  have hserves : (Store.mk (gateClient.backend (Kv.transport "")) 1).backend.Serves _ _ :=
    Client.serves (c := gateClient) ⟨rfl, Or.inl rfl, rfl⟩
  have hforeign : ∀ kind, gateService.listed (gateClient.key kind "") = [] := by
    intro kind
    cases kind <;> decide
  have hcarries : ∀ kind, ∀ id ∈ ["ann 1", "volume"], Client.Carries (gateClient.key kind id) := by
    intro kind id hid
    rw [Client.carries_iff]
    revert id
    cases kind <;> decide
  -- only Ann's games and the volume are kept
  have hnames : ∀ b : Bundle, (∀ save ∈ b.saves, save.id = "ann 1") →
      (∀ v ∈ b.settings, v.1 = "volume") →
        ∀ kind id, b.Names kind id → Client.Carries (gateClient.key kind id) := by
    intro b hids hkeys kind id hnamed
    refine hcarries kind id ?_
    cases kind with
    | save =>
      obtain ⟨save, hsave, rfl⟩ := hnamed
      rw [hids save hsave]
      exact List.mem_cons_self
    | setting =>
      obtain ⟨v, hv, rfl⟩ := hnamed
      rw [hkeys v hv]
      exact List.mem_cons_of_mem _ List.mem_cons_self
  have hheld := Client.holds_of_foreign hforeign
  have hgood : readBundle 1 (gateData [gateSave.toJson, gateLegacy]) =
      .ok ⟨1, "7", [gateSave, gateUpgraded], [("volume", .float 0.5)]⟩ := rfl
  have hbad : readBundle 1 (gateData [gateSave.toJson, .null]) =
      .error (.fault (.malformedBundle (.migration .notObject))) := rfl
  have htorn : readBundle 1 (gateData [gateSave.toJson, gateTorn.toJson]) =
      .ok ⟨1, "7", [gateSave, gateTorn], [("volume", .float 0.5)]⟩ := rfl
  refine ⟨?_, ?_, ?_⟩
  · have hplain : (gateData [gateSave.toJson, .null]).Plain :=
      plain_gateData (List.forall_mem_cons.mpr
        ⟨plain_gateSave, List.forall_mem_singleton.mpr ⟨.null, rfl⟩⟩)
    have hfits : ∀ b, readBundle 1 (gateData [gateSave.toJson, .null]) = .ok b →
        ∀ kind id, (b.kept gateOddities).Names kind id →
          Client.Carries (gateClient.key kind id) := by
      intro b hread
      cases hbad.symm.trans hread
    rcases importBundle_refused_or_kept hserves hheld hplain hfits with
      ⟨f, -, himport⟩ | ⟨b, _, _, _, hread, -⟩
    · exact ⟨f, himport⟩
    · cases hbad.symm.trans hread
  · have hplain : (gateData [gateSave.toJson, gateLegacy]).Plain :=
      plain_gateData (List.forall_mem_cons.mpr
        ⟨plain_gateSave, List.forall_mem_singleton.mpr plain_gateLegacy⟩)
    have hfits : ∀ b, readBundle 1 (gateData [gateSave.toJson, gateLegacy]) = .ok b →
        ∀ kind id, (b.kept gateOddities).Names kind id →
          Client.Carries (gateClient.key kind id) := by
      intro b hread
      cases hgood.symm.trans hread
      exact hnames ⟨1, "7", [gateSave, gateUpgraded], [("volume", .float 0.5)]⟩ (by decide)
        (List.forall_mem_singleton.mpr rfl)
    rcases importBundle_refused_or_kept hserves hheld hplain hfits with
      ⟨f, hread, -⟩ | ⟨b, _, _, t, hread, -, -, -, himport, -, hbrought, -⟩
    · cases hgood.symm.trans hread
    · cases hgood.symm.trans hread
      exact ⟨t, himport, hbrought.saves "ann 1" gateUpgraded rfl (by decide),
        hbrought.settings ("volume", .float 0.5) (List.mem_singleton_self _)⟩
  · have hplain : (gateData [gateSave.toJson, gateTorn.toJson]).Plain :=
      plain_gateData (List.forall_mem_cons.mpr
        ⟨plain_gateSave, List.forall_mem_singleton.mpr plain_gateTorn⟩)
    have hfits : ∀ b, readBundle 1 (gateData [gateSave.toJson, gateTorn.toJson]) = .ok b →
        ∀ kind id, (b.kept gateOddities).Names kind id →
          Client.Carries (gateClient.key kind id) := by
      intro b hread
      cases htorn.symm.trans hread
      exact hnames ⟨1, "7", [gateSave], []⟩ (List.forall_mem_singleton.mpr rfl)
        (List.forall_mem_nil _)
    rcases importBundle_refused_or_kept hserves hheld hplain hfits with
      ⟨f, hread, -⟩ | ⟨b, _, _, t, hread, -, -, -, himport, -, hbrought, -⟩
    · cases htorn.symm.trans hread
    · cases htorn.symm.trans hread
      exact ⟨t, himport, hbrought.saves "ann 1" gateSave rfl storable_gateSave.durable.1⟩

end Storage

end Storyline
