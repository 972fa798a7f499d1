import Storyline.Proofs.Storage.Agreement
import Storyline.Proofs.Storage.Bundles

/-!
# From one storage to another

What one storage exports another one takes in.  The second has then what the first has, but
for doubles that are no numbers: a bundle writes null in place of them in a setting, and a save
that holds one is unreadable where it was stored and is left out.

* `Order.Builds`: orders that make up what a storage holds; `after_of_serves`: what they leave;
* `Ledger.survivor`: the saves that are exported, and `exportBundle_of_short`: the text;
* `importBundle_of_sent`: the text taken in by a storage that holds nothing;
* `Transfers`, `Passes`: what the second storage has in the end; `transfers_iff_of_serves`: when
  that is what the first one has;
* `Provider`: a folder or a service, and `transfers_iff`: the same for any two of these.
-/

namespace Storyline.Storage

variable {σ τ : Type}

/-! ## What is built -/

/-- The order writes or takes away what has an id that fits.  Saves are valid, the text of each
finite double reads back, and settings come back from their texts.  Of an import all this is asked
of what is kept, and that no half stands alone in a setting, since then no bundle has a text. -/
def Order.Builds (Fits : Kind → String → Prop) (version : Int) : Order → Prop
  | .saveSave save => Fits .save save.id ∧ save.Valid ∧ save.toJson.Printed
  | .deleteSave saveId => Fits .save saveId
  | .setSetting key value => Fits .setting key ∧ ∀ v, value = some v → v.Storable ∧ v.Printed
  | .importBundle data => ∀ b, readBundle version data = .ok b →
    (∀ s ∈ (b.kept data.oddities).saves, Fits .save s.id ∧ s.toJson.Printed) ∧
      ∀ m ∈ (b.kept data.oddities).settings,
        Fits .setting m.1 ∧ (m.2.Storable ∧ m.2.Printed) ∧ data.oddities.tears m.2 = false
  | .getSave _ | .getAllSaves | .getSetting _ | .clear | .exportBundle => False

/-- The state after orders, each at a moment. -/
def Store.after (store : Store σ) (s : σ) (orders : List (String × Order)) : σ :=
  orders.foldl (fun s o => (store.obey o.1 o.2 s).2) s

/-- What a ledger that was built holds. -/
def Ledger.Built (l : Ledger) : Prop :=
  l.All (fun s => s.Valid ∧ s.toJson.Printed) fun v => v.Storable ∧ v.Printed

section Building

variable {store : Store σ} {Fits : Kind → String → Prop} {Holds : Shelf → σ → Prop}
  {l : Ledger} {s : σ}

/-- An order leaves in the state what it leaves in the ledger. -/
theorem build_of_serves (hserves : store.backend.Serves Fits Holds) (hl : l.Built)
    (h : Holds l.shelf s) (now : String) {o : Order} (ho : o.Builds Fits store.version) :
    (l.obey store.version now o).2.Built ∧
      Holds (l.obey store.version now o).2.shelf (store.obey now o s).2 := by
  cases o with
  | saveSave save =>
    obtain ⟨t, hact, ht⟩ := saveSave_of_holds hserves h ho.1
    have hobey : store.obey now (.saveSave save) s = (.ok .nothing, t) := map_of_ok hact _
    rw [hobey]
    exact ⟨Ledger.all_holdSave hl ho.2, ht⟩
  | deleteSave saveId =>
    obtain ⟨t, hact, ht⟩ := deleteSave_of_holds hserves h ho
    have hobey : store.obey now (.deleteSave saveId) s = (.ok .nothing, t) := map_of_ok hact _
    rw [hobey]
    exact ⟨Ledger.all_erase hl saveId, ht⟩
  | setSetting key value =>
    cases value with
    | none => exact ⟨hl, h⟩
    | some v =>
      obtain ⟨t, hact, ht⟩ := setSetting_of_holds hserves h (m := (key, v)) ho.1 (ho.2 v rfl).1.fits
      have hobey : store.obey now (.setSetting key (some v)) s = (.ok .nothing, t) :=
        map_of_ok hact _
      rw [hobey]
      exact ⟨Ledger.all_holdSetting hl (m := (key, v)) (ho.2 v rfl), ht⟩
  | importBundle data =>
    cases hread : readBundle store.version data with
    | error f =>
      have hact : store.importBundle data s = (.error f, s) := by
        unfold Store.importBundle
        rw [hread]
        rfl
      have hobey : store.obey now (.importBundle data) s = (.error f, s) := map_of_error hact _
      rw [Ledger.obey_importBundle_of_error hread, hobey]
      exact ⟨hl, h⟩
    | ok b =>
      obtain ⟨hsaves, hsettings⟩ := ho b hread
      obtain ⟨t, hkeep, ht⟩ := keepBundle_of_holds hserves h (fun s hs => (hsaves s hs).1)
        fun m hm => (hsettings m hm).1
      rw [← Ledger.shelf_hold] at ht
      have hstate : (store.obey now (.importBundle data) s).2 = t := by
        have hact : store.importBundle data s =
            ((b.stop? data.oddities).elim (.ok ()) .error, t) := by
          unfold Store.importBundle
          rw [hread, bind_of_ok (Act.ofExcept_ok b s), hkeep]
        exact (snd_map _ _ _).trans (congrArg Prod.snd hact)
      rw [Ledger.obey_importBundle_of_ok hread, hstate]
      refine ⟨Ledger.all_hold hl (fun s hs => ?_) fun m hm => (hsettings m hm).2.1, ht⟩
      exact ⟨valid_of_readBundle hread s (Bundle.mem_saves_of_kept hs).1, (hsaves s hs).2⟩
  | getSave | getAllSaves | getSetting | clear | exportBundle => exact absurd ho id

/-- Any number of orders leave in the state what they leave in the ledger. -/
theorem after_of_serves (hserves : store.backend.Serves Fits Holds) (hl : l.Built)
    (h : Holds l.shelf s) {orders : List (String × Order)}
    (horders : ∀ o ∈ orders, o.2.Builds Fits store.version) :
    (l.after store.version orders).Built ∧
      Holds (l.after store.version orders).shelf (store.after s orders) := by
  induction orders generalizing l s with
  | nil => exact ⟨hl, h⟩
  | cons o orders ih =>
    obtain ⟨hl', h'⟩ := build_of_serves hserves hl h o.1 (horders o (List.mem_cons_self ..))
    exact ih hl' h' fun p hp => horders p (List.mem_cons_of_mem o hp)

end Building

/-! ## What is exported -/

namespace Ledger

/-- The save of an id, if all doubles in it are finite. -/
def survivor (l : Ledger) (saveId : String) : Option Save :=
  (l.saves.get? saveId).filter fun s => decide s.toJson.Finite

/-- No save has a number that is too long. -/
def Short (l : Ledger) : Prop :=
  ∀ saveId s, l.saves.get? saveId = some s → s.toJson.fits (some Json.maxDigits) = true

/-- The saves that can be read again, and the settings. -/
def exported (l : Ledger) (version : Int) (now : String) : Bundle :=
  ⟨version, now, ((ascending l.saves).filterMap l.survivor).mergeSort laterFirst, l.members⟩

variable {l : Ledger} {saveId : String} {save : Save}

theorem survivor_eq_some_iff :
    l.survivor saveId = some save ↔ l.saves.get? saveId = some save ∧ save.toJson.Finite := by
  simp [survivor, Option.filter_eq_some_iff]

theorem survivor_of_finite (hget : l.saves.get? saveId = some save) (h : save.toJson.Finite) :
    l.survivor saveId = some save := survivor_eq_some_iff.mpr ⟨hget, h⟩

theorem survivor_of_infinite (hget : l.saves.get? saveId = some save)
    (h : ¬ save.toJson.Finite) : l.survivor saveId = none := by
  simp [survivor, hget, h]

theorem survivor_of_none (hget : l.saves.get? saveId = none) : l.survivor saveId = none := by
  simp [survivor, hget]

/-- What a ledger that was built holds of saves is unreadable to the end where a number is too
long. -/
theorem overlong_iff_of_built (hl : l.Built) :
    l.shelf.Overlong saveId ↔ ∃ save, l.saves.get? saveId = some save ∧
      save.toJson.fits (some Json.maxDigits) ≠ true := by
  rw [overlong_shelf_iff]
  refine exists_congr fun save => and_congr_right fun hget => ?_
  obtain ⟨hvalid, hprinted⟩ := hl.saves saveId save hget
  refine ⟨fun hescape hfits => ?_, readSave_of_long hvalid hprinted⟩
  by_cases hfinite : save.toJson.Finite
  · rw [readSave_of_storable ⟨hvalid, hprinted, hfinite, hfits⟩] at hescape
    cases hescape
  · obtain ⟨f, hf⟩ := readSave_of_infinite hvalid hprinted hfits hfinite
    rw [hf] at hescape
    cases hescape

theorem mem_exported (version : Int) (now : String) :
    save ∈ (l.exported version now).saves ↔ ∃ id, l.survivor id = some save := by
  show save ∈ List.mergeSort _ _ ↔ _
  rw [List.mem_mergeSort, List.mem_filterMap]
  constructor
  · rintro ⟨id, -, hid⟩
    exact ⟨id, hid⟩
  · rintro ⟨id, hid⟩
    refine ⟨id, ((ascends_ascending l.saves).mem id).mpr ?_, hid⟩
    rw [(survivor_eq_some_iff.mp hid).1]
    exact Option.some_ne_none save

theorem mem_members {m : String × Json} :
    m ∈ l.members ↔ l.settings.get? m.1 = some m.2 := by
  unfold members
  rw [List.mem_filterMap]
  constructor
  · rintro ⟨key, -, hkey⟩
    obtain ⟨v, hv, rfl⟩ := Option.map_eq_some_iff.mp hkey
    exact hv
  · intro hget
    refine ⟨m.1, ((ascends_ascending l.settings).mem m.1).mpr ?_, ?_⟩
    · rw [hget]
      exact Option.some_ne_none m.2
    · rw [hget]
      rfl

theorem nodup_members (l : Ledger) : (l.members.map Prod.fst).Nodup := by
  have hsublist : (l.members.map Prod.fst).Sublist (ascending l.settings) := by
    unfold members
    generalize ascending l.settings = keys
    induction keys with
    | nil => exact List.Sublist.slnil
    | cons key keys ih =>
      rw [List.filterMap_cons]
      cases l.settings.get? key with
      | none => exact ih.cons key
      | some v => exact ih.cons_cons key
  exact (nodup_of_sorted (ascends_ascending l.settings).sorted).sublist hsublist

/-- What is exported comes through its text. -/
theorem sent_exported (hl : l.Built) (hshort : l.Short) {version : Int}
    (hversion : (Json.int version).fits (some Json.maxDigits) = true) (now : String) :
    (l.exported version now).Sent where
  version := hversion
  saves s hs := by
    obtain ⟨id, hid⟩ := (mem_exported _ _).mp hs
    obtain ⟨hget, hfinite⟩ := survivor_eq_some_iff.mp hid
    obtain ⟨hvalid, hprinted⟩ := hl.saves id s hget
    exact ⟨hvalid, hprinted, hfinite, hshort id s hget⟩
  names := nodup_members l
  settings m hm := (hl.settings m.1 m.2 (mem_members.mp hm)).1
  printed m hm := (hl.settings m.1 m.2 (mem_members.mp hm)).2

end Ledger

section Exporting

variable {store : Store σ} {Fits : Kind → String → Prop} {Holds : Shelf → σ → Prop}
  {l : Ledger} {s : σ}

variable (hserves : store.backend.Serves Fits Holds) (hl : l.Built) (h : Holds l.shelf s)

include hserves h

/-- The save of an id is what its text is read as. -/
theorem getSave_of_holds {saveId : String} (hid : Fits .save saveId) :
    store.getSave saveId s =
      (match l.saves.get? saveId with
        | none => .ok none
        | some save => (readSave save.toText).map some, s) := by
  rw [getSave_of_shelf hserves h hid, Ledger.shelf]
  cases l.saves.get? saveId <;> rfl

include hl

/-- What is read of several saves: those whose doubles are all finite. -/
theorem readSaves_of_short (hshort : l.Short) {ids : List String}
    (hids : ∀ saveId ∈ ids, Fits .save saveId) :
    store.readSaves ids s = (.ok (ids.filterMap l.survivor), s) := by
  have hread : ∀ saveId ∈ ids, ¬ l.shelf.Overlong saveId := by
    intro saveId _ hlong
    obtain ⟨save, hget, hsave⟩ := (Ledger.overlong_iff_of_built hl).mp hlong
    exact hsave (hshort saveId save hget)
  rw [readSaves_of_holds hserves h hids hread]
  refine congrArg (fun saves => (Except.ok saves, s)) (List.filterMap_congr fun saveId _ => ?_)
  cases hget : l.saves.get? saveId with
  | none => rw [Ledger.save?_shelf_of_none hget, Ledger.survivor_of_none hget]
  | some save =>
    obtain ⟨hvalid, hprinted⟩ := hl.saves saveId save hget
    rw [Ledger.save?_shelf hget]
    by_cases hfinite : save.toJson.Finite
    · rw [Ledger.survivor_of_finite hget hfinite, readSave_of_storable
        ⟨hvalid, hprinted, hfinite, hshort saveId save hget⟩]
      rfl
    · obtain ⟨f, hf⟩ := readSave_of_infinite hvalid hprinted (hshort saveId save hget) hfinite
      rw [Ledger.survivor_of_infinite hget hfinite, hf]
      rfl

theorem exportBundle_of_short (hshort : l.Short) (now : String) :
    store.exportBundle now s = (.ok (l.exported store.version now).toText, s) := by
  have hfits := fits_of_holds hserves h l.shelf_save_ne_none
  have hsaves : store.getAllSaves s = (.ok (l.exported store.version now).saves, s) := by
    unfold Store.getAllSaves
    rw [bind_of_ok (ids_of_holds hserves h l.shelf_save_ne_none),
      bind_of_ok (readSaves_of_short hserves hl h hshort hfits)]
    rfl
  have hsettings : store.allSettings s = (.ok l.members, s) :=
    allSettings_of_holds hserves h fun key v hv => (hl.settings key v hv).1
  have hbundle : store.bundle now s = (.ok (l.exported store.version now), s) := by
    unfold Store.bundle
    rw [bind_of_ok hsaves, bind_of_ok hsettings]
    rfl
  exact map_of_ok hbundle _

/-- Nothing is exported of a storage with a save that has a number which is too long. -/
theorem exportBundle_of_long (hlong : ¬ l.Short) (now : String) :
    store.exportBundle now s = (.error (.escape .numberTooLong), s) := by
  have hfits := fits_of_holds hserves h l.shelf_save_ne_none
  have hexists : ∃ saveId ∈ ascending l.saves, l.shelf.Overlong saveId := by
    by_contra hnone
    refine hlong fun saveId save hget => ?_
    by_contra hsave
    refine hnone ⟨saveId, ((ascends_ascending l.saves).mem saveId).mpr ?_,
      (Ledger.overlong_iff_of_built hl).mpr ⟨save, hget, hsave⟩⟩
    rw [hget]
    exact Option.some_ne_none save
  have hsaves : store.getAllSaves s = (.error (.escape .numberTooLong), s) := by
    unfold Store.getAllSaves
    rw [bind_of_ok (ids_of_holds hserves h l.shelf_save_ne_none)]
    exact bind_of_error (readSaves_of_overlong hserves h hfits hexists) _
  exact map_of_error (bind_of_error hsaves _) _

end Exporting

/-! ## What is taken in -/

/-- The last of several values under a name, if all values under it are one and the same. -/
theorem foldl_last {α β : Type} (name : α → String) (value : α → β) {id : String}
    {result : Option β} {xs : List α} (hsame : ∀ x ∈ xs, id = name x → some (value x) = result)
    {last : Option β} (hlast : last = result ∨ ∃ x ∈ xs, id = name x) :
    xs.foldl (fun last x => if id = name x then some (value x) else last) last = result := by
  induction xs generalizing last with
  | nil =>
    rcases hlast with hlast | ⟨x, hx, -⟩
    · exact hlast
    · cases hx
  | cons x xs ih =>
    have hsame' : ∀ y ∈ xs, id = name y → some (value y) = result := fun y hy =>
      hsame y (List.mem_cons_of_mem x hy)
    rw [List.foldl_cons]
    by_cases hid : id = name x
    · rw [if_pos hid]
      exact ih hsame' (Or.inl (hsame x (List.mem_cons_self ..) hid))
    · rw [if_neg hid]
      refine ih hsame' (hlast.imp_right ?_)
      rintro ⟨y, hy, hname⟩
      rcases List.mem_cons.mp hy with rfl | hy
      · exact absurd hname hid
      · exact ⟨y, hy, hname⟩

namespace Ledger

variable {l : Ledger} {version : Int} {now : String}

/-- The saves of a ledger that takes in what another one exports. -/
theorem get?_saves_received (hnamed : l.Named) (saveId : String) :
    (empty.hold (l.exported version now).received).saves.get? saveId = l.survivor saveId := by
  rw [hold, saves_foldl_holdSetting, get?_foldl_holdSave]
  refine foldl_last Save.id (fun s => s) (fun s hs hid => ?_) ?_
  · obtain ⟨id, hsurvivor⟩ := (mem_exported version now).mp hs
    have hname := hnamed id s (survivor_eq_some_iff.mp hsurvivor).1
    rw [hid, hname, hsurvivor]
  · cases hsurvivor : l.survivor saveId with
    | none => exact Or.inl rfl
    | some s =>
      have hname := hnamed saveId s (survivor_eq_some_iff.mp hsurvivor).1
      exact Or.inr ⟨s, (mem_exported version now).mpr ⟨saveId, hsurvivor⟩, hname.symm⟩

/-- The settings of a ledger that takes in what another one exports. -/
theorem get?_settings_received (key : String) :
    (empty.hold (l.exported version now).received).settings.get? key =
      (l.settings.get? key).map (·.withDoubles Json.stored) := by
  have hmem : ∀ {m : String × Json}, m ∈ (l.exported version now).received.settings ↔
      ∃ v, l.settings.get? m.1 = some v ∧ m.2 = v.withDoubles Json.stored := by
    intro m
    show m ∈ l.members.map (fun m => (m.1, m.2.withDoubles Json.stored)) ↔ _
    rw [List.mem_map]
    constructor
    · rintro ⟨n, hn, rfl⟩
      exact ⟨n.2, mem_members.mp hn, rfl⟩
    · rintro ⟨v, hv, hm⟩
      exact ⟨(m.1, v), mem_members.mpr hv, Prod.ext rfl hm.symm⟩
  rw [hold, get?_foldl_holdSetting, settings_foldl_holdSave]
  refine foldl_last Prod.fst Prod.snd (fun m hm hkey => ?_) ?_
  · obtain ⟨v, hv, hm⟩ := hmem.mp hm
    rw [hkey, hv, hm]
    rfl
  · cases hget : l.settings.get? key with
    | none => exact Or.inl rfl
    | some v =>
      have hm : (key, v.withDoubles Json.stored) ∈ (l.exported version now).received.settings :=
        hmem.mpr ⟨v, hget, rfl⟩
      exact Or.inr ⟨_, hm, rfl⟩

end Ledger

/-- A storage that holds nothing takes in a bundle that comes through its text. -/
theorem importBundle_of_sent {store : Store σ} {Fits : Kind → String → Prop}
    {Holds : Shelf → σ → Prop} (hserves : store.backend.Serves Fits Holds) {s : σ}
    (hs : Holds (fun _ _ => none) s) {b : Bundle} (hb : b.Sent)
    (hsupported : b.version ≤ store.version) (hids : ∀ save ∈ b.saves, Fits .save save.id)
    (hkeys : ∀ m ∈ b.settings, Fits .setting m.1) :
    ∃ t, store.importBundle (.text b.toText) s = (.ok (), t) ∧
      InStep Holds (Ledger.empty.hold b.received) t := by
  have hbare : Holds Ledger.empty.shelf s := (inStep_empty hs).2
  have hkeys' : ∀ m ∈ b.received.settings, Fits .setting m.1 := by
    intro m hm
    obtain ⟨n, hn, rfl⟩ := List.mem_map.mp hm
    exact hkeys n hn
  have hordinary := Bundle.ordinary_of_sent hb
  have hkept := Bundle.kept_of_ordinary hordinary
  obtain ⟨t, hkeep, ht⟩ := keepBundle_of_holds (o := .ofText b.toText) (b := b.received) hserves
    hbare (by rw [hkept]; exact hids) (by rw [hkept]; exact hkeys')
  rw [Bundle.stop?_of_ordinary hordinary] at hkeep
  rw [hkept, ← Ledger.shelf_hold] at ht
  have hall : (Ledger.empty.hold b.received).All Save.Storable Json.Storable :=
    Ledger.all_hold Ledger.all_empty hb.saves hb.storable_received
  refine ⟨t, ?_, Ledger.storable_iff.mpr hall, ht⟩
  unfold Store.importBundle
  rw [readBundle_toText hb hsupported, bind_of_ok (Act.ofExcept_ok b.received s)]
  exact hkeep

/-! ## From one storage to another -/

/-- The second storage takes in what the first one exports, and has then what the first one
has under the ids that fit both. -/
def Transfers (source : Store σ) (s : σ) (target : Store τ) (t : τ)
    (Fits : Kind → String → Prop) (now : String) : Prop :=
  ∃ text u, (source.exportBundle now s).1 = .ok text ∧
    target.importBundle (.text text) t = (.ok (), u) ∧
    (∀ saveId, Fits .save saveId → (target.getSave saveId u).1 = (source.getSave saveId s).1) ∧
    ∀ key, Fits .setting key → (target.getSetting key u).1 = (source.getSetting key s).1

/-- The second storage takes in what the first one exports, and has then these saves and
settings. -/
def Passes (source : Store σ) (s : σ) (target : Store τ) (t : τ) (Fits : Kind → String → Prop)
    (now : String) (saves : String → Option Save) (settings : String → Option Json) : Prop :=
  ∃ text u, (source.exportBundle now s).1 = .ok text ∧
    target.importBundle (.text text) t = (.ok (), u) ∧
    (∀ saveId, Fits .save saveId → (target.getSave saveId u).1 = .ok (saves saveId)) ∧
    ∀ key, Fits .setting key → (target.getSetting key u).1 = .ok (settings key)

section Transferring

variable {source : Store σ} {target : Store τ} {Fits : Kind → String → Prop}
  {Holds : Shelf → σ → Prop} {Holds' : Shelf → τ → Prop} {l : Ledger} {s : σ} {t : τ}

variable (hsource : source.backend.Serves Fits Holds) (htarget : target.backend.Serves Fits Holds')
  (hl : l.Built) (hnamed : l.Named) (hs : Holds l.shelf s) (ht : Holds' (fun _ _ => none) t)
  (hversion : source.version ≤ target.version)
  (hdigits : (Json.int source.version).fits (some Json.maxDigits) = true)

include hsource htarget hl hnamed hs ht hversion hdigits

/-- What a storage gives that took in what another one exported. -/
theorem passes_of_short (hshort : l.Short) (now : String) :
    Passes source s target t Fits now l.survivor
      fun key => (l.settings.get? key).map (·.withDoubles Json.stored) := by
  have hsent : (l.exported source.version now).Sent := Ledger.sent_exported hl hshort hdigits now
  have hids : ∀ save ∈ (l.exported source.version now).saves, Fits .save save.id := by
    intro save hsave
    obtain ⟨id, hsurvivor⟩ := (Ledger.mem_exported _ _).mp hsave
    have hget := (Ledger.survivor_eq_some_iff.mp hsurvivor).1
    rw [hnamed id save hget]
    exact fits_of_save hsource hs hget
  have hkeys : ∀ m ∈ (l.exported source.version now).settings, Fits .setting m.1 := by
    intro m hm
    exact fits_of_setting hsource hs (Ledger.mem_members.mp hm)
  obtain ⟨u, himport, hu⟩ := importBundle_of_sent htarget ht hsent hversion hids hkeys
  refine ⟨_, u, ?_, himport, fun saveId hid => ?_, fun key hkey => ?_⟩
  · rw [exportBundle_of_short hsource hl hs hshort now]
  · rw [getSave_of_inStep htarget hu hid, Ledger.get?_saves_received hnamed]
  · rw [getSetting_of_holds htarget hu.2 hu.1.settings hkey, Ledger.get?_settings_received]

/-- A storage passes on what it holds if and only if all saves come back from their texts and
all doubles in settings are finite. -/
theorem transfers_iff_of_serves (now : String) :
    Transfers source s target t Fits now ↔
      (∀ saveId save, l.saves.get? saveId = some save → save.Durable) ∧
        ∀ key v, l.settings.get? key = some v → v.Finite := by
  have hkept : ∀ key v, l.settings.get? key = some v → v.Storable := fun key v hv =>
    (hl.settings key v hv).1
  constructor
  · rintro ⟨text, u, hexport, himport, hsaves, hsettings⟩
    have hshort : l.Short := by
      by_contra hlong
      rw [exportBundle_of_long hsource hl hs hlong now] at hexport
      cases hexport
    obtain ⟨text', u', hexport', himport', hsaves', hsettings'⟩ :=
      passes_of_short hsource htarget hl hnamed hs ht hversion hdigits hshort now
    -- the two transfers are the same one
    rw [hexport'] at hexport
    cases hexport
    rw [himport'] at himport
    cases himport
    constructor
    · intro saveId save hget
      have hid : Fits .save saveId := fits_of_save hsource hs hget
      have hsame := (hsaves' saveId hid).symm.trans (hsaves saveId hid)
      obtain ⟨hvalid, hprinted⟩ := hl.saves saveId save hget
      refine ⟨?_, hshort saveId save hget⟩
      by_contra hinfinite
      obtain ⟨f, hf⟩ := readSave_of_infinite hvalid hprinted (hshort saveId save hget) hinfinite
      simp only [getSave_of_holds hsource hs hid, hget, hf] at hsame
      cases hsame
    · intro key v hget
      have hkey : Fits .setting key := fits_of_setting hsource hs hget
      have hsame := (hsettings' key hkey).symm.trans (hsettings key hkey)
      simp only [getSetting_of_holds hsource hs hkept hkey, hget, Option.map_some] at hsame
      exact Json.withDoubles_stored_eq_self_iff.mp
        (Option.some_inj.mp (Except.ok.inj hsame))
  · rintro ⟨hdurable, hfinite⟩
    have hshort : l.Short := fun saveId save hget => (hdurable saveId save hget).2
    obtain ⟨text, u, hexport, himport, hsaves, hsettings⟩ :=
      passes_of_short hsource htarget hl hnamed hs ht hversion hdigits hshort now
    refine ⟨text, u, hexport, himport, fun saveId hid => ?_, fun key hkey => ?_⟩
    · rw [hsaves saveId hid, getSave_of_holds hsource hs hid]
      cases hget : l.saves.get? saveId with
      | none => rw [Ledger.survivor_of_none hget]
      | some save =>
        obtain ⟨hvalid, hprinted⟩ := hl.saves saveId save hget
        have hsave := hdurable saveId save hget
        rw [Ledger.survivor_of_finite hget hsave.1]
        dsimp only
        rw [readSave_toText hvalid hprinted hsave]
        rfl
    · rw [hsettings key hkey, getSetting_of_holds hsource hs hkept hkey]
      dsimp only
      cases hget : l.settings.get? key with
      | none => rfl
      | some v =>
        rw [Option.map_some, (hfinite key v hget).stored]

end Transferring

/-! ## Folders and services -/

/-- A storage in a folder, or behind a service that has a key of its own. -/
inductive Provider where
  | folder (f : Folder)
  | service (c : Client) (serverKey : String)

/-- Primitives that serve do so within a narrower range of ids. -/
theorem Backend.Serves.restrict {b : Backend σ} {Fits Range : Kind → String → Prop}
    {Holds : Shelf → σ → Prop} (h : b.Serves Fits Holds)
    (hrange : ∀ kind id, Range kind id → Fits kind id) :
    b.Serves Range fun m s => Holds m s ∧ ∀ kind id, m kind id ≠ none → Range kind id where
  read hs hid := h.read hs.1 (hrange _ _ hid)
  write text hs hid := by
    obtain ⟨t, hwrite, ht⟩ := h.write text hs.1 (hrange _ _ hid)
    exact ⟨t, hwrite, ht, Shelf.forall_set hs.2 hid _⟩
  remove hs hid := by
    obtain ⟨t, hremove, ht⟩ := h.remove hs.1 (hrange _ _ hid)
    exact ⟨t, hremove, ht, Shelf.forall_set hs.2 hid _⟩
  ids kind hs := h.ids kind hs.1
  fits hs hrecord := hs.2 _ _ hrecord

namespace Provider

/-- What the storage works on. -/
def State : Provider → Type
  | folder _ => Disk
  | service .. => Kv.Store

/-- The primitives of the storage. -/
def backend : (p : Provider) → Backend p.State
  | folder f => f.backend
  | service c serverKey => c.backend (Kv.transport serverKey)

/-- The service, if there is one, lets the client in. -/
def Reachable : Provider → Prop
  | folder _ => True
  | service c serverKey => c.Reaches serverKey

/-- The storage keeps what has the id under that id. -/
def Fits : Provider → Kind → String → Prop
  | folder _, _, id => Folder.Keepable id
  | service c _, kind, id => Client.Carries (c.key kind id)

/-- Both storages keep what has the id under that id. -/
def FitBoth (p q : Provider) (kind : Kind) (id : String) : Prop := p.Fits kind id ∧ q.Fits kind id

/-- The storage, with the version of its bundles. -/
def store (p : Provider) (version : Int) : Store p.State := ⟨p.backend, version⟩

/-- The storage holds nothing. -/
def Vacant : (p : Provider) → p.State → Prop
  | folder f, d => f.Vacant d
  | service c _, kv => ∀ kind, Kv.Store.listed kv (c.key kind "") = []

/-- The storage holds the texts of a shelf. -/
def Holds : (p : Provider) → Shelf → p.State → Prop
  | folder f => f.Holds
  | service c _ => c.Holds

variable {p q : Provider}

theorem serves (h : p.Reachable) : p.backend.Serves p.Fits p.Holds := by
  cases p with
  | folder f => exact f.serves
  | service c serverKey => exact Client.serves h

theorem holds_of_vacant {s : p.State} (h : p.Vacant s) : p.Holds (fun _ _ => none) s := by
  cases p with
  | folder f => exact Folder.holds_of_vacant h
  | service c serverKey => exact Client.holds_of_foreign h

end Provider

/-- What one storage has of valid saves and of settings that were written, taken away or brought
in, it passes on to a storage that holds nothing if and only if all doubles in it are finite and
no whole number in a save is too long.  Whenever no number is too long, the second storage has
the saves without doubles that are no numbers, and the settings with null in place of these. -/
theorem transfers_iff {p q : Provider} (hp : p.Reachable) (hq : q.Reachable) {s : p.State}
    (hs : p.Vacant s) {t : q.State} (ht : q.Vacant t) {version supported : Int}
    (hversion : version ≤ supported)
    (hdigits : (Json.int version).fits (some Json.maxDigits) = true)
    {orders : List (String × Order)} (hbuilds : ∀ o ∈ orders, o.2.Builds (p.FitBoth q) version)
    (now : String) :
    (Transfers (p.store version) ((p.store version).after s orders) (q.store supported) t
        (p.FitBoth q) now ↔
      (∀ saveId save, Ledger.lastSave version orders saveId = some save → save.Durable) ∧
        ∀ key v, Ledger.lastSetting version orders key = some v → v.Finite) ∧
    ((∀ saveId save, Ledger.lastSave version orders saveId = some save →
        save.toJson.fits (some Json.maxDigits) = true) →
      Passes (p.store version) ((p.store version).after s orders) (q.store supported) t
        (p.FitBoth q) now
        (fun saveId => (Ledger.lastSave version orders saveId).filter fun save =>
          decide save.toJson.Finite)
        fun key => (Ledger.lastSetting version orders key).map (·.withDoubles Json.stored)) := by
  have hsource : (p.store version).backend.Serves (p.FitBoth q) _ :=
    (Provider.serves hp).restrict fun _ _ hid => hid.1
  have htarget : (q.store supported).backend.Serves (p.FitBoth q) _ :=
    (Provider.serves hq).restrict fun _ _ hid => hid.2
  have hstart : p.Holds Ledger.empty.shelf s ∧
      ∀ kind id, Ledger.empty.shelf kind id ≠ none → p.FitBoth q kind id :=
    ⟨(inStep_empty (Provider.holds_of_vacant hs)).2,
      fun kind id hheld => absurd (Ledger.shelf_empty kind id) hheld⟩
  obtain ⟨hl, hheld⟩ := after_of_serves hsource Ledger.all_empty hstart hbuilds
  have hnamed := Ledger.named_after Ledger.named_empty version orders
  have hsaves : (Ledger.empty.after version orders).saves.get? =
      Ledger.lastSave version orders :=
    funext (Ledger.get?_saves_after Ledger.empty version orders)
  have hsettings : (Ledger.empty.after version orders).settings.get? =
      Ledger.lastSetting version orders :=
    funext (Ledger.get?_settings_after Ledger.empty version orders)
  have hempty := Provider.holds_of_vacant ht
  rw [← hsaves, ← hsettings]
  exact ⟨transfers_iff_of_serves hsource htarget hl hnamed hheld ⟨hempty, nofun⟩ hversion hdigits
    now, fun hshort => passes_of_short hsource htarget hl hnamed hheld ⟨hempty, nofun⟩ hversion
      hdigits hshort now⟩

/-! ## An example -/

/-- A folder at the gate. -/
def gateDrawer : Provider := .folder ⟨⟨"", ["narrative"]⟩⟩

/-- The service at the gate. -/
def gateDesk : Provider := .service gateClient ""

/-- At the gate a game is saved and the volume is set. -/
def gateBuilding (volume : Float) : List (String × Order) :=
  [("5", .saveSave gateSave), ("6", .setSetting "volume" (some (.float volume)))]

section Gate

variable {volume : Float}

theorem vacant_gateDrawer : gateDrawer.Vacant Disk.empty := Folder.vacant_empty (by decide)

theorem vacant_gateDesk : gateDesk.Vacant gateService := by
  intro kind
  cases kind <;> decide

theorem fitBoth_gate (kind : Kind) : ∀ id ∈ ["ann 1", "volume"],
    gateDrawer.FitBoth gateDesk kind id := by
  intro id hid
  show Folder.Keepable id ∧ Client.Carries (gateClient.key kind id)
  rw [Client.carries_iff, Folder.Keepable]
  revert id
  cases kind <;> decide

theorem builds_gate
    (hsettings : Decimal.isFinite volume = true → Decimal.Layout.settings.Keeps volume)
    (hcompact : Decimal.isFinite volume = true → Decimal.Layout.compact.Keeps volume) :
    ∀ o ∈ gateBuilding volume, o.2.Builds (gateDrawer.FitBoth gateDesk) 1 := by
  intro o ho
  rcases List.mem_cons.mp ho with rfl | ho
  · exact ⟨fitBoth_gate .save _ (by decide), storable_gateSave.valid, storable_gateSave.printed⟩
  · rw [List.mem_singleton.mp ho]
    refine ⟨fitBoth_gate .setting _ (by decide), fun v hv => ?_⟩
    rw [← Option.some_inj.mp hv]
    refine ⟨⟨.float volume, rfl, fun x hx => ?_⟩, fun x hx => ?_⟩
    · rw [List.mem_singleton.mp hx]
      exact hsettings
    · rw [List.mem_singleton.mp hx]
      exact hcompact

theorem durable_gate {saveId : String} {save : Save}
    (h : Ledger.lastSave 1 (gateBuilding volume) saveId = some save) : save.Durable := by
  have hlast : Ledger.lastSave 1 (gateBuilding volume) saveId =
      if saveId = "ann 1" then some gateSave else none := rfl
  rw [hlast] at h
  split at h
  · rw [← Option.some_inj.mp h]
    exact storable_gateSave.durable
  · cases h

theorem finite_gate (hvolume : Decimal.isFinite volume = true) {key : String} {v : Json}
    (h : Ledger.lastSetting 1 (gateBuilding volume) key = some v) : v.Finite := by
  have hlast : Ledger.lastSetting 1 (gateBuilding volume) key =
      if key = "volume" then some (.float volume) else none := rfl
  rw [hlast] at h
  split at h
  · rw [← Option.some_inj.mp h]
    intro x hx
    rw [List.mem_singleton.mp hx]
    exact hvolume
  · cases h

end Gate

/-- At the gate a finite volume goes from the folder to the service, and an infinite one does
not: the service has null for it, beside the game. -/
theorem transfers_gate :
    Transfers (gateDrawer.store 1) ((gateDrawer.store 1).after Disk.empty (gateBuilding 0.5))
        (gateDesk.store 1) gateService (gateDrawer.FitBoth gateDesk) "7" ∧
      ¬ Transfers (gateDrawer.store 1)
        ((gateDrawer.store 1).after Disk.empty (gateBuilding (1.0 / 0.0)))
        (gateDesk.store 1) gateService (gateDrawer.FitBoth gateDesk) "7" ∧
      ∃ text u, ((gateDrawer.store 1).exportBundle "7"
          ((gateDrawer.store 1).after Disk.empty (gateBuilding (1.0 / 0.0)))).1 = .ok text ∧
        (gateDesk.store 1).importBundle (.text text) gateService = (.ok (), u) ∧
        ((gateDesk.store 1).getSave "ann 1" u).1 = .ok (some gateSave) ∧
        ((gateDesk.store 1).getSetting "volume" u).1 = .ok (some .null) := by
  have hopen : gateDrawer.Reachable := trivial
  have hreaches : gateDesk.Reachable := ⟨rfl, Or.inl rfl, rfl⟩
  have hinfinite : ¬ Decimal.isFinite (1.0 / 0.0) = true := by decide
  have hhalf : ∀ o ∈ gateBuilding 0.5, o.2.Builds (gateDrawer.FitBoth gateDesk) 1 :=
    builds_gate (fun _ => rfl) fun _ => rfl
  have hinfinity : ∀ o ∈ gateBuilding (1.0 / 0.0),
      o.2.Builds (gateDrawer.FitBoth gateDesk) 1 :=
    builds_gate (fun h => absurd h hinfinite) fun h => absurd h hinfinite
  have hfirst := transfers_iff hopen hreaches vacant_gateDrawer vacant_gateDesk (Int.le_refl 1)
    rfl hhalf "7"
  have hsecond := transfers_iff hopen hreaches vacant_gateDrawer vacant_gateDesk (Int.le_refl 1)
    rfl hinfinity "7"
  refine ⟨hfirst.1.mpr ⟨fun _ _ => durable_gate, fun _ _ => finite_gate rfl⟩,
    fun htransfers => ?_, ?_⟩
  · have hfinite := (hsecond.1.mp htransfers).2 "volume" (.float (1.0 / 0.0)) rfl
    exact hinfinite (hfinite (1.0 / 0.0) (List.mem_singleton_self _))
  · obtain ⟨text, u, hexport, himport, hgame, hsetting⟩ :=
      hsecond.2 fun _ _ hlast => (durable_gate hlast).2
    refine ⟨text, u, hexport, himport, ?_, ?_⟩
    · rw [hgame "ann 1" (fitBoth_gate .save _ (by decide))]
      rfl
    · rw [hsetting "volume" (fitBoth_gate .setting _ (by decide))]
      rfl

end Storyline.Storage
