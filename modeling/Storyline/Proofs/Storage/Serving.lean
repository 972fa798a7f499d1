import Storyline.Proofs.Storage.Act
import Storyline.Proofs.Storage.Ledger
import Storyline.Proofs.Storage.Stored

/-!
# A storage answers as its two maps

Wherever a backend keeps its texts, a storage over it answers as a ledger does, as long as
the texts that it keeps can be found and listed again.

* `Shelf`: texts under kinds and ids, and `Ledger.shelf`, those of a ledger;
* `Backend.Serves`: the primitives do to a state what they should do to its shelf;
* `Store.obey`, `Store.answers`: orders to a storage;
* `Order.Within`: the ids can be kept, and what is brought in comes back from its text;
* `obey_of_serves`: one order; `answers_of_serves`: any number of them.
-/

namespace Storyline

/-- The save comes back from its text: it is valid, finite, and has no number that is too
long. -/
structure Save.Storable (s : Save) : Prop where
  valid : s.Valid
  printed : s.toJson.Printed
  durable : s.Durable

/-- The setting comes back from its text: no object in it has two members of one name, no
number in it is too long, and the text of each finite double reads back. -/
structure Json.Storable (v : Json) : Prop where
  distinct : v.Distinct
  fits : v.fits (some Json.maxDigits) = true
  printed : ∀ x ∈ v.doubles, Decimal.isFinite x = true → Decimal.Layout.settings.Keeps x

namespace Storage

variable {σ : Type}

theorem readSave_of_storable {s : Save} (h : s.Storable) : readSave s.toText = .ok s :=
  readSave_toText h.valid h.printed h.durable

theorem readSave_of_overlong {text : String} (h : Json.read text = .error .numberTooLong) :
    readSave text = .error (.escape .numberTooLong) := by
  unfold readSave
  rw [h]

/-- A text that is no save is refused with a fault, unless a number in it is too long. -/
theorem readSave_eq_escape_iff {text : String} {e : Escape} :
    readSave text = .error (.escape e) ↔
      e = .numberTooLong ∧ Json.read text = .error .numberTooLong := by
  constructor
  · intro h
    unfold readSave at h
    split at h
    · rename_i hlong
      cases h
      exact ⟨rfl, hlong⟩
    · cases h
    · split at h
      · cases h
      · split at h <;> cases h
  · rintro ⟨rfl, hlong⟩
    exact readSave_of_overlong hlong

/-- A setting comes back from its text, numbers that are none included. -/
theorem readSetting_write (key : String) {v : Json} (h : v.Storable) :
    Store.readSetting key (v.write .spaced) = .ok v := by
  have hread : Json.read (v.write .spaced) = .ok v := by
    have htext : Json.read (v.write .spaced) =
        if v.fits (some Json.maxDigits) then .ok (v.withDoubles .float)
        else .error .numberTooLong :=
      Json.readChars_write Json.readable_spaced h.distinct fun x hx =>
        Json.reads_float rfl (h.printed x hx)
    rw [htext, if_pos h.fits, Json.withDoubles_eq_self fun _ _ => rfl]
  unfold Store.readSetting
  rw [hread]

/-! ## Shelves -/

/-- Texts under kinds and ids. -/
def Shelf : Type := Kind → String → Option String

/-- A shelf with another text, or none, under an id. -/
def Shelf.set (m : Shelf) (kind : Kind) (id : String) (record : Option String) : Shelf :=
  fun k i => if k = kind ∧ i = id then record else m k i

/-- What is under an id after a change, by whatever tells the ids apart. -/
theorem Shelf.set_eq_ite (m : Shelf) (record : Option String) {kind k : Kind} {id i : String}
    {P : Prop} [Decidable P] (h : P ↔ k = kind ∧ i = id) :
    m.set kind id record k i = if P then record else m k i := by
  unfold Shelf.set
  exact if_congr h.symm rfl rfl

/-- What is known of all ids on a shelf is known after a change, if it is known of the id
that was changed. -/
theorem Shelf.forall_set {m : Shelf} {Q : Kind → String → Prop}
    (h : ∀ k i, m k i ≠ none → Q k i) {kind : Kind} {id : String} (hid : Q kind id)
    (record : Option String) : ∀ k i, m.set kind id record k i ≠ none → Q k i := by
  intro k i hi
  unfold Shelf.set at hi
  split at hi
  · rename_i hsame
    rw [hsame.1, hsame.2]
    exact hid
  · exact h k i hi

/-- Nothing is new on a shelf from which something was taken. -/
theorem Shelf.ne_none_of_set {m : Shelf} {kind k : Kind} {id i : String}
    (h : m.set kind id none k i ≠ none) : m k i ≠ none := by
  unfold Shelf.set at h
  split at h
  · exact absurd rfl h
  · exact h

/-- Texts taken away one after another. -/
theorem foldl_set_none (kind : Kind) (ids : List String) (m : Shelf) (k : Kind) (i : String) :
    ids.foldl (fun m id => m.set kind id none) m k i =
      if k = kind ∧ i ∈ ids then none else m k i := by
  induction ids generalizing m with
  | nil => simp
  | cons id ids ih =>
    rw [List.foldl_cons, ih, Shelf.set]
    by_cases hk : k = kind
    · by_cases hi : i = id
      · simp [hk, hi]
      · simp [hi]
    · simp [hk]

/-- A shelf with the saves and then the settings of a bundle, one after another. -/
def Shelf.keep (m : Shelf) (b : Bundle) : Shelf :=
  b.settings.foldl (fun m v => m.set .setting v.1 (some (v.2.write .spaced)))
    (b.saves.foldl (fun m save => m.set .save save.id (some save.toText)) m)

/-- The save of an id on a shelf, if its text is one. -/
def Shelf.save? (m : Shelf) (saveId : String) : Option Save :=
  (m .save saveId).bind fun text => (readSave text).toOption

/-- The text of an id on a shelf has a whole number with more digits than are read. -/
def Shelf.Overlong (m : Shelf) (saveId : String) : Prop :=
  ∃ text, m .save saveId = some text ∧ Json.read text = .error .numberTooLong

/-- The setting of a key on a shelf, if its text is one. -/
def Shelf.setting? (m : Shelf) (key : String) : Option Json :=
  (m .setting key).bind fun text => (Store.readSetting key text).toOption

/-- The primitives do to a state what they should do to the shelf that it holds: they find,
replace and remove the text of an id that fits, and list the ids in order. -/
structure Backend.Serves (b : Backend σ) (Fits : Kind → String → Prop)
    (Holds : Shelf → σ → Prop) : Prop where
  read : ∀ {m s kind id}, Holds m s → Fits kind id → b.read kind id s = (.ok (m kind id), s)
  write : ∀ {m s kind id} (text : String), Holds m s → Fits kind id →
    ∃ t, b.write kind id text s = (.ok (), t) ∧ Holds (m.set kind id (some text)) t
  remove : ∀ {m s kind id}, Holds m s → Fits kind id →
    ∃ t, b.remove kind id s = (.ok (), t) ∧ Holds (m.set kind id none) t
  ids : ∀ {m s} (kind : Kind), Holds m s →
    ∃ ids, b.ids kind s = (.ok ids, s) ∧ Ascends (m kind) ids
  fits : ∀ {m s kind id}, Holds m s → m kind id ≠ none → Fits kind id

namespace Ledger

/-- The texts of a ledger. -/
def shelf (l : Ledger) : Shelf
  | .save, saveId => (l.saves.get? saveId).map Save.toText
  | .setting, key => (l.settings.get? key).map (·.write .spaced)

/-- All saves that a ledger holds are of one kind, and all settings of another. -/
structure All (P : Save → Prop) (Q : Json → Prop) (l : Ledger) : Prop where
  saves : ∀ saveId s, l.saves.get? saveId = some s → P s
  settings : ∀ key v, l.settings.get? key = some v → Q v

section All

variable {P : Save → Prop} {Q : Json → Prop} {l : Ledger}

theorem all_empty : empty.All P Q := ⟨nofun, nofun⟩

theorem all_holdSave (h : l.All P Q) {save : Save} (hsave : P save) :
    (l.holdSave save).All P Q := by
  refine ⟨fun saveId s hs => ?_, h.settings⟩
  rw [get?_holdSave] at hs
  split at hs
  · rw [← Option.some_inj.mp hs]
    exact hsave
  · exact h.saves saveId s hs

theorem all_holdSetting (h : l.All P Q) {m : String × Json} (hm : Q m.2) :
    (l.holdSetting m).All P Q := by
  refine ⟨h.saves, fun key v hv => ?_⟩
  rw [get?_holdSetting] at hv
  split at hv
  · rw [← Option.some_inj.mp hv]
    exact hm
  · exact h.settings key v hv

theorem all_erase (h : l.All P Q) (saveId : String) :
    ({ l with saves := l.saves.erase saveId } : Ledger).All P Q := by
  refine ⟨fun other s hs => ?_, h.settings⟩
  rw [Table.get?_erase] at hs
  split at hs
  · cases hs
  · exact h.saves other s hs

theorem all_hold (h : l.All P Q) {b : Bundle} (hsaves : ∀ s ∈ b.saves, P s)
    (hsettings : ∀ m ∈ b.settings, Q m.2) : (l.hold b).All P Q := by
  have hall : ∀ (ss : List Save) (l : Ledger), l.All P Q → (∀ s ∈ ss, P s) →
      (ss.foldl holdSave l).All P Q := by
    intro ss
    induction ss with
    | nil => exact fun l hl _ => hl
    | cons s ss ih =>
      intro l hl hss
      exact ih _ (all_holdSave hl (hss s (List.mem_cons_self ..)))
        fun t ht => hss t (List.mem_cons_of_mem s ht)
  have hmembers : ∀ (ms : Json.Members) (l : Ledger), l.All P Q → (∀ m ∈ ms, Q m.2) →
      (ms.foldl holdSetting l).All P Q := by
    intro ms
    induction ms with
    | nil => exact fun l hl _ => hl
    | cons m ms ih =>
      intro l hl hms
      exact ih _ (all_holdSetting hl (hms m (List.mem_cons_self ..)))
        fun n hn => hms n (List.mem_cons_of_mem m hn)
  exact hmembers b.settings _ (hall b.saves l h hsaves) hsettings

end All

/-- All that a ledger holds comes back from its text. -/
structure Storable (l : Ledger) : Prop where
  saves : ∀ saveId s, l.saves.get? saveId = some s → s.Storable
  settings : ∀ key v, l.settings.get? key = some v → v.Storable

variable {l : Ledger}

theorem storable_iff : l.Storable ↔ l.All Save.Storable Json.Storable :=
  ⟨fun h => ⟨h.saves, h.settings⟩, fun h => ⟨h.saves, h.settings⟩⟩

theorem storable_empty : Ledger.empty.Storable := storable_iff.mpr all_empty

theorem shelf_holdSave (l : Ledger) (save : Save) :
    (l.holdSave save).shelf = l.shelf.set .save save.id (some save.toText) := by
  funext kind id
  cases kind with
  | save =>
    show ((l.holdSave save).saves.get? id).map Save.toText = _
    rw [get?_holdSave, apply_ite (Option.map Save.toText),
      Shelf.set_eq_ite _ _ (P := id = save.id) (by simp)]
    rfl
  | setting => rfl

theorem shelf_holdSetting (l : Ledger) (m : String × Json) :
    (l.holdSetting m).shelf = l.shelf.set .setting m.1 (some (m.2.write .spaced)) := by
  funext kind id
  cases kind with
  | save => rfl
  | setting =>
    show ((l.holdSetting m).settings.get? id).map (Json.write .spaced) = _
    rw [get?_holdSetting, apply_ite (Option.map (Json.write .spaced)),
      Shelf.set_eq_ite _ _ (P := id = m.1) (by simp)]
    rfl

theorem shelf_hold (l : Ledger) (b : Bundle) : (l.hold b).shelf = l.shelf.keep b := by
  have hsaves : (b.saves.foldl holdSave l).shelf =
      b.saves.foldl (fun m save => m.set .save save.id (some save.toText)) l.shelf :=
    (List.foldl_hom shelf fun l save => (shelf_holdSave l save).symm).symm
  have hsettings : ∀ l : Ledger, (b.settings.foldl holdSetting l).shelf =
      b.settings.foldl (fun m v => m.set .setting v.1 (some (v.2.write .spaced))) l.shelf :=
    fun l => (List.foldl_hom shelf fun l m => (shelf_holdSetting l m).symm).symm
  rw [hold, hsettings, hsaves, Shelf.keep]

theorem shelf_erase (l : Ledger) (saveId : String) :
    ({ l with saves := l.saves.erase saveId } : Ledger).shelf =
      l.shelf.set .save saveId none := by
  funext kind id
  cases kind with
  | save =>
    show ((l.saves.erase saveId).get? id).map Save.toText = _
    rw [Table.get?_erase, apply_ite (Option.map Save.toText),
      Shelf.set_eq_ite _ _ (P := id = saveId) (by simp)]
    rfl
  | setting => rfl

theorem shelf_save_ne_none (l : Ledger) (saveId : String) :
    l.shelf .save saveId ≠ none ↔ l.saves.get? saveId ≠ none := by
  simp [shelf]

theorem shelf_setting_ne_none (l : Ledger) (key : String) :
    l.shelf .setting key ≠ none ↔ l.settings.get? key ≠ none := by
  simp [shelf]

theorem shelf_empty (kind : Kind) (id : String) : Ledger.empty.shelf kind id = none := by
  cases kind <;> rfl

/-- The save of an id on the shelf of a ledger is what its own text is read as. -/
theorem save?_shelf {saveId : String} {save : Save} (hget : l.saves.get? saveId = some save) :
    l.shelf.save? saveId = (readSave save.toText).toOption := by
  simp only [Shelf.save?, shelf, hget, Option.map_some, Option.bind_some]

theorem save?_shelf_of_none {saveId : String} (hget : l.saves.get? saveId = none) :
    l.shelf.save? saveId = none := by
  rw [Shelf.save?, shelf, hget]
  rfl

/-- The setting of a key on the shelf of a ledger is what its own text is read as. -/
theorem setting?_shelf {key : String} {v : Json} (hget : l.settings.get? key = some v) :
    l.shelf.setting? key = (Store.readSetting key (v.write .spaced)).toOption := by
  simp only [Shelf.setting?, shelf, hget, Option.map_some, Option.bind_some]

theorem setting?_shelf_of_none {key : String} (hget : l.settings.get? key = none) :
    l.shelf.setting? key = none := by
  rw [Shelf.setting?, shelf, hget]
  rfl

theorem overlong_shelf_iff {saveId : String} :
    l.shelf.Overlong saveId ↔ ∃ save, l.saves.get? saveId = some save ∧
      readSave save.toText = .error (.escape .numberTooLong) := by
  constructor
  · rintro ⟨text, htext, hlong⟩
    obtain ⟨save, hget, rfl⟩ := Option.map_eq_some_iff.mp htext
    exact ⟨save, hget, readSave_of_overlong hlong⟩
  · rintro ⟨save, hget, hlong⟩
    refine ⟨save.toText, ?_, (readSave_eq_escape_iff.mp hlong).2⟩
    rw [shelf, hget]
    rfl

end Ledger

/-! ## What a storage does -/

/-- The steps of a loop, each of which keeps a state in step with another one. -/
theorem forM_of_step {α β : Type} {f : α → Act σ Unit} {g : β → α → β} {R : β → σ → Prop}
    {xs : List α} (hstep : ∀ a ∈ xs, ∀ b s, R b s → ∃ t, f a s = (.ok (), t) ∧ R (g b a) t)
    {b : β} {s : σ} (h : R b s) : ∃ t, xs.forM f s = (.ok (), t) ∧ R (xs.foldl g b) t := by
  induction xs generalizing b s with
  | nil => exact ⟨s, rfl, h⟩
  | cons a xs ih =>
    obtain ⟨t, hf, ht⟩ := hstep a (List.mem_cons_self ..) b s h
    obtain ⟨u, hrest, hu⟩ := ih (fun c hc => hstep c (List.mem_cons_of_mem a hc)) ht
    refine ⟨u, ?_, hu⟩
    show (f a >>= fun _ => xs.forM f) s = _
    rw [bind_of_ok hf, hrest]

/-- The steps of a loop up to the first one that fails. -/
theorem forM_of_upTo {α β γ : Type} {f : α → Act σ Unit} {p : α → Except Failure γ}
    {g : β → γ → β} {R : β → σ → Prop} {xs : List α}
    (hok : ∀ a c, p a = .ok c → c ∈ (upTo p xs).1 → ∀ b s, R b s →
      ∃ t, f a s = (.ok (), t) ∧ R (g b c) t)
    (herror : ∀ a e, p a = .error e → ∀ s, f a s = (.error e, s)) {b : β} {s : σ} (h : R b s) :
    ∃ t, xs.forM f s = ((upTo p xs).2.elim (.ok ()) .error, t) ∧ R ((upTo p xs).1.foldl g b) t := by
  induction xs generalizing b s with
  | nil => exact ⟨s, rfl, h⟩
  | cons a xs ih =>
    cases hp : p a with
    | error e =>
      rw [upTo_cons_of_error hp]
      exact ⟨s, bind_of_error (herror a e hp s) _, h⟩
    | ok c =>
      rw [upTo_cons_of_ok hp] at hok ⊢
      obtain ⟨t, hf, ht⟩ := hok a c hp List.mem_cons_self b s h
      obtain ⟨u, hrest, hu⟩ := ih (fun a d hd hmem => hok a d hd (List.mem_cons_of_mem c hmem)) ht
      refine ⟨u, ?_, hu⟩
      show (f a >>= fun _ => xs.forM f) s = _
      rw [bind_of_ok hf, hrest]

/-- A value whose numbers keep to the limit is written as a setting. -/
theorem setSetting_of_fits (store : Store σ) {v : Json}
    (hfits : v.fits (some Json.maxDigits) = true) (key : String) :
    store.setSetting key (some v) = store.backend.write .setting key (v.write .spaced) := by
  rw [Store.setSetting, Store.settingText, if_pos hfits]
  rfl

/-- A save is written under its id, or why it is not comes back. -/
theorem keepSave_eq (store : Store σ) (o : Oddities) (save : Save) :
    store.keepSave o save = Act.ofExcept (o.save save) >>= fun save =>
      store.backend.write .save save.id save.toText := by
  unfold Store.keepSave Oddities.write Oddities.save
  split <;> rfl

/-- A setting is written under its key, or why it is not comes back. -/
theorem keepSetting_eq (store : Store σ) (o : Oddities) (m : String × Json) :
    store.keepSetting o m = Act.ofExcept (o.setting m) >>= fun m =>
      store.backend.write .setting m.1 (m.2.write .spaced) := by
  unfold Store.keepSetting Store.setSetting Oddities.setting
  cases o.valueOf m with
  | none => cases o.tears (.str m.1) <;> rfl
  | some v =>
    unfold Store.settingText
    dsimp only
    cases v.fits (some Json.maxDigits) <;> cases o.tears (.str m.1) <;> rfl

section Serving

variable {store : Store σ} {Fits : Kind → String → Prop} {Holds : Shelf → σ → Prop}
  {l : Ledger} {s : σ}

/-- The state holds the texts of the ledger. -/
def InStep (Holds : Shelf → σ → Prop) (l : Ledger) (s : σ) : Prop := l.Storable ∧ Holds l.shelf s

/-- A state that holds nothing is in step with the empty ledger. -/
theorem inStep_empty (h : Holds (fun _ _ => none) s) : InStep Holds Ledger.empty s := by
  have hshelf : Ledger.empty.shelf = fun _ _ => none := by
    funext kind id
    exact Ledger.shelf_empty kind id
  exact ⟨Ledger.storable_empty, by rw [hshelf]; exact h⟩

variable (hserves : store.backend.Serves Fits Holds)

include hserves

/-- The ids that are listed are the names of a table, if the shelf has texts under these. -/
theorem ids_of_holds {α : Type} {m : Shelf} (h : Holds m s) {kind : Kind} {t : Table α}
    (ht : ∀ id, m kind id ≠ none ↔ t.get? id ≠ none) :
    store.backend.ids kind s = (.ok (ascending t), s) := by
  obtain ⟨ids, hids, hascends⟩ := hserves.ids kind h
  have hsame : Ascends t.get? ids := ⟨hascends.sorted, fun id => (hascends.mem id).trans (ht id)⟩
  rw [hids, hsame.eq (ascends_ascending t)]

theorem fits_of_holds {α : Type} {m : Shelf} (h : Holds m s) {kind : Kind} {t : Table α}
    (ht : ∀ id, m kind id ≠ none ↔ t.get? id ≠ none) :
    ∀ id ∈ ascending t, Fits kind id := fun id hid =>
  hserves.fits h ((ht id).mpr (((ascends_ascending t).mem id).mp hid))

/-- The id of a save that is held fits, and so does the key of a setting. -/
theorem fits_of_save (h : Holds l.shelf s) {saveId : String} {save : Save}
    (hget : l.saves.get? saveId = some save) : Fits .save saveId := by
  refine hserves.fits h ((l.shelf_save_ne_none saveId).mpr ?_)
  rw [hget]
  exact Option.some_ne_none save

theorem fits_of_setting (h : Holds l.shelf s) {key : String} {v : Json}
    (hget : l.settings.get? key = some v) : Fits .setting key := by
  refine hserves.fits h ((l.shelf_setting_ne_none key).mpr ?_)
  rw [hget]
  exact Option.some_ne_none v

/-- The save of an id is what its text on the shelf is read as. -/
theorem getSave_of_shelf {m : Shelf} (h : Holds m s) {saveId : String} (hid : Fits .save saveId) :
    store.getSave saveId s =
      (match m .save saveId with
        | none => .ok none
        | some text => (readSave text).map some, s) := by
  rw [Store.getSave_apply, hserves.read h hid]
  cases m .save saveId <;> rfl

theorem getSave_of_inStep (h : InStep Holds l s) {saveId : String} (hid : Fits .save saveId) :
    store.getSave saveId s = (.ok (l.saves.get? saveId), s) := by
  rw [getSave_of_shelf hserves h.2 hid, Ledger.shelf]
  cases hget : l.saves.get? saveId with
  | none => rfl
  | some save =>
    dsimp only [Option.map]
    rw [readSave_of_storable (h.1.saves saveId save hget)]
    rfl

section Reading

variable {m : Shelf} (h : Holds m s)

include h

theorem readSaves_cons_of_overlong {saveId : String} (hid : Fits .save saveId)
    (hlong : m.Overlong saveId) (ids : List String) :
    store.readSaves (saveId :: ids) s = (.error (.escape .numberTooLong), s) := by
  obtain ⟨text, htext, hread⟩ := hlong
  unfold Store.readSaves
  rw [bind_of_ok (hserves.read h hid), htext]
  dsimp only
  rw [readSave_of_overlong hread]
  rfl

theorem readSaves_cons {saveId : String} (hid : Fits .save saveId)
    (hshort : ¬ m.Overlong saveId) (ids : List String) :
    store.readSaves (saveId :: ids) s =
      ((fun saves => (m.save? saveId).toList ++ saves) <$> store.readSaves ids) s := by
  have hskip : ((fun saves => ([] : List Save) ++ saves) <$> store.readSaves ids) s =
      store.readSaves ids s := by
    have hid : (fun saves : List Save => [] ++ saves) = id := rfl
    rw [hid, id_map]
  rw [Store.readSaves, bind_of_ok (hserves.read h hid), Shelf.save?]
  cases htext : m .save saveId with
  | none => exact hskip.symm
  | some text =>
    dsimp only [Option.bind_some]
    cases hread : readSave text with
    | ok save =>
      rw [map_eq_pure_bind]
      rfl
    | error e =>
      cases e with
      | fault f => exact hskip.symm
      | escape e =>
        exact absurd ⟨text, htext, (readSave_eq_escape_iff.mp hread).2⟩ hshort

/-- What is read of several saves: those that their texts are read as. -/
theorem readSaves_of_holds {ids : List String} (hids : ∀ saveId ∈ ids, Fits .save saveId)
    (hshort : ∀ saveId ∈ ids, ¬ m.Overlong saveId) :
    store.readSaves ids s = (.ok (ids.filterMap m.save?), s) := by
  induction ids with
  | nil => rfl
  | cons saveId ids ih =>
    have hrest := ih (fun other hother => hids other (List.mem_cons_of_mem saveId hother))
      fun other hother => hshort other (List.mem_cons_of_mem saveId hother)
    rw [readSaves_cons hserves h (hids saveId List.mem_cons_self)
      (hshort saveId List.mem_cons_self), map_of_ok hrest, List.filterMap_cons]
    cases m.save? saveId <;> rfl

/-- What is read of several settings, if all of them can be read: the members that they are read
as, after those before. -/
theorem readSettings_of_holds {keys : List String} {ms : Json.Members}
    (hkeys : ∀ key ∈ keys, Fits .setting key)
    (hreads : ∀ key ∈ keys, ∀ text, m .setting key = some text →
      ∃ v, Store.readSetting key text = .ok v)
    (hnodup : keys.Nodup) (hnew : ∀ key ∈ keys, key ∉ ms.map Prod.fst) :
    store.readSettings keys ms s =
      (.ok (ms ++ keys.filterMap fun key => (m.setting? key).map (key, ·)), s) := by
  induction keys generalizing ms with
  | nil =>
    rw [List.filterMap_nil, List.append_nil]
    rfl
  | cons key keys ih =>
    obtain ⟨hfirst, hrest⟩ := List.nodup_cons.mp hnodup
    obtain ⟨hkey, hkeys⟩ := List.forall_mem_cons.mp hkeys
    obtain ⟨hread, hreads⟩ := List.forall_mem_cons.mp hreads
    obtain ⟨hold, hnew⟩ := List.forall_mem_cons.mp hnew
    unfold Store.readSettings
    rw [bind_of_ok (hserves.read h hkey), List.filterMap_cons, Shelf.setting?]
    cases htext : m .setting key with
    | none => exact ih hkeys hreads hrest hnew
    | some text =>
      obtain ⟨v, hv⟩ := hread text htext
      dsimp only [Option.bind_some]
      rw [hv, bind_of_ok (Act.ofExcept_ok v s), Json.Members.insert_of_not_mem hold,
        ih hkeys hreads hrest fun other hother => ?_, List.append_assoc]
      · rfl
      · rw [List.map_append, List.mem_append, not_or]
        refine ⟨hnew other hother, fun hmem => hfirst ?_⟩
        have hsame : other = key := List.mem_singleton.mp hmem
        exact hsame ▸ hother

/-- A text with a number that is too long ends the reading of all saves. -/
theorem readSaves_of_overlong {ids : List String} (hids : ∀ saveId ∈ ids, Fits .save saveId)
    (hlong : ∃ saveId ∈ ids, m.Overlong saveId) :
    store.readSaves ids s = (.error (.escape .numberTooLong), s) := by
  induction ids with
  | nil =>
    obtain ⟨saveId, hmem, -⟩ := hlong
    cases hmem
  | cons saveId ids ih =>
    have hid := hids saveId List.mem_cons_self
    by_cases hfirst : m.Overlong saveId
    · exact readSaves_cons_of_overlong hserves h hid hfirst ids
    · have hrest := ih (fun other hother => hids other (List.mem_cons_of_mem saveId hother)) (by
        obtain ⟨other, hother, hlong⟩ := hlong
        rcases List.mem_cons.mp hother with rfl | hother
        · exact absurd hlong hfirst
        · exact ⟨other, hother, hlong⟩)
      rw [readSaves_cons hserves h hid hfirst, map_of_error hrest]

end Reading

theorem readSaves_of_inStep (h : InStep Holds l s) {ids : List String}
    (hids : ∀ saveId ∈ ids, Fits .save saveId) :
    store.readSaves ids s = (.ok (ids.filterMap l.saves.get?), s) := by
  have hread : ∀ saveId save, l.saves.get? saveId = some save →
      readSave save.toText = .ok save := fun saveId save hget =>
    readSave_of_storable (h.1.saves saveId save hget)
  rw [readSaves_of_holds hserves h.2 hids fun saveId _ hlong => ?_]
  · refine congrArg (fun saves => (Except.ok saves, s)) (List.filterMap_congr fun saveId _ => ?_)
    cases hget : l.saves.get? saveId with
    | none => exact Ledger.save?_shelf_of_none hget
    | some save => rw [Ledger.save?_shelf hget, hread saveId save hget]; rfl
  · obtain ⟨save, hget, hsave⟩ := Ledger.overlong_shelf_iff.mp hlong
    rw [hread saveId save hget] at hsave
    cases hsave

theorem getAllSaves_of_inStep (h : InStep Holds l s) :
    store.getAllSaves s = (.ok l.listing, s) := by
  have hfits := fits_of_holds hserves h.2 l.shelf_save_ne_none
  unfold Store.getAllSaves
  rw [bind_of_ok (ids_of_holds hserves h.2 l.shelf_save_ne_none),
    bind_of_ok (readSaves_of_inStep hserves h hfits)]
  rfl

section Settings

variable (h : Holds l.shelf s) (hsettings : ∀ key v, l.settings.get? key = some v → v.Storable)

include h hsettings

theorem getSetting_of_holds {key : String} (hkey : Fits .setting key) :
    store.getSetting key s = (.ok (l.settings.get? key), s) := by
  have hread : store.backend.read .setting key s =
      (.ok ((l.settings.get? key).map (·.write .spaced)), s) := hserves.read h hkey
  unfold Store.getSetting
  rw [bind_of_ok hread]
  cases hget : l.settings.get? key with
  | none => rfl
  | some v =>
    dsimp only [Option.map]
    rw [readSetting_write key (hsettings key v hget)]
    rfl

theorem allSettings_of_holds : store.allSettings s = (.ok l.members, s) := by
  have hfits := fits_of_holds hserves h l.shelf_setting_ne_none
  have hread : ∀ key v, l.settings.get? key = some v →
      Store.readSetting key (v.write .spaced) = .ok v := fun key v hget =>
    readSetting_write key (hsettings key v hget)
  unfold Store.allSettings
  rw [bind_of_ok (ids_of_holds hserves h l.shelf_setting_ne_none),
    readSettings_of_holds hserves h hfits (fun key _ text htext => ?_)
      (nodup_of_sorted (ascends_ascending l.settings).sorted) fun _ _ => List.not_mem_nil]
  · refine congrArg (fun ms => (Except.ok ms, s)) (List.filterMap_congr fun key _ => ?_)
    cases hget : l.settings.get? key with
    | none => rw [Ledger.setting?_shelf_of_none hget]
    | some v => rw [Ledger.setting?_shelf hget, hread key v hget]; rfl
  · obtain ⟨v, hget, rfl⟩ := Option.map_eq_some_iff.mp htext
    exact ⟨v, hread key v hget⟩

end Settings

theorem exportBundle_of_inStep (h : InStep Holds l s) (now : String) :
    store.exportBundle now s = (.ok (l.bundle store.version now).toText, s) := by
  have hbundle : store.bundle now s = (.ok (l.bundle store.version now), s) := by
    unfold Store.bundle
    rw [bind_of_ok (getAllSaves_of_inStep hserves h),
      bind_of_ok (allSettings_of_holds hserves h.2 h.1.settings)]
    rfl
  exact map_of_ok hbundle _

theorem saveSave_of_holds (h : Holds l.shelf s) {save : Save} (hid : Fits .save save.id) :
    ∃ t, store.saveSave save s = (.ok (), t) ∧ Holds (l.holdSave save).shelf t := by
  obtain ⟨t, hwrite, ht⟩ := hserves.write save.toText h hid
  refine ⟨t, hwrite, ?_⟩
  rw [Ledger.shelf_holdSave]
  exact ht

theorem setSetting_of_holds (h : Holds l.shelf s) {m : String × Json}
    (hkey : Fits .setting m.1) (hfits : m.2.fits (some Json.maxDigits) = true) :
    ∃ t, store.setSetting m.1 (some m.2) s = (.ok (), t) ∧ Holds (l.holdSetting m).shelf t := by
  obtain ⟨t, hwrite, ht⟩ := hserves.write (m.2.write .spaced) h hkey
  refine ⟨t, by rw [setSetting_of_fits store hfits, hwrite], ?_⟩
  rw [Ledger.shelf_holdSetting]
  exact ht

theorem deleteSave_of_holds (h : Holds l.shelf s) {saveId : String} (hid : Fits .save saveId) :
    ∃ t, store.deleteSave saveId s = (.ok (), t) ∧
      Holds ({ l with saves := l.saves.erase saveId } : Ledger).shelf t := by
  obtain ⟨t, hremove, ht⟩ := hserves.remove h hid
  refine ⟨t, hremove, ?_⟩
  rw [Ledger.shelf_erase]
  exact ht

/-- A bundle is kept up to what has no text. -/
theorem keepBundle_of_holds {m : Shelf} (h : Holds m s) {o : Oddities} {b : Bundle}
    (hids : ∀ s ∈ (b.kept o).saves, Fits .save s.id)
    (hkeys : ∀ v ∈ (b.kept o).settings, Fits .setting v.1) :
    ∃ t, store.keepBundle o b s = ((b.stop? o).elim (.ok ()) .error, t) ∧
      Holds (m.keep (b.kept o)) t := by
  obtain ⟨t, hsaves, ht⟩ := forM_of_upTo (f := store.keepSave o) (p := o.save)
    (g := fun (m : Shelf) save => m.set .save save.id (some save.toText)) (R := Holds)
    (fun save kept hkept hmem m s hs => by
      rw [keepSave_eq, hkept, bind_of_ok (Act.ofExcept_ok kept s)]
      exact hserves.write kept.toText hs (hids kept hmem))
    (fun save e he s => by
      rw [keepSave_eq, he]
      rfl) h
  unfold Store.keepBundle Bundle.stop?
  cases hstop : (upTo o.save b.saves).2 with
  | some e =>
    rw [hstop] at hsaves
    refine ⟨t, bind_of_error hsaves _, ?_⟩
    rw [Bundle.kept, hstop]
    exact ht
  | none =>
    have hkept : (b.kept o).settings = (upTo o.setting b.settings).1 := by
      rw [Bundle.kept, hstop]
      rfl
    rw [hkept] at hkeys
    obtain ⟨u, hsettings, hu⟩ := forM_of_upTo (f := store.keepSetting o) (p := o.setting)
      (g := fun (m : Shelf) v => m.set .setting v.1 (some (v.2.write .spaced))) (R := Holds)
      (fun v kept hkept hmem m s hs => by
        rw [keepSetting_eq, hkept, bind_of_ok (Act.ofExcept_ok kept s)]
        exact hserves.write (kept.2.write .spaced) hs (hkeys kept hmem))
      (fun v e he s => by
        rw [keepSetting_eq, he]
        rfl) ht
    rw [hstop] at hsaves
    refine ⟨u, (bind_of_ok hsaves _).trans hsettings, ?_⟩
    rw [Shelf.keep, hkept]
    exact hu

/-- Clearing takes every text of a kind away, and no other. -/
theorem clearKind_of_holds {m : Shelf} (h : Holds m s) (kind : Kind) :
    ∃ t, store.clearKind kind s = (.ok (), t) ∧
      Holds (fun k id => if k = kind then none else m k id) t := by
  obtain ⟨ids, hids, hascends⟩ := hserves.ids kind h
  have hfits : ∀ id ∈ ids, Fits kind id := fun id hid =>
    hserves.fits h ((hascends.mem id).mp hid)
  obtain ⟨t, hremove, ht⟩ := forM_of_step (f := store.backend.remove kind)
    (g := fun (m : Shelf) id => m.set kind id none) (R := Holds)
    (fun id hid m s hm => hserves.remove hm (hfits id hid)) h
  refine ⟨t, ?_, ?_⟩
  · unfold Store.clearKind
    rw [bind_of_ok hids]
    exact hremove
  · have hshelf : ids.foldl (fun m id => m.set kind id none) m =
        fun k id => if k = kind then none else m k id := by
      funext k id
      rw [foldl_set_none]
      by_cases hk : k = kind
      · by_cases hid : id ∈ ids
        · rw [if_pos ⟨hk, hid⟩, if_pos hk]
        · rw [if_neg fun h => hid h.2, if_pos hk, hk]
          exact Decidable.not_not.mp fun hne => hid ((hascends.mem id).mpr hne)
      · rw [if_neg fun h => hk h.1, if_neg hk]
    rw [← hshelf]
    exact ht

/-- Clearing leaves nothing. -/
theorem clear_of_holds {m : Shelf} (h : Holds m s) :
    ∃ t, store.clear s = (.ok (), t) ∧ Holds (fun _ _ => none) t := by
  obtain ⟨t, hsaves, ht⟩ := clearKind_of_holds hserves h .save
  obtain ⟨u, hsettings, hu⟩ := clearKind_of_holds hserves ht .setting
  refine ⟨u, ?_, ?_⟩
  · unfold Store.clear
    rw [bind_of_ok hsaves, hsettings]
  · have hshelf : (fun _ _ => none : Shelf) = fun k id =>
        if k = .setting then none else if k = .save then none else m k id := by
      funext k id
      cases k <;> rfl
    rw [hshelf]
    exact hu

theorem clear_of_inStep (h : InStep Holds l s) :
    ∃ t, store.clear s = (.ok (), t) ∧ InStep Holds Ledger.empty t := by
  obtain ⟨t, hclear, ht⟩ := clear_of_holds hserves h.2
  exact ⟨t, hclear, inStep_empty ht⟩

/-- The bundle has ids that fit, and its saves and settings come back from their texts. -/
structure Bundle.Within (Fits : Kind → String → Prop) (b : Bundle) : Prop where
  ids : ∀ s ∈ b.saves, Fits .save s.id
  printed : ∀ s ∈ b.saves, s.toJson.Printed
  durable : ∀ s ∈ b.saves, s.Durable
  keys : ∀ m ∈ b.settings, Fits .setting m.1
  settings : ∀ m ∈ b.settings, m.2.Storable

theorem keepBundle_of_inStep (h : InStep Holds l s) {o : Oddities} {b : Bundle}
    (hb : (b.kept o).Within Fits) (hvalid : ∀ s ∈ b.saves, s.Valid) :
    ∃ t, store.keepBundle o b s = ((b.stop? o).elim (.ok ()) .error, t) ∧
      InStep Holds (l.hold (b.kept o)) t := by
  obtain ⟨t, hkeep, ht⟩ := keepBundle_of_holds hserves h.2 hb.ids hb.keys
  rw [← Ledger.shelf_hold] at ht
  have hsaves : ∀ s ∈ (b.kept o).saves, s.Storable := fun s hs =>
    ⟨hvalid s (Bundle.mem_saves_of_kept hs).1, hb.printed s hs, hb.durable s hs⟩
  have hall := Ledger.all_hold (Ledger.storable_iff.mp h.1) hsaves hb.settings
  exact ⟨t, hkeep, Ledger.storable_iff.mpr hall, ht⟩

end Serving

/-! ## Orders -/

/-- What a storage does on an order at a moment. -/
def Store.obey (store : Store σ) (now : String) : Order → Act σ Answer
  | .saveSave save => (fun _ => .nothing) <$> store.saveSave save
  | .deleteSave saveId => (fun _ => .nothing) <$> store.deleteSave saveId
  | .getSave saveId => .save <$> store.getSave saveId
  | .getAllSaves => .saves <$> store.getAllSaves
  | .setSetting key value => (fun _ => .nothing) <$> store.setSetting key value
  | .getSetting key => .setting <$> store.getSetting key
  | .clear => (fun _ => .nothing) <$> store.clear
  | .importBundle data => (fun _ => .nothing) <$> store.importBundle data
  | .exportBundle => .text <$> store.exportBundle now

/-- What comes back from orders, each at a moment.  An order that fails leaves the state as
far as it came, and the next one goes on from there. -/
def Store.answers (store : Store σ) (s : σ) :
    List (String × Order) → List (Except Failure Answer)
  | [] => []
  | o :: orders => (store.obey o.1 o.2 s).1 :: store.answers (store.obey o.1 o.2 s).2 orders

/-- The order has ids that fit, and brings in what comes back from its text. -/
def Order.Within (Fits : Kind → String → Prop) (version : Int) : Order → Prop
  | .saveSave save => Fits .save save.id ∧ save.Storable
  | .deleteSave saveId | .getSave saveId => Fits .save saveId
  | .setSetting key value => Fits .setting key ∧ ∀ v, value = some v → v.Storable
  | .getSetting key => Fits .setting key
  | .importBundle data =>
    ∀ b, readBundle version data = .ok b → (b.kept data.oddities).Within Fits
  | .getAllSaves | .clear | .exportBundle => True

/-- What is within two ranges of ids is within each of them. -/
theorem Order.Within.mono {Fits Fits' : Kind → String → Prop} {version : Int}
    (hfits : ∀ kind id, Fits kind id → Fits' kind id) {o : Order} (h : o.Within Fits version) :
    o.Within Fits' version := by
  cases o with
  | saveSave s => exact ⟨hfits _ _ h.1, h.2⟩
  | deleteSave id | getSave id | getSetting key => exact hfits _ _ h
  | setSetting key value => exact ⟨hfits _ _ h.1, h.2⟩
  | importBundle data =>
    intro b hb
    obtain ⟨hids, hprinted, hdurable, hkeys, hsettings⟩ := h b hb
    exact ⟨fun s hs => hfits _ _ (hids s hs), hprinted, hdurable,
      fun m hm => hfits _ _ (hkeys m hm), hsettings⟩
  | getAllSaves | clear | exportBundle => trivial

section Serving

variable {store : Store σ} {Fits : Kind → String → Prop} {Holds : Shelf → σ → Prop}
  {l : Ledger} {s : σ}

/-- A storage answers an order as a ledger does, and stays in step with it. -/
theorem obey_of_serves (hserves : store.backend.Serves Fits Holds) (h : InStep Holds l s)
    (now : String) {o : Order} (ho : o.Within Fits store.version) :
    ∃ t, store.obey now o s = ((l.obey store.version now o).1, t) ∧
      InStep Holds (l.obey store.version now o).2 t := by
  cases o with
  | saveSave save =>
    obtain ⟨t, hact, ht⟩ := saveSave_of_holds hserves h.2 ho.1
    have hall := Ledger.all_holdSave (Ledger.storable_iff.mp h.1) ho.2
    exact ⟨t, map_of_ok hact _, Ledger.storable_iff.mpr hall, ht⟩
  | deleteSave saveId =>
    obtain ⟨t, hact, ht⟩ := deleteSave_of_holds hserves h.2 ho
    have hall := Ledger.all_erase (Ledger.storable_iff.mp h.1) saveId
    exact ⟨t, map_of_ok hact _, Ledger.storable_iff.mpr hall, ht⟩
  | getSave saveId => exact ⟨s, map_of_ok (getSave_of_inStep hserves h ho) _, h⟩
  | getAllSaves => exact ⟨s, map_of_ok (getAllSaves_of_inStep hserves h) _, h⟩
  | setSetting key value =>
    cases value with
    | none => exact ⟨s, rfl, h⟩
    | some v =>
      obtain ⟨t, hact, ht⟩ :=
        setSetting_of_holds hserves h.2 (m := (key, v)) ho.1 (ho.2 v rfl).fits
      have hall := Ledger.all_holdSetting (Ledger.storable_iff.mp h.1) (m := (key, v)) (ho.2 v rfl)
      exact ⟨t, map_of_ok hact _, Ledger.storable_iff.mpr hall, ht⟩
  | getSetting key => exact ⟨s, map_of_ok (getSetting_of_holds hserves h.2 h.1.settings ho) _, h⟩
  | clear =>
    obtain ⟨t, hact, ht⟩ := clear_of_inStep hserves h
    exact ⟨t, map_of_ok hact _, ht⟩
  | importBundle data =>
    cases hread : readBundle store.version data with
    | error f =>
      have hact : store.importBundle data s = (.error f, s) := by
        unfold Store.importBundle
        rw [hread]
        rfl
      rw [Ledger.obey_importBundle_of_error hread]
      exact ⟨s, map_of_error hact _, h⟩
    | ok b =>
      obtain ⟨t, hkeep, ht⟩ :=
        keepBundle_of_inStep hserves h (ho b hread) (valid_of_readBundle hread)
      have hact : store.importBundle data s =
          ((b.stop? data.oddities).elim (.ok ()) .error, t) := by
        unfold Store.importBundle
        rw [hread, bind_of_ok (Act.ofExcept_ok b s), hkeep]
      rw [Ledger.obey_importBundle_of_ok hread]
      refine ⟨t, ?_, ht⟩
      cases hstop : b.stop? data.oddities with
      | none =>
        rw [hstop] at hact
        exact map_of_ok hact _
      | some e =>
        rw [hstop] at hact
        exact map_of_error hact _
  | exportBundle => exact ⟨s, map_of_ok (exportBundle_of_inStep hserves h now) _, h⟩

/-- A storage answers any number of orders as a ledger does. -/
theorem answers_of_serves (hserves : store.backend.Serves Fits Holds) (h : InStep Holds l s)
    {orders : List (String × Order)} (horders : ∀ o ∈ orders, o.2.Within Fits store.version) :
    store.answers s orders = l.answers store.version orders := by
  induction orders generalizing l s with
  | nil => rfl
  | cons o orders ih =>
    obtain ⟨t, hobey, ht⟩ :=
      obey_of_serves hserves h o.1 (horders o (List.mem_cons_self ..))
    have hrest := ih ht fun p hp => horders p (List.mem_cons_of_mem o hp)
    rw [Store.answers, Ledger.answers, hobey, hrest]

end Serving

end Storage

end Storyline
