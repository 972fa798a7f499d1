import Storyline.Proofs.Engine.Course
import Storyline.Proofs.Engine.Run
import Storyline.Proofs.Stage.Resume
import Storyline.Proofs.Storage.Folder
import Storyline.Proofs.Storage.Stored

/-!
# Games that are kept

An engine over any content and any storage, driven by any moves that were checked when
they came in, holds a valid save.  What it has written down can be loaded again by another
engine over the same content and storage exactly if the save is durable and does not stand
in a script of the empty id.

* `Engine.Move`, `Engine.runAll`: what happens to an engine, and a history;
* `Engine.sound_runAll`: the stage of an engine stays sound;
* `Engine.exists_autosave`, `Engine.loadSave_apply`: what the timer and a load do;
* `Engine.written_of_saveGame`: the live save after saving is the one that was written;
* `Engine.loads_saved_iff`: when a saved game is loaded as it was.
-/

namespace Storyline

open Content

namespace Engine

variable {σ : Type}

/-! ## Saving and loading keep a stage sound -/

/-- A save that storage gives out is valid. -/
theorem valid_of_getSave {store : Storage.Store σ} {saveId : String} {s : σ} {save : Save}
    (h : (store.getSave saveId s).1 = .ok (some save)) : save.Valid := by
  rw [Storage.Store.getSave_apply] at h
  cases hread : store.backend.read .save saveId s with
  | mk r t =>
    rw [hread] at h
    rcases r with e | _ | text
    · cases h
    · cases h
    · have hmap : (Storage.readSave text).map some = .ok (some save) := h
      cases hsave : Storage.readSave text with
      | error f =>
        rw [hsave] at hmap
        cases hmap
      | ok u =>
        rw [hsave] at hmap
        cases hmap
        exact Storage.valid_of_readSave hsave

section Leads

variable {i : Index} (store : Storage.Store σ)

theorem leads_persist (save : Save) : Leads i (persist store save) fun _ => True := by
  refine leads_bind (Q := fun _ => True) (leads_askStorage fun _ => trivial) fun r _ => ?_
  cases r with
  | ok _ => exact leads_pure trivial
  | error failure =>
    cases failure with
    | fault f => exact leads_bind (leads_announce _ _) fun _ _ => leads_throw _
    | escape e => exact leads_throw _

theorem leads_countPlayTime (hi : i.Coherent) :
    Leads i (countPlayTime : Run σ Unit) fun _ => True := by
  refine leads_bind leads_get fun e _ => ?_
  cases e.session with
  | none => exact leads_pure trivial
  | some since =>
    exact leads_bind (leads_perform hi (c := .addPlayTime (e.clock - since)) trivial)
      fun _ _ => leads_modify fun _ => rfl

theorem leads_saveGame (hi : i.Coherent) : Leads i (saveGame store) fun _ => True := by
  refine leads_bind leads_view fun v _ => ?_
  cases v.save.isNone with
  | true => exact leads_pure trivial
  | false =>
    refine leads_bind (leads_countPlayTime hi) fun _ _ => ?_
    refine leads_bind leads_view fun w _ => ?_
    cases w.save with
    | none => exact leads_pure trivial
    | some save => exact leads_bind (leads_persist store save) fun _ _ => leads_announce _ _

theorem leads_startNewGame (hi : i.Coherent) (hv : i.Valid) (game : NewGame) (saveId : String) :
    Leads i (startNewGame store game saveId) fun _ => True := by
  refine leads_bind (leads_perform hi (c := .startNewGame game saveId) trivial) fun _ _ => ?_
  refine leads_bind (leads_modify fun _ => rfl) fun _ _ => ?_
  refine leads_bind leads_view fun v _ => ?_
  cases v.save with
  | none => exact leads_pure trivial
  | some save =>
    refine leads_bind (leads_persist store save) fun _ _ => ?_
    refine leads_bind (leads_announce _ _) fun _ _ => ?_
    refine leads_bind (leads_modify fun _ => rfl) fun _ _ => ?_
    refine leads_bind leads_view fun w hview => ?_
    obtain ⟨s, hs, rfl⟩ := hview
    cases hn : s.view.node with
    | none => exact leads_pure trivial
    | some n =>
      exact leads_bind leads_announceDialog fun _ _ => leads_landOn hi hv (hs.valid_node hv hn)

theorem leads_loadSave (hi : i.Coherent) (saveId : String) :
    Leads i (loadSave store saveId) fun _ => True := by
  refine leads_bind (leads_perform hi (c := .setLoading true) trivial) fun _ _ => ?_
  refine leads_bind (Q := fun r => ∀ save, r = .ok (some save) → save.Valid)
    (leads_askStorage fun s save h => valid_of_getSave h) fun r hr => ?_
  rcases r with failure | _ | save
  · cases failure with
    | fault f =>
      refine leads_bind (leads_perform hi (c := .setLoading false) trivial) fun _ _ => ?_
      exact leads_bind (leads_announce _ _) fun _ _ => leads_throw _
    | escape e => exact leads_throw _
  · exact leads_bind (leads_perform hi (c := .setLoading false) trivial)
      fun _ _ => leads_announce _ _
  · refine leads_bind (leads_perform hi (c := .loadSave save) (hr save rfl)) fun _ _ => ?_
    refine leads_bind (leads_modify fun _ => rfl) fun _ _ => ?_
    refine leads_bind leads_view fun _ _ => ?_
    exact leads_bind (leads_announce _ _) fun _ _ => leads_modify fun _ => rfl

/-- An action that was checked keeps the stage sound. -/
theorem leads_dispatch (hi : i.Coherent) (hv : i.Valid) (freshId : String) {a : Action}
    (ha : a.Valid) : Leads i (dispatch store freshId a) fun _ => True := by
  cases a with
  | startNewGame game => exact leads_startNewGame store hi hv game freshId
  | loadSave saveId => exact leads_loadSave store hi saveId
  | changePhase phase => exact leads_changePhase hi hv (fun _ hn => leads_landOn hi hv hn) ha
  | changeScene sceneId =>
    exact leads_changeScene hi hv (fun _ hn => leads_landOn hi hv hn) sceneId
  | startDialog scriptId => exact leads_startDialog hi hv scriptId
  | advanceDialog => exact leads_advanceDialog hi hv
  | makeChoice choiceId => exact leads_makeChoice hi hv choiceId
  | completeTypewriter => exact leads_perform hi (c := .completeTypewriter) trivial
  | addItem item =>
    exact leads_bind (leads_perform hi (c := .addItem item) ha) fun _ _ => leads_announce _ _
  | removeItem itemId quantity =>
    exact leads_bind (leads_perform hi (c := .removeItem itemId quantity) trivial)
      fun _ _ => leads_announce _ _
  | addMemory memory =>
    exact leads_bind (leads_perform hi (c := .addMemory memory) ha) fun _ _ => leads_announce _ _
  | setFlag key value =>
    exact leads_bind (leads_perform hi (c := .setFlag key value) trivial)
      fun _ _ => leads_announce _ _
  | unlockAchievement achievementId =>
    exact leads_bind (leads_perform hi (c := .unlockAchievement achievementId) trivial)
      fun _ _ => leads_announce _ _
  | saveGame => exact leads_saveGame store hi
  | toggleMenu => exact leads_perform hi (c := .toggleMenu) trivial
  | toggleInventory => exact leads_perform hi (c := .toggleInventory) trivial
  | toggleMemories => exact leads_perform hi (c := .toggleMemories) trivial

end Leads

/-! ## Histories -/

/-- What can happen to an engine. -/
inductive Move where
  | dispatch (freshId : String) (a : Action)
  | refuse (kind : String)
  | execute (is : List Instruction)
  | autosave
  | tick (seconds : Float)
  | destroy

/-- The action or the effects were read from JSON. -/
def Move.Checked : Move → Prop
  | .dispatch _ a => ∃ v, Action.read v = .good a
  | .execute is => ∀ e, .effect e ∈ is → ∃ v, Effect.read v = .good e
  | _ => True

/-- Something happens to the engine; a fault goes to the caller, and the engine stays as
far as it came. -/
def take (store : Storage.Store σ) (e : Engine σ) : Move → Engine σ
  | .dispatch freshId a => (Engine.dispatch store freshId a e).2
  | .refuse kind => (Engine.refuse kind e).2
  | .execute is => (Engine.execute is e).2
  | .autosave => Engine.autosave store e
  | .tick seconds => e.tick seconds
  | .destroy => e.destroy

/-- The engine at a moment. -/
def dated (e : Engine σ) (now : String) : Engine σ :=
  { e with stage := { e.stage with now := now } }

/-- Moves one after another, each at a moment. -/
def runAll (store : Storage.Store σ) (e : Engine σ) (history : List (String × Move)) :
    Engine σ :=
  history.foldl (fun e m => (e.dated m.1).take store m.2) e

section History

variable {i : Index} {store : Storage.Store σ}

theorem sound_dated {e : Engine σ} (h : e.stage.Sound i) (now : String) :
    (e.dated now).stage.Sound i :=
  ⟨h.content, h.placed, h.live⟩

theorem autosave_of_stopped {e : Engine σ} (h : e.autosaves = false) : autosave store e = e := by
  unfold autosave
  rw [h, if_neg Bool.false_ne_true]

theorem autosave_of_ok {e : Engine σ} (h : e.autosaves = true)
    (hok : (saveGame store e).1 = .ok ()) : autosave store e = (saveGame store e).2 := by
  unfold autosave
  rw [h, if_pos rfl]
  cases hsave : saveGame store e with
  | mk r d =>
    rw [hsave] at hok
    have hr : r = .ok () := hok
    rw [hr]

/-- The timer saves, whether the write fails or not; then it runs on, or not. -/
theorem exists_autosave (store : Storage.Store σ) {e : Engine σ} (h : e.autosaves = true) :
    ∃ runs, autosave store e = { (saveGame store e).2 with autosaves := runs } := by
  unfold autosave
  rw [h, if_pos rfl]
  rcases saveGame store e with ⟨((_ | _) | _ | _ | _) | _, d⟩ <;> exact ⟨_, rfl⟩

/-- A move that was checked keeps the stage sound. -/
theorem sound_take (hi : i.Coherent) (hv : i.Valid) {e : Engine σ} (h : e.stage.Sound i)
    {m : Move} (hm : m.Checked) : (e.take store m).stage.Sound i := by
  cases m with
  | dispatch freshId a =>
    obtain ⟨v, hread⟩ := hm
    exact (leads_dispatch store hi hv freshId (Action.valid_of_read hread) e h).1
  | refuse kind => exact h
  | execute is =>
    refine (leads_drain hi hv maxDepth (fun d hd => ?_) e h).1
    obtain ⟨v, hread⟩ := hm d hd
    exact Effect.valid_of_read hread
  | autosave =>
    show (Engine.autosave store e).stage.Sound i
    cases hruns : e.autosaves with
    | false =>
      rw [autosave_of_stopped hruns]
      exact h
    | true =>
      obtain ⟨runs, hsaved⟩ := exists_autosave store hruns
      rw [hsaved]
      exact (leads_saveGame store hi e h).1
  | tick seconds => exact h
  | destroy => exact ⟨h.content, h.placed, h.live⟩

/-- A history of moves that were checked keeps the stage sound. -/
theorem sound_runAll (hi : i.Coherent) (hv : i.Valid) {e : Engine σ} (h : e.stage.Sound i)
    {history : List (String × Move)} (hh : ∀ m ∈ history, m.2.Checked) :
    (e.runAll store history).stage.Sound i := by
  induction history generalizing e with
  | nil => exact h
  | cons m history ih =>
    refine ih (e := (e.dated m.1).take store m.2) ?_
      fun n hn => hh n (List.mem_cons_of_mem m hn)
    exact sound_take hi hv (sound_dated h m.1) (hh m (List.mem_cons_self ..))

end History

/-! ## What saving writes -/

section Saving

variable {store : Storage.Store σ} {e : Engine σ} {s : Save}

theorem persist_of_ok {t : σ} (h : store.saveSave s e.storage = (.ok (), t)) :
    persist store s e = (.ok (), { e with storage := t }) := by
  unfold persist
  rw [bind_of_ok (askStorage_apply (store.saveSave s) e), h]
  rfl

/-- A write that fails is not passed over. -/
theorem persist_of_error {f : Storage.Failure} {t : σ}
    (h : store.saveSave s e.storage = (.error f, t)) : (persist store s e).1 ≠ .ok () := by
  unfold persist
  rw [bind_of_ok (askStorage_apply (store.saveSave s) e), h]
  cases f <;> exact nofun

theorem exists_countPlayTime (e : Engine σ) :
    ∃ d : Engine σ, (countPlayTime : Run σ Unit) e = (.ok (), d) := by
  have hget : (get : Run σ (Engine σ)) e = (.ok e, e) := rfl
  unfold countPlayTime
  rw [bind_of_ok hget]
  cases e.session with
  | none => exact ⟨_, rfl⟩
  | some since => exact ⟨_, rfl⟩

/-- Write a save that is live after play time was counted. -/
def writeLive (store : Storage.Store σ) (v : View) : Run σ Unit :=
  match v.save with
  | none => pure ()
  | some save => persist store save >>= fun _ => announce .saveUpdated [("save", save.toJson)]

theorem saveGame_of_none (h : e.stage.view.save = none) : saveGame store e = (.ok (), e) := by
  unfold saveGame
  rw [bind_of_ok (view_apply e), h]
  rfl

theorem saveGame_of_some {old : Save} (h : e.stage.view.save = some old) {d : Engine σ}
    (hd : (countPlayTime : Run σ Unit) e = (.ok (), d)) :
    saveGame store e = writeLive store d.stage.view d := by
  unfold saveGame
  rw [bind_of_ok (view_apply e), h]
  exact bind_of_ok hd fun _ => view >>= writeLive store

theorem written_of_writeLive {v : View} (hv : v = e.stage.view)
    (hok : (writeLive store v e).1 = .ok ())
    (hs : (writeLive store v e).2.stage.view.save = some s) :
    ∃ t, store.saveSave s t = (.ok (), (writeLive store v e).2.storage) := by
  unfold writeLive at hok hs ⊢
  cases hlive : v.save with
  | none =>
    rw [hlive] at hs
    have hnone : e.stage.view.save = some s := hs
    rw [← hv, hlive] at hnone
    cases hnone
  | some save =>
    rw [hlive] at hok hs
    dsimp only at hok hs ⊢
    cases hwrite : store.saveSave save e.storage with
    | mk r t =>
      cases r with
      | error f =>
        exfalso
        refine persist_of_error hwrite ?_
        rw [bind_apply] at hok
        cases hpersist : persist store save e with
        | mk q d =>
          rw [hpersist] at hok
          cases q with
          | error g => exact nomatch hok
          | ok u => rfl
      | ok u =>
        rw [bind_of_ok (persist_of_ok hwrite)] at hs ⊢
        have hsame : e.stage.view.save = some s := hs
        rw [← hv, hlive] at hsame
        rw [← Option.some_inj.mp hsame]
        exact ⟨e.storage, hwrite⟩

/-- The live save after saving is the one that was written. -/
theorem written_of_saveGame (hok : (saveGame store e).1 = .ok ())
    (hs : (saveGame store e).2.stage.view.save = some s) :
    ∃ t, store.saveSave s t = (.ok (), (saveGame store e).2.storage) := by
  cases hlive : e.stage.view.save with
  | none =>
    rw [saveGame_of_none hlive, hlive] at hs
    cases hs
  | some old =>
    obtain ⟨d, hd⟩ := exists_countPlayTime e
    rw [saveGame_of_some hlive hd] at hok hs ⊢
    exact written_of_writeLive rfl hok hs

end Saving

/-! ## What loading brings back -/

section Loading

variable {store : Storage.Store σ} {e : Engine σ}

/-- A load, by what the storage gives.  A fault of storage lowers the flag that was raised, and so
does a save that is not there; whatever else ends the read leaves it up. -/
theorem loadSave_apply (store : Storage.Store σ) (saveId : String) (e : Engine σ) :
    loadSave store saveId e = match store.getSave saveId e.storage with
      | (.ok (some save), t) =>
        let stage := (e.stage.setLoading true).loadSave save
        (.ok (), { e with
          stage := stage
          bus := e.bus.announce .saveLoaded [("save", stage.view.save.elim .null Save.toJson)]
          storage := t
          session := some e.clock
          autosaves := decide (0.0 < e.interval) })
      | (.ok none, t) =>
        (.ok (), { e with
          stage := (e.stage.setLoading true).setLoading false
          bus := e.bus.announce .error [("message", .str (missingMessage saveId))]
          storage := t })
      | (.error (.fault f), t) =>
        (.error (.storage (.fault f)), { e with
          stage := (e.stage.setLoading true).setLoading false
          bus := e.bus.announce .error [("message", .str f.message)]
          storage := t })
      | (.error (.escape x), t) =>
        (.error (.storage (.escape x)), { e with
          stage := e.stage.setLoading true
          storage := t }) := by
  have hload : (changeStage (·.setLoading true) : Run σ Unit) e =
      (.ok (), { e with stage := e.stage.setLoading true }) := rfl
  unfold loadSave
  rw [bind_of_ok hload, bind_of_ok (askStorage_apply _ _)]
  dsimp only
  rcases store.getSave saveId e.storage with ⟨(f | x) | _ | save, t⟩ <;> rfl

/-- A save that storage gives out is loaded. -/
theorem loadSave_of_some {saveId : String} {save : Save} {t : σ}
    (h : store.getSave saveId e.storage = (.ok (some save), t)) :
    (loadSave store saveId e).1 = .ok () ∧
      (loadSave store saveId e).2.stage = (e.stage.setLoading true).loadSave save := by
  rw [loadSave_apply, h]
  exact ⟨rfl, rfl⟩

/-- Whatever was loaded was given out by storage. -/
theorem exists_of_loadSave {saveId : String} {s : Save} (hnone : e.stage.view.save = none)
    (hok : (loadSave store saveId e).1 = .ok ())
    (hs : (loadSave store saveId e).2.stage.view.save = some s) :
    ∃ save t, store.getSave saveId e.storage = (.ok (some save), t) := by
  rw [loadSave_apply] at hok hs
  rcases hget : store.getSave saveId e.storage with ⟨(f | x) | _ | save, t⟩
  · rw [hget] at hok
    cases hok
  · rw [hget] at hok
    cases hok
  · rw [hget] at hs
    have hsame : e.stage.view.save = some s := hs
    rw [hnone] at hsame
    cases hsame
  · exact ⟨save, t, rfl⟩

/-- A save that was written is loaded as it was exactly if it is durable and its ids are
not dropped. -/
theorem loads_iff {i : Index} {s : Save} {spot : Option Spot} (hstore : store.backend.Keeps)
    (hvalid : s.Valid) (hprinted : s.toJson.Printed) (hfound : ∀ p ∈ spot, i.HasSpot p)
    (hnames : s.Names spot) {before : σ}
    (hwritten : store.saveSave s before = (.ok (), e.storage)) (hcontent : e.stage.content = i)
    (hnone : e.stage.view.save = none) :
    ((loadSave store s.id e).1 = .ok () ∧
        (loadSave store s.id e).2.stage.view.save = some s) ↔
      s.Durable ∧ (s.currentDialogScriptId = some "" → nonempty s.currentDialogId = none) := by
  have hget : (store.getSave s.id e.storage).1 = (Storage.readSave s.toText).map some :=
    hstore.getSave hwritten
  rw [← Stage.save_loadSave_iff (t := e.stage.setLoading true) hcontent hfound hnames]
  constructor
  · rintro ⟨hok, hs⟩
    obtain ⟨t, after, ht⟩ := exists_of_loadSave hnone hok hs
    rw [ht] at hget
    cases hsave : Storage.readSave s.toText with
    | error f =>
      rw [hsave] at hget
      cases hget
    | ok u =>
      rw [hsave] at hget
      obtain ⟨hdurable, rfl⟩ := (Storage.readSave_toText_iff hvalid hprinted u).mp hsave
      have htu : t = u := Option.some_inj.mp (Except.ok.inj hget)
      rw [htu] at ht
      rw [(loadSave_of_some ht).2] at hs
      exact ⟨hdurable, hs⟩
  · rintro ⟨hdurable, hs⟩
    rw [Storage.readSave_toText hvalid hprinted hdurable] at hget
    cases h : store.getSave s.id e.storage with
    | mk r after =>
      rw [h] at hget
      have hr : r = .ok (some s) := hget
      rw [hr] at h
      obtain ⟨hok, hstage⟩ := loadSave_of_some h
      rw [hstage]
      exact ⟨hok, hs⟩

end Loading

/-- Whatever moves an engine has made over whatever content and storage: a live save that
was saved without a failure is loaded as it was by a new engine, if and only if its doubles
are finite, its whole numbers have no more digits than are read, and it does not stand at a
node of a script of the empty id. -/
theorem loads_saved_iff {v : Json} {p : Pack} {i : Index} (hv : Pack.read v = .good p)
    (hp : Index.ofPack p = .ok i) {store : Storage.Store σ} (hstore : store.backend.Keeps)
    (now : String) (storage : σ) (clock interval : Float) {history : List (String × Move)}
    (hh : ∀ m ∈ history, m.2.Checked) (saving freshId : String) {e : Engine σ}
    (hsaved : dispatch store freshId .saveGame
      (((start i now storage clock interval).runAll store history).dated saving) = (.ok (), e))
    {s : Save} (hs : e.stage.view.save = some s) (hprinted : s.toJson.Printed)
    (later freshId' : String) (clock' interval' : Float) :
    (∃ d, dispatch store freshId' (.loadSave s.id) (start i later e.storage clock' interval') =
        (.ok (), d) ∧ d.stage.view.save = some s) ↔
      s.Durable ∧ (s.currentDialogScriptId = some "" → nonempty s.currentDialogId = none) := by
  have hi : i.Coherent := Index.coherent_of_ofPack hp
  have hiv : i.Valid := Index.valid_of_ofPack hv hp
  have hrun : ((start i now storage clock interval).runAll store history).stage.Sound i :=
    sound_runAll hi hiv (Stage.sound_ofContent i now) hh
  have hsound := (leads_saveGame store hi _ (sound_dated hrun saving)).1
  have hsave : saveGame store
      (((start i now storage clock interval).runAll store history).dated saving) = (.ok (), e) :=
    hsaved
  rw [hsave] at hsound
  obtain ⟨spot, hat⟩ := hsound.placed
  obtain ⟨before, hwritten⟩ := written_of_saveGame (by rw [hsave]) (by rw [hsave]; exact hs)
  rw [hsave] at hwritten
  rw [← loads_iff (e := start i later e.storage clock' interval') hstore (hsound.live s hs)
    hprinted hat.found (hat.named s hs) hwritten rfl rfl]
  constructor
  · rintro ⟨d, hd, hlive⟩
    have hload : loadSave store s.id (start i later e.storage clock' interval') = (.ok (), d) :=
      hd
    rw [hload]
    exact ⟨rfl, hlive⟩
  · rintro ⟨hok, hlive⟩
    exact ⟨_, Prod.ext hok rfl, hlive⟩

/-- A storage in a folder of its own. -/
def gateStore : Storage.Store Storage.Disk := ⟨(⟨⟨"", ["narrative"]⟩⟩ : Storage.Folder).backend, 1⟩

/-- At the gate a game begins, and a flag is set. -/
def gateHistory : List (String × Move) :=
  [("2", .dispatch "a" (.startNewGame ⟨"Ann", none⟩)),
    ("3", .dispatch "" (.setFlag "height" (.float 0.5)))]

/-- At the gate, a game with a flag that is a double is saved and loaded as it was. -/
theorem loads_saved_gate :
    ∃ i e s, Index.ofPack Stage.gatePack = .ok i ∧
      dispatch gateStore "" .saveGame
        (((start i "1" Storage.Disk.empty 0.0 0.0).runAll gateStore gateHistory).dated "4") =
          (.ok (), e) ∧
      e.stage.view.save = some s ∧ s.flags.get? "height" = some (.float 0.5) ∧
      ∃ d, dispatch gateStore "" (.loadSave s.id) (start i "5" e.storage 0.0 0.0) = (.ok (), d) ∧
        d.stage.view.save = some s := by
  have hchecked : ∀ m ∈ gateHistory, m.2.Checked := by
    intro m hm
    rcases List.mem_cons.mp hm with rfl | hm
    · exact ⟨.obj [("type", .str "START_NEW_GAME"),
        ("payload", .obj [("player_name", .str "Ann")])], rfl⟩
    · rw [List.mem_singleton.mp hm]
      exact ⟨.obj [("type", .str "SET_FLAG"),
        ("payload", .obj [("key", .str "height"), ("value", .float 0.5)])], rfl⟩
  have hhalf : Decimal.Layout.compact.Keeps 0.5 := rfl
  have hzero : Decimal.Layout.compact.Keeps 0.0 := rfl
  refine ⟨_, _, _, rfl, rfl, rfl, rfl, ?_⟩
  refine (loads_saved_iff (v := Stage.gatePack.toJson) (p := Stage.gatePack) rfl rfl
    (Storage.Folder.keeps _) "1" Storage.Disk.empty 0.0 0.0 hchecked "4" "" rfl rfl ?_
    "5" "" 0.0 0.0).mpr ⟨⟨?_, rfl⟩, nofun⟩
  · intro x hx _
    have hx' : x ∈ [0.5, 0.0] := hx
    rcases List.mem_cons.mp hx' with rfl | hx'
    · exact hhalf
    · rw [List.mem_singleton.mp hx']
      exact hzero
  · intro x hx
    have hx' : x ∈ [0.5, 0.0] := hx
    rcases List.mem_cons.mp hx' with rfl | hx'
    · rfl
    · rw [List.mem_singleton.mp hx']
      rfl

end Engine

end Storyline
