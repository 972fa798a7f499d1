import Storyline.Proofs.Engine.Settling

/-!
# What is on record

A game is written down when it begins, when the player saves and when the autosave timer
elapses.  A new game is written before the effects of its first node are carried out, so its
record is the game as it began; the others write the live save.  Loading runs no effects, so
what the first node granted is lost to a game that goes on from its first record.

* `Engine.Move.Writes`: the moves that write the game down;
* `Engine.writing`, `Engine.Move.beatsAfter`: the stage that is written, and what is carried
  out after that;
* `Engine.written_of_writes`: what the storage is given, and what comes after;
* `Engine.recorded_iff`: when the record is the live save.
-/

namespace Storyline

open Content

/-! ## The game that a save is of -/

@[simp] theorem Effect.id_change (s : Save) (x : Effect) : (x.change s).id = s.id := by
  cases x with
  | addMemory memory =>
    show (s.addMemory memory).id = s.id
    unfold Save.addMemory
    split <;> rfl
  | unlockAchievement achievementId =>
    show (s.unlockAchievement achievementId).id = s.id
    unfold Save.unlockAchievement
    split <;> rfl
  | _ => rfl

namespace Stage

/-- The id of the live save. -/
def saveId? (s : Stage) : Option String := s.view.save.map (·.id)

theorem saveId?_changeSave {f : Save → Save} (hf : ∀ a, (f a).id = a.id) (s : Stage) :
    (s.changeSave f).saveId? = s.saveId? := by
  rw [saveId?, saveId?, view_changeSave, Option.map_map]
  exact congrArg (s.view.save.map ·) (funext hf)

theorem saveId?_enter {f : Save → Save} (hf : ∀ a, (f a).id = a.id) (s : Stage)
    (scene : Option Scene) (spot : Option Spot) :
    (s.enter scene spot f).saveId? = s.saveId? :=
  saveId?_changeSave (f := fun a => f (standAt spot a)) (fun a => hf (standAt spot a)) s

theorem saveId?_bring (s : Stage) (x : Effect) : (s.bring x).saveId? = s.saveId? := by
  cases x with
  | changeScene sceneId =>
    show (s.changeScene sceneId).2.saveId? = s.saveId?
    unfold changeScene
    split
    · rfl
    · rename_i c _
      exact saveId?_enter (f := fun save => { save with currentSceneId := c.id })
        (fun _ => rfl) s _ _
  | changePhase phase =>
    exact saveId?_enter
      (f := fun save => { save with
        currentPhase := phase
        currentSceneId := ((s.content.phaseScene? phase).map (·.id)).getD "" })
      (fun _ => rfl) s _ _
  | playSound sound => rfl
  | shakeScreen intensity duration => rfl
  | _ => exact saveId?_changeSave (fun a => Effect.id_change a _) s

/-- Without a command the live save stays that of the same game. -/
theorem saveId?_playAll {t : List Beat} (ht : t.filterMap Beat.command? = []) (s : Stage) :
    (s.playAll t).saveId? = s.saveId? := by
  induction t generalizing s with
  | nil => rfl
  | cons b t ih =>
    cases b with
    | command c => cases ht
    | tell r => exact ih ht s
    | effect x => exact (ih ht (s.bring x)).trans (saveId?_bring s x)

end Stage

/-! ## New games -/

@[simp] theorem Json.fits_ofOption (limit : Option Nat) (o : Option String) :
    (Json.ofOption o).fits limit = true := by
  cases o <;> rfl

/-- A save with nothing collected has no double but its time. -/
theorem Save.doubles_of_empty {w : Save} (hinventory : w.inventory = []) (hflags : w.flags = ∅) :
    w.toJson.doubles = [w.playTime] := by
  rw [Save.doubles_toJson, hinventory, hflags]
  rfl

/-- A save of the present version with nothing collected has no long whole number. -/
theorem Save.fits_of_empty {w : Save} (hversion : w.version = Save.currentVersion)
    (hreadIds : w.readDialogIds = []) (hinventory : w.inventory = []) (hmemories : w.memories = [])
    (hachievements : w.achievements = []) (hflags : w.flags = ∅) :
    w.toJson.fits (some Json.maxDigits) = true := by
  have hnumber : (Json.int Save.currentVersion).fits (some Json.maxDigits) = true := by decide
  have hnone : (∅ : Flags).toJson.fits (some Json.maxDigits) = true := rfl
  rw [Save.toJson, hversion, hreadIds, hinventory, hmemories, hachievements, hflags, Json.fits_obj]
  simp only [List.all_cons, List.all_nil, Json.fits_str, Json.fits_ofOption, Json.fits_float,
    hnumber, hnone, Bool.and_true, Bool.true_and]
  simp [Player.toJson, Phase.toJson, Json.texts]

namespace Stage

variable {s : Stage} {game : NewGame} {saveId : String} {w : Save}

theorem doubles_startNewGame (hw : (s.startNewGame game saveId).view.save = some w) :
    w.toJson.doubles = [0.0] := by
  rw [save_startNewGame, Option.some_inj] at hw
  rw [← hw]
  exact Save.doubles_of_empty rfl rfl

theorem printed_startNewGame (hw : (s.startNewGame game saveId).view.save = some w) :
    w.toJson.Printed := by
  have hzero : Decimal.Layout.compact.Keeps 0.0 := rfl
  intro x hx _
  rw [doubles_startNewGame hw] at hx
  rw [List.mem_singleton.mp hx]
  exact hzero

/-- The save of a new game can be read back. -/
theorem durable_startNewGame (hw : (s.startNewGame game saveId).view.save = some w) :
    w.Durable := by
  refine ⟨fun x hx => ?_, ?_⟩
  · rw [doubles_startNewGame hw] at hx
    rw [List.mem_singleton.mp hx]
    rfl
  · rw [save_startNewGame, Option.some_inj] at hw
    rw [← hw]
    exact Save.fits_of_empty rfl rfl rfl rfl rfl rfl

end Stage

namespace Engine

variable {σ : Type}

/-! ## Moves that write the game down -/

/-- The move writes the game down, and nothing fails. -/
def Move.Writes (store : Storage.Store σ) (e : Engine σ) : Move → Prop
  | .dispatch freshId (.startNewGame game) => (startNewGame store game freshId e).1 = .ok ()
  | .dispatch _ .saveGame => (saveGame store e).1 = .ok ()
  | .autosave => e.autosaves = true ∧ (saveGame store e).1 = .ok ()
  | _ => False

/-- What a move carries out after the game was written down: the effects of the first node
of a new game. -/
def Move.beatsAfter (i : Index) : Move → List Beat
  | .dispatch _ (.startNewGame _) => (landingCourse? i (i.firstSpot?.map Spot.landing)).beats
  | _ => []

/-- The stage that a move writes down: a new game as it begins, and any other game as the
move leaves it. -/
def writing (store : Storage.Store σ) (e : Engine σ) : Move → Stage
  | .dispatch freshId (.startNewGame game) => e.stage.startNewGame game freshId
  | m => (e.take store m).stage

theorem commands_beatsAfter (i : Index) (m : Move) :
    (m.beatsAfter i).filterMap Beat.command? = [] := by
  unfold Move.beatsAfter
  split
  · exact commands_landingCourse? _
  · rfl

/-! ## What is written -/

section Writing

variable {store : Storage.Store σ} {e : Engine σ}

/-- What a move that writes the game down gives to the storage, and what it does to the stage
after that. -/
theorem written_of_writes {m : Move} (hm : m.Writes store e) {s : Save}
    (hs : (e.take store m).stage.view.save = some s) :
    ∃ w t, (e.writing store m).view.save = some w ∧
      store.saveSave w t = (.ok (), (e.take store m).storage) ∧
      (e.take store m).stage =
        (e.writing store m).playAll (m.beatsAfter e.stage.content) := by
  -- A save or an autosave writes the live save, and nothing comes after that.
  have hsaving : (saveGame store e).1 = .ok () →
      (saveGame store e).2.stage.view.save = some s →
      ∃ w t, (saveGame store e).2.stage.view.save = some w ∧
        store.saveSave w t = (.ok (), (saveGame store e).2.storage) ∧
        (saveGame store e).2.stage = (saveGame store e).2.stage.playAll [] := by
    intro hok hlive
    obtain ⟨t, ht⟩ := written_of_saveGame hok hlive
    exact ⟨s, t, hlive, ht, rfl⟩
  cases m with
  | dispatch freshId a =>
    cases a with
    | saveGame => exact hsaving hm hs
    | startNewGame game =>
      obtain ⟨w, hw⟩ : ∃ w, (e.stage.startNewGame game freshId).view.save = some w :=
        ⟨_, Stage.save_startNewGame e.stage game freshId⟩
      cases hwrite : store.saveSave w e.storage with
      | mk r t =>
        cases r with
        | error f =>
          obtain ⟨g, hg⟩ := startNewGame_of_not_written store e hw hwrite
          have hok : (startNewGame store game freshId e).1 = .ok () := hm
          rw [hg] at hok
          cases hok
        | ok u =>
          obtain ⟨hplays, hstorage⟩ := startNewGame_of_written store e hw hwrite
          refine ⟨w, e.storage, hw, ?_, ?_⟩
          · rw [hwrite, ← hstorage]
            rfl
          · exact hplays.stage
    | _ => exact hm.elim
  | autosave =>
    obtain ⟨hruns, hok⟩ := hm
    have htake : e.take store .autosave = (saveGame store e).2 := autosave_of_ok hruns hok
    have hwriting : e.writing store .autosave = (saveGame store e).2.stage := by
      rw [← htake]
      rfl
    rw [htake] at hs ⊢
    rw [hwriting]
    exact hsaving hok hs
  | _ => exact hm.elim

/-- The doubles of what is written print as those of the live save do, or are those of a new
game. -/
theorem printed_of_writing {m : Move} {w s : Save}
    (hw : (e.writing store m).view.save = some w)
    (hs : (e.take store m).stage.view.save = some s) (hprinted : s.toJson.Printed) :
    w.toJson.Printed := by
  unfold writing at hw
  split at hw
  · exact Stage.printed_startNewGame hw
  · rw [hs] at hw
    rwa [← Option.some_inj.mp hw]

theorem sound_writing {i : Index} (hi : i.Coherent) (hv : i.Valid) (h : e.stage.Sound i)
    {m : Move} (hm : m.Writes store e) : (e.writing store m).Sound i := by
  cases m with
  | dispatch freshId a =>
    cases a with
    | startNewGame game =>
      exact Stage.sound_perform hi h (c := .startNewGame game freshId) trivial
    | saveGame => exact (leads_saveGame store hi e h).1
    | _ => exact hm.elim
  | autosave => exact sound_take hi hv h (m := .autosave) trivial
  | _ => exact hm.elim

end Writing

/-- Whatever moves an engine has made over whatever content and storage: a move that writes
the game down leaves a record of the stage that it writes, and the effects of the first node
of a new game come after that.  So the record is the live save but for its date if and only if
it can be read and those effects leave the save as it was; and loading brings back what was
written, without those effects.  An autosave is one move here and nothing comes between its
parts; `Engine.Part` takes the calls of an engine apart. -/
theorem recorded_iff {v : Json} {p : Pack} {i : Index} (hv : Pack.read v = .good p)
    (hp : Index.ofPack p = .ok i) {store : Storage.Store σ} (hstore : store.backend.Keeps)
    (now : String) (storage : σ) (clock interval : Float) {history : List (String × Move)}
    (hh : ∀ m ∈ history, m.2.Checked) (moment : String) {d e : Engine σ}
    (hd : ((start i now storage clock interval).runAll store history).dated moment = d)
    {m : Move} (hm : m.Writes store d) (he : d.take store m = e) {s : Save}
    (hs : e.stage.view.save = some s) (hprinted : s.toJson.Printed) :
    ∃ w, (d.writing store m).view.save = some w ∧ w.id = s.id ∧
      (∀ freshId game, m = .dispatch freshId (.startNewGame game) → w.Durable) ∧
      e.stage = (d.writing store m).playAll (m.beatsAfter i) ∧
      ((∃ r, (store.getSave s.id e.storage).1 = .ok (some r) ∧ r.undated = s.undated) ↔
        w.Durable ∧ w.undated = s.undated) ∧
      (w.Durable → ∀ later freshId clock' interval', ∃ f,
        dispatch store freshId (.loadSave s.id) (start i later e.storage clock' interval') =
            (.ok (), f) ∧
          f.stage = ((Stage.ofContent i later).setLoading true).loadSave w) := by
  have hi : i.Coherent := Index.coherent_of_ofPack hp
  have hiv : i.Valid := Index.valid_of_ofPack hv hp
  have hsound : d.stage.Sound i := by
    rw [← hd]
    exact sound_dated (sound_runAll hi hiv (Stage.sound_ofContent i now) hh) moment
  rw [← he] at hs ⊢
  obtain ⟨w, before, hw, hwritten, hstage⟩ := written_of_writes hm hs
  rw [hsound.content] at hstage
  have hid : w.id = s.id := by
    have hsame := Stage.saveId?_playAll (commands_beatsAfter i m) (d.writing store m)
    rw [← hstage, Stage.saveId?, Stage.saveId?, hs, hw] at hsame
    exact (Option.some_inj.mp hsame).symm
  have hvalid : w.Valid := (sound_writing hi hiv hsound hm).live w hw
  have hprints : w.toJson.Printed := printed_of_writing hw hs hprinted
  have hget : (store.getSave s.id (d.take store m).storage).1 =
      (Storage.readSave w.toText).map some := by
    rw [← hid]
    exact hstore.getSave hwritten
  refine ⟨w, hw, hid, ?_, hstage, ⟨?_, ?_⟩, ?_⟩
  · rintro freshId game rfl
    exact Stage.durable_startNewGame hw
  · rintro ⟨r, hr, hundated⟩
    rw [hget] at hr
    cases hread : Storage.readSave w.toText with
    | error f =>
      rw [hread] at hr
      cases hr
    | ok u =>
      rw [hread] at hr
      obtain ⟨hdurable, hu⟩ := (Storage.readSave_toText_iff hvalid hprints u).mp hread
      rw [← Option.some_inj.mp (Except.ok.inj hr), hu] at hundated
      exact ⟨hdurable, hundated⟩
  · rintro ⟨hdurable, hundated⟩
    rw [hget, Storage.readSave_toText hvalid hprints hdurable]
    exact ⟨w, rfl, hundated⟩
  · intro hdurable later freshId clock' interval'
    rw [Storage.readSave_toText hvalid hprints hdurable] at hget
    have hload : store.getSave s.id
        (start i later (d.take store m).storage clock' interval').storage =
          (.ok (some w), (store.getSave s.id (d.take store m).storage).2) := Prod.ext hget rfl
    obtain ⟨hok, hloaded⟩ := loadSave_of_some hload
    exact ⟨_, Prod.ext hok rfl, hloaded⟩

/-- The record of a game that begins in the hotel lacks what the lobby and the desk granted,
and so does the game that is loaded from it. -/
theorem recorded_hotel :
    ∃ i d e s, Index.ofPack hotelPack = .ok i ∧
      (start i "1" Storage.Disk.empty 0.0 0.0).dated "2" = d ∧
      d.take gateStore (.dispatch "a" (.startNewGame ⟨"Ann", none⟩)) = e ∧
      e.stage.view.save = some s ∧ s.achievements = ["rang"] ∧
      ¬ (∃ r, (gateStore.getSave s.id e.storage).1 = .ok (some r) ∧ r.undated = s.undated) ∧
      ∃ f r, dispatch gateStore "" (.loadSave s.id) (start i "3" e.storage 0.0 0.0) =
          (.ok (), f) ∧
        f.stage.view.save = some r ∧ r.achievements = [] := by
  obtain ⟨i, d, e, s, hi, hd, hrun, hs, hrang, hinventory, hflags, htime⟩ : ∃ i d e s,
      Index.ofPack hotelPack = .ok i ∧
      (start i "1" Storage.Disk.empty 0.0 0.0).dated "2" = d ∧
      dispatch gateStore "a" (.startNewGame ⟨"Ann", none⟩) d = (.ok (), e) ∧
      e.stage.view.save = some s ∧ s.achievements = ["rang"] ∧ s.inventory = [] ∧
      s.flags = (∅ : Flags).insert "inside" (.bool true) ∧ s.playTime = 0.0 :=
    ⟨_, _, _, _, rfl, rfl, rfl, rfl, rfl, rfl, rfl, rfl⟩
  have hwrites : (Move.dispatch "a" (.startNewGame ⟨"Ann", none⟩)).Writes gateStore d :=
    congrArg Prod.fst hrun
  have he : d.take gateStore (.dispatch "a" (.startNewGame ⟨"Ann", none⟩)) = e :=
    congrArg Prod.snd hrun
  have hprinted : s.toJson.Printed := by
    have hzero : Decimal.Layout.compact.Keeps 0.0 := rfl
    intro x hx _
    rw [Save.doubles_toJson, hinventory, hflags, htime] at hx
    have hx' : x ∈ [0.0] := hx
    rw [List.mem_singleton.mp hx']
    exact hzero
  have hchecked : ∀ m ∈ ([] : List (String × Move)), m.2.Checked := List.forall_mem_nil _
  obtain ⟨w, hw, -, hdurable, -, hrecord, hloads⟩ :=
    recorded_iff (v := hotelPack.toJson) (p := hotelPack) rfl hi (Storage.Folder.keeps _) "1"
      Storage.Disk.empty 0.0 0.0 hchecked "2" hd hwrites he hs hprinted
  have hnone : w.achievements = [] := by
    have hbegun : (d.stage.startNewGame ⟨"Ann", none⟩ "a").view.save = some w := hw
    rw [Stage.save_startNewGame, Option.some_inj] at hbegun
    rw [← hbegun]
    rfl
  refine ⟨i, d, e, s, hi, hd, he, hs, hrang, ?_, ?_⟩
  · intro hrecorded
    have hsame := congrArg Save.achievements (hrecord.mp hrecorded).2
    rw [show w.undated.achievements = [] from hnone,
      show s.undated.achievements = ["rang"] from hrang] at hsame
    cases hsame
  · obtain ⟨f, hf, hstage⟩ := hloads (hdurable _ _ rfl) "3" "" 0.0 0.0
    obtain ⟨r, hr, hrecollected⟩ : ∃ r, f.stage.view.save = some r ∧
        r.achievements = w.achievements := by
      rw [hstage]
      refine ⟨_, rfl, ?_⟩
      unfold Stage.dropSpot
      split
      · rfl
      · split <;> rfl
    exact ⟨f, r, hf, hr, hrecollected.trans hnone⟩

end Engine

end Storyline
