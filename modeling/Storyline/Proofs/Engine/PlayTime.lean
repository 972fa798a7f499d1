import Storyline.Proofs.Decimal.Order
import Storyline.Proofs.Engine.Progress
import Storyline.Proofs.Engine.Waiting

/-!
# Play time

The time that is counted as played and the reading of the clock up to which it is counted belong
together: nothing changes one of them without the other.  A game that begins or is loaded sets both,
and saving moves both, whether the write goes well or not.  So whoever keeps an account of when a
game began and when its time was counted knows what its play time is, and no time is missing.

* `Engine.count`: time is counted up to a reading, with doubles or exactly;
* `Engine.Account`, `Engine.accountOf`: the account of the live game;
* `Engine.meter`, `Engine.Still`: play time and session, and what leaves them alone;
* `Engine.kept_passAll`: the account is right;
* `Engine.conserves_playTime`: what was played is what has passed.
-/

namespace Storyline

open Decimal (toRat isFinite)

/-! ## The stage -/

namespace Stage

/-- The play time of the live save. -/
def playTime? (s : Stage) : Option Float := s.view.save.map (·.playTime)

theorem playTime?_changeSave {f : Save → Save} (hf : ∀ save, (f save).playTime = save.playTime)
    (s : Stage) : (s.changeSave f).playTime? = s.playTime? := by
  rw [playTime?, view_changeSave, playTime?, Option.map_map]
  exact congrArg (s.view.save.map ·) (funext hf)

theorem playTime?_of_moves (s : Stage) {c : Command} (hc : c.Moves) :
    (s.perform c).2.playTime? = s.playTime? := by
  have hmoved : Option.Rel Save.Moved s.view.save (s.perform c).2.view.save := moved_perform hc
  unfold playTime?
  generalize s.view.save = old at hmoved
  generalize (s.perform c).2.view.save = new at hmoved
  cases hmoved with
  | none => rfl
  | some h => rw [Option.map_some, Option.map_some, h.rest]

theorem playTime_change (x : Effect) (save : Save) : (x.change save).playTime = save.playTime := by
  cases x with
  | addMemory memory =>
    show (save.addMemory memory).playTime = save.playTime
    unfold Save.addMemory
    split <;> rfl
  | unlockAchievement achievementId =>
    show (save.unlockAchievement achievementId).playTime = save.playTime
    unfold Save.unlockAchievement
    split <;> rfl
  | _ => rfl

theorem playTime?_play (s : Stage) {b : Beat} (hb : b.Moves) :
    (s.play b).playTime? = s.playTime? := by
  cases b with
  | command c => exact playTime?_of_moves s hb
  | tell r => rfl
  | effect x =>
    cases x with
    | changeScene sceneId => exact playTime?_of_moves s (c := .changeScene sceneId) trivial
    | changePhase phase => exact playTime?_of_moves s (c := .changePhase phase) trivial
    | playSound sound => rfl
    | shakeScreen intensity duration => rfl
    | _ => exact playTime?_changeSave (playTime_change _) s

theorem playTime?_playAll {t : List Beat} (ht : ∀ b ∈ t, b.Moves) (s : Stage) :
    (s.playAll t).playTime? = s.playTime? := by
  induction t generalizing s with
  | nil => rfl
  | cons b t ih =>
    obtain ⟨hb, ht⟩ := List.forall_mem_cons.mp ht
    exact (ih ht (s.play b)).trans (playTime?_play s hb)

theorem playTime?_startNewGame (s : Stage) (game : NewGame) (saveId : String) :
    (s.startNewGame game saveId).playTime? = some 0.0 := by
  rw [playTime?, save_startNewGame]
  rfl

theorem playTime?_loadSave (s : Stage) (save : Save) :
    (s.loadSave save).playTime? = some save.playTime := by
  show some (ite _ save (dropSpot save)).playTime = _
  unfold dropSpot
  split
  · rfl
  · split <;> rfl

end Stage

namespace Engine

variable {σ : Type}

/-! ## Counting -/

section Count

variable {α : Type} [Add α] [Sub α] [LE α] [DecidableLE α] [OfScientific α]

/-- Play time, and the reading up to which it is counted, after it is counted up to another
reading.  A clock that stands still counts nothing. -/
def count (m : α × α) (reading : α) : α × α :=
  (if reading - m.2 ≤ 0.0 then m.1 else m.1 + (reading - m.2), reading)

theorem count_of_le {m : α × α} {reading : α} (h : reading - m.2 ≤ 0.0) :
    count m reading = (m.1, reading) := by
  rw [count, if_pos h]

theorem count_of_not_le {m : α × α} {reading : α} (h : ¬ reading - m.2 ≤ 0.0) :
    count m reading = (m.1 + (reading - m.2), reading) := by
  rw [count, if_neg h]

end Count

/-- Counted exactly, the time that was played grows as the reading does. -/
theorem count_sub {m : ℚ × ℚ} {reading : ℚ} (h : m.2 ≤ reading) :
    (count m reading).1 - (count m reading).2 = m.1 - m.2 := by
  by_cases hstill : reading - m.2 ≤ 0.0
  · have hsame : reading = m.2 := le_antisymm (by norm_num at hstill; exact hstill) h
    rw [count_of_le hstill, hsame]
  · rw [count_of_not_le hstill]
    show m.1 + (reading - m.2) - reading = m.1 - m.2
    ring

theorem foldl_count_sub {m : ℚ × ℚ} {readings : List ℚ}
    (h : (m.2 :: readings).Pairwise (· ≤ ·)) :
    (readings.foldl count m).1 - (readings.foldl count m).2 = m.1 - m.2 := by
  induction readings generalizing m with
  | nil => rfl
  | cons reading readings ih =>
    obtain ⟨hle, hrest⟩ := List.pairwise_cons.mp h
    rw [List.foldl_cons, ih hrest, count_sub (hle reading (List.mem_cons_self ..))]

/-- The double is the number. -/
def Is (x : Float) (q : ℚ) : Prop := isFinite x = true ∧ toRat x = q

/-- In every difference and every sum of the counting, the double that comes out is the number that
ought to. -/
def CountsExactly : Float × Float → List Float → Prop
  | _, [] => True
  | m, reading :: readings =>
    Is (reading - m.2) (toRat reading - toRat m.2) ∧
      Is (m.1 + (reading - m.2)) (toRat m.1 + toRat (reading - m.2)) ∧
      CountsExactly (count m reading) readings

theorem toRat_zero : toRat 0.0 = 0 := by
  have hzero : Decimal.Binary.ofFloat 0.0 = .finite false 0 (-1074) := rfl
  rw [toRat, hzero]
  exact Decimal.number_zero false _

theorem toRat_count {m : Float × Float} {reading : Float}
    (hdifference : Is (reading - m.2) (toRat reading - toRat m.2))
    (hsum : Is (m.1 + (reading - m.2)) (toRat m.1 + toRat (reading - m.2))) :
    (count m reading).map toRat toRat = count (m.map toRat toRat) (toRat reading) := by
  have hle : reading - m.2 ≤ 0.0 ↔ toRat reading - toRat m.2 ≤ 0.0 := by
    rw [Decimal.le_iff_toRat hdifference.1 (by decide), hdifference.2, toRat_zero]
    norm_num
  by_cases h : reading - m.2 ≤ 0.0
  · rw [count_of_le h, count_of_le (m := m.map toRat toRat) (hle.mp h)]
    rfl
  · rw [count_of_not_le h, count_of_not_le (m := m.map toRat toRat) (mt hle.mpr h)]
    refine Prod.ext ?_ rfl
    show toRat (m.1 + (reading - m.2)) = toRat m.1 + (toRat reading - toRat m.2)
    rw [hsum.2, hdifference.2]

/-- Where doubles count exactly, the number that comes out is the exact one. -/
theorem toRat_foldl_count {m : Float × Float} {readings : List Float}
    (h : CountsExactly m readings) :
    (readings.foldl count m).map toRat toRat =
      (readings.map toRat).foldl count (m.map toRat toRat) := by
  induction readings generalizing m with
  | nil => rfl
  | cons reading readings ih =>
    obtain ⟨hdifference, hsum, hrest⟩ := h
    rw [List.foldl_cons, ih hrest, toRat_count hdifference hsum, List.map_cons, List.foldl_cons]

/-! ## What leaves play time alone -/

/-- The play time of the live save, and the reading up to which it is counted. -/
def meter (e : Engine σ) : Option Float × Option Float := (e.stage.playTime?, e.session)

/-- The computation does not touch play time. -/
def Still {α : Type} (m : Run σ α) : Prop := ∀ e, (m e).2.meter = e.meter

section Still

variable {α β : Type}

theorem still_pure (a : α) : Still (pure a : Run σ α) := fun _ => rfl

theorem still_throw (fault : Fault) : Still (throw fault : Run σ α) := fun _ => rfl

theorem meter_bind {m : Run σ α} {f : α → Run σ β} (hf : ∀ a, Still (f a)) (e : Engine σ) :
    ((m >>= f) e).2.meter = (m e).2.meter := by
  rw [bind_apply]
  rcases m e with ⟨_ | a, d⟩
  · rfl
  · exact hf a d

theorem still_bind {m : Run σ α} {f : α → Run σ β} (hm : Still m) (hf : ∀ a, Still (f a)) :
    Still (m >>= f) :=
  fun e => (meter_bind hf e).trans (hm e)

theorem still_modify {f : Engine σ → Engine σ} (h : ∀ e, (f e).meter = e.meter) :
    Still (modify f : Run σ Unit) := h

theorem still_announce (kind : EventKind) (payload : Json.Members) :
    Still (announce kind payload : Run σ Unit) := fun _ => rfl

theorem still_askStorage (act : Storage.Act σ α) : Still (askStorage act) := fun _ => rfl

theorem still_view : Still (view : Run σ View) := fun _ => rfl

theorem still_setLoading (loading : Bool) :
    Still (changeStage (·.setLoading loading) : Run σ Unit) := fun _ => rfl

theorem meter_playAll {t : List Beat} (ht : ∀ b ∈ t, b.Moves) (e : Engine σ) :
    (e.playAll t).meter = e.meter :=
  Prod.ext (Stage.playTime?_playAll ht e.stage) rfl

theorem meter_of_takes {m : Run σ Unit} {e : Engine σ} {c : Course} (h : Takes m e c)
    (hc : c.Moves) : (m e).2.meter = e.meter := by
  unfold Takes at h
  rw [h]
  exact meter_playAll hc e

theorem still_drain (depth : Nat) (is : List Instruction) :
    Still (drain depth is : Run σ Unit) :=
  fun _ => meter_of_takes (takes_drain depth is rfl) (moves_of_commands (commands_course _ _))

theorem still_settle (answer : Except Storage.Failure Unit) :
    Still (settle answer : Run σ Unit) := by
  rcases answer with (f | x) | u
  · exact still_bind (still_announce _ _) fun _ => still_throw _
  · exact still_throw _
  · exact still_pure _

theorem still_finishSave (save : Save) (answer : Except Storage.Failure Unit) :
    Still (finishSave save answer : Run σ Unit) :=
  still_bind (still_settle answer) fun _ => still_announce _ _

theorem still_finishGame (save : Save) (answer : Except Storage.Failure Unit) :
    Still (finishGame save answer : Run σ Unit) := by
  refine still_bind (still_settle answer) fun _ => still_bind (still_announce _ _) fun _ => ?_
  refine still_bind (still_modify fun _ => rfl) fun _ => still_bind still_view fun v => ?_
  cases v.node with
  | none => exact still_pure _
  | some n =>
    have hdialog : Still (announceDialog : Run σ Unit) :=
      still_bind still_view fun _ => still_announce _ _
    exact still_bind hdialog fun _ => still_drain maxDepth _

theorem still_writeThen {finish : Save → Except Storage.Failure Unit → Run σ Unit}
    (h : ∀ save answer, Still (finish save answer)) (store : Storage.Store σ)
    (save? : Option Save) : Still (writeThen store finish save?) := by
  cases save? with
  | none => exact still_pure _
  | some save => exact still_bind (still_askStorage _) (h save)

theorem still_finishLoad (saveId : String) {answer : Except Storage.Failure (Option Save)}
    (h : ∀ save, answer ≠ .ok (some save)) : Still (finishLoad saveId answer : Run σ Unit) := by
  rcases answer with (f | x) | _ | save
  · exact still_bind (still_setLoading false) fun _ =>
      still_bind (still_announce _ _) fun _ => still_throw _
  · exact still_throw _
  · exact still_bind (still_setLoading false) fun _ => still_announce _ _
  · exact absurd rfl (h save)

end Still

/-! ## What sets play time -/

theorem meter_beginGame (game : NewGame) (saveId : String) (e : Engine σ) :
    (beginGame game saveId e).2.meter = (some 0.0, some e.clock) :=
  Prod.ext (Stage.playTime?_startNewGame e.stage game saveId) rfl

theorem meter_finishLoad (saveId : String) (save : Save) (e : Engine σ) :
    (finishLoad saveId (.ok (some save)) e).2.meter = (some save.playTime, some e.clock) :=
  Prod.ext (Stage.playTime?_loadSave e.stage save) rfl

theorem beginSave_of_none {e : Engine σ} (h : e.stage.playTime? = none) :
    (beginSave e).2 = e := by
  have hnone : e.stage.view.save = none := Option.map_eq_none_iff.mp h
  unfold beginSave
  rw [bind_of_ok (view_apply e), hnone]
  rfl

/-- Saving counts play time up to the reading of the clock. -/
theorem meter_beginSave {e : Engine σ} {m : Float × Float} (h : e.meter = (some m.1, some m.2)) :
    (beginSave e).2.meter = (some (count m e.clock).1, some (count m e.clock).2) := by
  obtain ⟨htime, hsession⟩ := Prod.ext_iff.mp h
  obtain ⟨save, hsave, hplayed⟩ := Option.map_eq_some_iff.mp htime
  have hsession' : e.session = some m.2 := hsession
  have hget : (get : Run σ (Engine σ)) e = (.ok e, e) := rfl
  have hcount : (countPlayTime : Run σ Unit) e =
      (.ok (), { e with
        stage := e.stage.addPlayTime (e.clock - m.2)
        session := some e.clock }) := by
    unfold countPlayTime
    rw [bind_of_ok hget, hsession']
    rfl
  have hrun : (beginSave e).2 = { e with
      stage := e.stage.addPlayTime (e.clock - m.2)
      session := some e.clock } := by
    unfold beginSave
    rw [bind_of_ok (view_apply e), hsave]
    show ((countPlayTime >>= fun _ => view >>= fun v => pure v.save : Run σ _) e).2 = _
    rw [bind_of_ok hcount]
    rfl
  rw [hrun]
  refine Prod.ext ?_ rfl
  show (e.stage.addPlayTime (e.clock - m.2)).view.save.map (·.playTime) = some (count m e.clock).1
  unfold Stage.addPlayTime count
  split
  · rw [hsave]
    exact congrArg some hplayed
  · rw [Stage.view_changeSave, hsave, ← hplayed]
    rfl

/-! ## Accounts -/

/-- The account of a game: the play time with which it began or was loaded, the reading at that
moment, and the readings at which time was counted since. -/
structure Account where
  base : Float
  opened : Float
  ticks : List Float

namespace Account

/-- Play time and session by the account. -/
def meter (a : Account) : Float × Float := a.ticks.foldl count (a.base, a.opened)

/-- Play time and session by the account, counted exactly. -/
def exact (a : Account) : ℚ × ℚ :=
  (a.ticks.map toRat).foldl count (toRat a.base, toRat a.opened)

/-- Time is counted once more. -/
def tick (a : Account) (reading : Float) : Account := { a with ticks := a.ticks ++ [reading] }

/-- All readings of the account, in the order in which they were taken. -/
def readings (a : Account) : List Float := a.opened :: a.ticks

theorem meter_tick (a : Account) (reading : Float) :
    (a.tick reading).meter = count a.meter reading := by
  rw [meter, tick, List.foldl_append]
  rfl

end Account

/-- The play time with which a game begins, or is loaded, in the part.  A load that fails, or that
does not find the save, goes on with the old game. -/
def opening? (store : Storage.Store σ) (e : Engine σ) : Part → Option Float
  | .move (.dispatch _ (.startNewGame _)) | .beginGame _ _ => some 0.0
  | .move (.dispatch _ (.loadSave saveId)) =>
    match (store.getSave saveId e.storage).1 with
    | .ok (some save) => some save.playTime
    | _ => none
  | .finishLoad _ (.ok (some save)) => some save.playTime
  | _ => none

/-- Whether time is counted in the part, if there is a game. -/
def counts (e : Engine σ) : Part → Bool
  | .move (.dispatch _ .saveGame) | .beginSave => true
  | .move .autosave => e.autosaves
  | _ => false

/-- What a part adds to the account. -/
def enter (store : Storage.Store σ) (e : Engine σ) (a : Option Account) (t : Timed) :
    Option Account :=
  match opening? store e t.part with
  | some base => some ⟨base, t.reading, []⟩
  | none => if counts e t.part then a.map (·.tick t.reading) else a

/-- The account after parts one after another, from an account. -/
def accountOf (store : Storage.Store σ) : Engine σ → Option Account → List Timed → Option Account
  | _, a, [] => a
  | e, a, t :: ts => accountOf store (pass store e t) (enter store e a t) ts

/-- The engine has the play time and the session of the account, or there is no game. -/
def Kept (e : Engine σ) (a : Option Account) : Prop :=
  e.meter = (a.map (·.meter.1), a.map (·.meter.2))

theorem Kept.of_some {e : Engine σ} {account : Option Account} (h : e.Kept account) {save : Save}
    (hsave : e.stage.view.save = some save) :
    ∃ a, account = some a ∧ e.session = some a.meter.2 ∧
      (save.playTime, a.meter.2) = a.meter := by
  obtain ⟨hplayed, hsession⟩ := Prod.ext_iff.mp h
  have htime : e.stage.playTime? = some save.playTime := by
    rw [Stage.playTime?, hsave, Option.map_some]
  have hlive : account.map (·.meter.1) = some save.playTime := hplayed.symm.trans htime
  obtain ⟨a, rfl, hmeter⟩ := Option.map_eq_some_iff.mp hlive
  exact ⟨a, rfl, hsession, Prod.ext hmeter.symm rfl⟩

section Parts

variable {store : Storage.Store σ} {e : Engine σ} {a : Option Account}

theorem kept_beginSave (h : e.Kept a) :
    (beginSave e).2.Kept (a.map (·.tick e.clock)) := by
  cases a with
  | none =>
    rw [beginSave_of_none (congrArg Prod.fst h)]
    exact h
  | some a =>
    unfold Kept
    rw [meter_beginSave (m := a.meter) h, Option.map_some, Option.map_some, Option.map_some,
      Account.meter_tick]

theorem kept_saveGame (h : e.Kept a) :
    (saveGame store e).2.Kept (a.map (·.tick e.clock)) := by
  have hsave := kept_beginSave h
  unfold Kept at hsave ⊢
  rw [saveGame_eq, meter_bind (still_writeThen still_finishSave store), hsave]

theorem kept_autosave (h : e.Kept a) (hruns : e.autosaves = true) :
    (autosave store e).Kept (a.map (·.tick e.clock)) := by
  obtain ⟨runs, hsaved⟩ := exists_autosave store hruns
  rw [hsaved]
  exact kept_saveGame h

theorem kept_startNewGame (game : NewGame) (saveId : String) :
    (startNewGame store game saveId e).2.Kept (some ⟨0.0, e.clock, []⟩) := by
  unfold Kept
  rw [startNewGame_eq, meter_bind (still_writeThen still_finishGame store), meter_beginGame]
  rfl

/-- A load, by what the storage gives. -/
theorem meter_loadSave (saveId : String) :
    (loadSave store saveId e).2.meter =
      match (store.getSave saveId e.storage).1 with
      | .ok (some save) => (some save.playTime, some e.clock)
      | _ => e.meter := by
  have hload : (beginLoad : Run σ Unit) e =
      (.ok (), { e with stage := e.stage.setLoading true }) := rfl
  rw [loadSave_eq, bind_of_ok hload, bind_of_ok (askStorage_apply _ _)]
  dsimp only
  split
  · rename_i save hget
    rw [hget]
    exact meter_finishLoad saveId save _
  · rename_i hget
    exact still_finishLoad saveId (fun save h => hget save h) _

/-- An action that neither begins a game nor loads one, and does not save, leaves play time
alone. -/
theorem meter_dispatch (freshId : String) {action : Action} (ha : GoesOn action)
    (hsave : action ≠ .saveGame) : (dispatch store freshId action e).2.meter = e.meter := by
  by_cases htoggle : Toggles action
  · have hplayed : (dispatch store freshId action e).2.stage.playTime? = e.stage.playTime? := by
      rw [Stage.playTime?, save_of_toggles store e freshId htoggle]
      rfl
    refine Prod.ext hplayed ?_
    cases action with
    | toggleMenu => rfl
    | toggleInventory => rfl
    | toggleMemories => rfl
    | _ => cases htoggle
  · obtain ⟨c, htakes, hc⟩ := exists_takes_dispatch store e freshId ha hsave htoggle
    exact meter_of_takes htakes hc

theorem kept_of_meter {d : Engine σ} (h : e.Kept a) (hmeter : d.meter = e.meter) : d.Kept a :=
  hmeter.trans h

theorem kept_dispatch (h : e.Kept a) (freshId : String) (action : Action) (now : String) :
    (dispatch store freshId action e).2.Kept
      (enter store e a ⟨e.clock, now, .move (.dispatch freshId action)⟩) := by
  cases action with
  | startNewGame game => exact kept_startNewGame game freshId
  | loadSave saveId =>
    have hload : (loadSave store saveId e).2.meter = _ := meter_loadSave saveId
    unfold Kept enter opening?
    show (loadSave store saveId e).2.meter = _
    rw [hload]
    dsimp only
    split
    · rfl
    · exact h
  | saveGame => exact kept_saveGame h
  | _ => exact kept_of_meter h (meter_dispatch freshId trivial nofun)

/-- What one part does to play time stands in the account. -/
theorem kept_passPart (h : e.Kept a) (now : String) (p : Part) :
    (e.passPart store p).Kept (enter store e a ⟨e.clock, now, p⟩) := by
  cases p with
  | move m =>
    cases m with
    | dispatch freshId action => exact kept_dispatch h freshId action now
    | refuse kind => exact h
    | execute is => exact kept_of_meter h (still_drain maxDepth is e)
    | autosave =>
      show (autosave store e).Kept (if e.autosaves then a.map (·.tick e.clock) else a)
      cases hruns : e.autosaves with
      | false =>
        rw [autosave_of_stopped hruns]
        exact h
      | true => exact kept_autosave h hruns
    | tick seconds => exact h
    | destroy => exact h
  | beginGame game saveId => exact meter_beginGame game saveId e
  | finishGame save answer => exact kept_of_meter h (still_finishGame save answer e)
  | beginSave => exact kept_beginSave h
  | finishSave save answer => exact kept_of_meter h (still_finishSave save answer e)
  | beginLoad => exact h
  | finishLoad saveId answer =>
    rcases answer with f | _ | save
    · exact kept_of_meter h (still_finishLoad saveId (by rintro _ ⟨⟩) e)
    · exact kept_of_meter h (still_finishLoad saveId (by rintro _ ⟨⟩) e)
    · exact meter_finishLoad saveId save e
  | stopTimer => exact h

theorem kept_pass (h : e.Kept a) (t : Timed) : (pass store e t).Kept (enter store e a t) :=
  kept_passPart (e := e.clocked t) h t.now t.part

/-- The account of all parts is right, whatever they are and however they come. -/
theorem kept_passAll (h : e.Kept a) (ts : List Timed) :
    (passAll store e ts).Kept (accountOf store e a ts) := by
  induction ts generalizing e a with
  | nil => exact h
  | cons t ts ih => exact ih (kept_pass h t)

end Parts

/-! ## Time that has passed -/

section Readings

variable {store : Storage.Store σ} {e : Engine σ} {a : Option Account}

/-- An account takes its readings from the clock, in order. -/
theorem readings_enter {taken : List Float} (h : ∀ x ∈ a, x.readings.Sublist taken) (t : Timed) :
    ∀ x ∈ enter store e a t, x.readings.Sublist (taken ++ [t.reading]) := by
  have hstays : ∀ x ∈ a, x.readings.Sublist (taken ++ [t.reading]) := fun x hx =>
    (h x hx).trans (List.sublist_append_left taken _)
  unfold enter
  split
  · rintro x ⟨⟩
    exact List.sublist_append_right taken [t.reading]
  · split
    · rintro x hx
      obtain ⟨y, hy, rfl⟩ := Option.map_eq_some_iff.mp hx
      exact (h y hy).append (List.Sublist.refl [t.reading])
    · exact hstays

theorem readings_accountOf {taken : List Float} (h : ∀ x ∈ a, x.readings.Sublist taken)
    (ts : List Timed) :
    ∀ x ∈ accountOf store e a ts, x.readings.Sublist (taken ++ ts.map (·.reading)) := by
  induction ts generalizing e a taken with
  | nil =>
    rw [List.map_nil, List.append_nil]
    exact h
  | cons t ts ih =>
    have henter : ∀ x ∈ enter store e a t, x.readings.Sublist (taken ++ [t.reading]) :=
      readings_enter h t
    have hrest := ih (e := pass store e t) henter
    rw [List.append_assoc] at hrest
    exact hrest

end Readings

theorem snd_foldl_count {α β : Type} [Add α] [Sub α] [LE α] [DecidableLE α] [OfScientific α]
    [Add β] [Sub β] [LE β] [DecidableLE β] [OfScientific β] (f : α → β) {m : α × α} {n : β × β}
    (h : n.2 = f m.2) (readings : List α) :
    ((readings.map f).foldl count n).2 = f (readings.foldl count m).2 := by
  induction readings generalizing m n with
  | nil => exact h
  | cons reading readings ih => exact ih rfl

/-- Counted exactly, what was played and what is still to be counted make up the time that has
passed since the game began or was loaded. -/
theorem Account.exact_conserved {a : Account}
    (h : (a.readings.map toRat).Pairwise (· ≤ ·)) (moment : ℚ) :
    a.exact.1 + (moment - toRat a.meter.2) = toRat a.base + (moment - toRat a.opened) := by
  have hexact : a.exact.1 - a.exact.2 = toRat a.base - toRat a.opened := foldl_count_sub h
  have hlast : a.exact.2 = toRat a.meter.2 := snd_foldl_count toRat rfl a.ticks
  rw [← hlast]
  linarith

/-- Whatever content and storage an engine has, whatever is done with it, whichever calls are under
way at a time and whatever the storage answers: while there is a game, its play time and session
are those of the account, with time counted by doubles.  Counted exactly, over readings that do not
decrease, play time and the time since the session make up the play time with which the game began
or was loaded and the time since then.  Where doubles count exactly, this holds of the play time of
the save. -/
theorem conserves_playTime (store : Storage.Store σ) (content : Content.Index) (now : String)
    (storage : σ) (clock interval : Float) {ts : List Timed}
    (hfinite : ∀ t ∈ ts, isFinite t.reading = true)
    (hforward : ts.Pairwise fun t u => t.reading ≤ u.reading) {save : Save}
    (hsave : (passAll store (start content now storage clock interval) ts).stage.view.save =
      some save) :
    ∃ a session, accountOf store (start content now storage clock interval) none ts = some a ∧
      (passAll store (start content now storage clock interval) ts).session = some session ∧
      (save.playTime, session) = a.meter ∧
      (∀ moment : ℚ, a.exact.1 + (moment - toRat session) =
        toRat a.base + (moment - toRat a.opened)) ∧
      (CountsExactly (a.base, a.opened) a.ticks → ∀ moment : ℚ,
        toRat save.playTime + (moment - toRat session) =
          toRat a.base + (moment - toRat a.opened)) := by
  have hstart : (start content now storage clock interval).Kept none := rfl
  have hkept : (passAll store (start content now storage clock interval) ts).Kept _ :=
    kept_passAll hstart ts
  obtain ⟨a, ha, hsession, hmeter⟩ := hkept.of_some hsave
  have hordered : (a.readings.map toRat).Pairwise (· ≤ ·) := by
    have hsub : a.readings.Sublist ([] ++ ts.map (·.reading)) :=
      readings_accountOf (a := none) nofun ts a ha
    have hall : (ts.map (·.reading)).Pairwise fun x y => toRat x ≤ toRat y :=
      List.pairwise_map.mpr (hforward.imp_of_mem fun ht hu hle =>
        (Decimal.le_iff_toRat (hfinite _ ht) (hfinite _ hu)).mp hle)
    exact List.pairwise_map.mpr (hall.sublist hsub)
  refine ⟨a, a.meter.2, ha, hsession, hmeter, a.exact_conserved hordered, fun hcounts moment => ?_⟩
  have htime : save.playTime = a.meter.1 := congrArg Prod.fst hmeter
  have hnumber : toRat a.meter.1 = a.exact.1 := congrArg Prod.fst (toRat_foldl_count hcounts)
  rw [htime, hnumber]
  exact a.exact_conserved hordered moment

/-- A game begins; it is to be saved, and while the write is under way the timer elapses; a load
does not find its save. -/
def gateParts : List Timed :=
  [⟨1000.0, "2", .move (.dispatch "a" (.startNewGame ⟨"Ann", none⟩))⟩,
    ⟨1002.5, "3", .beginSave⟩,
    ⟨1004.0, "4", .move .autosave⟩,
    ⟨1005.0, "5", .move (.dispatch "" (.loadSave "b"))⟩]

theorem is_of_finite {x : Float} {m : Nat} {k : Int} {q : ℚ}
    (h : Decimal.Binary.ofFloat x = .finite false m k) (hq : (m * 2 ^ k : ℚ) = q) :
    Is x q := by
  refine ⟨by rw [isFinite, h]; rfl, ?_⟩
  rw [toRat, h]
  exact hq

/-- At the gate, four seconds are counted up to the second save, and nothing is lost later on. -/
theorem conserves_gate :
    ∃ i e s session, Content.Index.ofPack Stage.gatePack = .ok i ∧
      passAll gateStore (start i "1" Storage.Disk.empty 0.0 30.0) gateParts = e ∧
      e.stage.view.save = some s ∧ e.session = some session ∧
      s.playTime = 4.0 ∧ session = 1004.0 ∧
      ∀ moment : ℚ, toRat s.playTime + (moment - toRat session) = 0 + (moment - 1000) := by
  have hfirst : Is 1000.0 1000 :=
    is_of_finite (m := 8796093022208000) (k := -43) rfl (by norm_num)
  have hcounts : CountsExactly (0.0, 1000.0) [1002.5, 1004.0] := by
    have hsecond : Is 1002.5 1002.5 :=
      is_of_finite (m := 8818083254763520) (k := -43) rfl (by norm_num)
    have hthird : Is 1004.0 1004 :=
      is_of_finite (m := 8831277394296832) (k := -43) rfl (by norm_num)
    have hlong : Is 2.5 (1002.5 - 1000) :=
      is_of_finite (m := 5629499534213120) (k := -51) rfl (by norm_num)
    have hshort : Is 1.5 (1004 - 1002.5) :=
      is_of_finite (m := 6755399441055744) (k := -52) rfl (by norm_num)
    have hboth : Is 4.0 (1002.5 - 1000 + (1004 - 1002.5)) :=
      is_of_finite (m := 4503599627370496) (k := -50) rfl (by norm_num)
    refine ⟨?_, ?_, ?_, ?_, trivial⟩
    · show Is 2.5 (toRat 1002.5 - toRat 1000.0)
      rw [hsecond.2, hfirst.2]
      exact hlong
    · show Is 2.5 (toRat 0.0 + toRat 2.5)
      rw [toRat_zero, zero_add]
      exact ⟨hlong.1, rfl⟩
    · show Is 1.5 (toRat 1004.0 - toRat 1002.5)
      rw [hthird.2, hsecond.2]
      exact hshort
    · show Is 4.0 (toRat 2.5 + toRat 1.5)
      rw [hlong.2, hshort.2]
      exact hboth
  obtain ⟨i, e, s, hi, he, hs, htime, hsession, haccount⟩ :
      ∃ i e s, Content.Index.ofPack Stage.gatePack = .ok i ∧
        passAll gateStore (start i "1" Storage.Disk.empty 0.0 30.0) gateParts = e ∧
        e.stage.view.save = some s ∧ s.playTime = 4.0 ∧ e.session = some 1004.0 ∧
        accountOf gateStore (start i "1" Storage.Disk.empty 0.0 30.0) none gateParts =
          some ⟨0.0, 1000.0, [1002.5, 1004.0]⟩ :=
    ⟨_, _, _, rfl, rfl, rfl, rfl, rfl, rfl⟩
  have hfinite : ∀ t ∈ gateParts, isFinite t.reading = true := by
    simp only [gateParts, List.forall_mem_cons]
    exact ⟨rfl, rfl, rfl, rfl, List.forall_mem_nil _⟩
  have hforward : gateParts.Pairwise fun t u => t.reading ≤ u.reading := by decide
  obtain ⟨a, session, ha, hsession', -, -, hconserved⟩ :=
    conserves_playTime gateStore i "1" Storage.Disk.empty 0.0 30.0 hfinite hforward
      (by rw [he]; exact hs)
  obtain rfl := Option.some_inj.mp (haccount.symm.trans ha)
  obtain rfl : session = 1004.0 :=
    Option.some_inj.mp (hsession'.symm.trans (by rw [he]; exact hsession))
  refine ⟨i, e, s, 1004.0, hi, he, hs, hsession, htime, rfl, fun moment => ?_⟩
  rw [hconserved hcounts moment, toRat_zero, hfirst.2]

end Engine

end Storyline
