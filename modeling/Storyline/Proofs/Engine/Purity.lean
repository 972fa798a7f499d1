import Storyline.Proofs.Engine.Course

/-!
# Effects on data through the engine

As long as no effect moves the dialog, what an engine makes of a list of effects is what
the rules of a save make of it, and the observers are told what the effects leave behind.

* `Action.effect?`: the effect that an action stands for;
* `Effect.event?_notification`: the event that a notification stands for;
* `Stage.view_playAll_effects`: the view after effects;
* `Engine.execute_eq_applyAll`: the engine carries out what the rules say.
-/

namespace Storyline

open Content

/-! ## Events and notifications -/

/-- The event that a notification stands for, if it is one of data. -/
def Notification.event? (n : Notification) : Option Report :=
  (EventKind.ofName? n.kind).map fun kind => (kind, n.payload)

namespace Effect

theorem event?_notification (x : Effect) : x.notification.event? = x.event? := by
  cases x <;> rfl

theorem events_applyAll (s : Save) (es : List Effect) :
    (applyAll s es).2.filterMap Notification.event? = es.filterMap event? := by
  simp only [applyAll, List.filterMap_map, Function.comp_def, event?_notification]

/-! ## The date of a save -/

/-- The rules do not look at the date of a save. -/
theorem change_dated (s : Save) (moment : String) (x : Effect) :
    x.change { s with updatedAt := moment } = { x.change s with updatedAt := moment } := by
  cases x with
  | addMemory memory =>
    simp only [change, Save.addMemory]
    split <;> rfl
  | unlockAchievement achievementId =>
    simp only [change, Save.unlockAchievement]
    split <;> rfl
  | _ => rfl

theorem applyAll_dated (s : Save) (moment : String) (es : List Effect) :
    (applyAll { s with updatedAt := moment } es).1 =
      { (applyAll s es).1 with updatedAt := moment } := by
  induction es generalizing s with
  | nil => rfl
  | cons x es ih =>
    simp only [applyAll_cons, apply]
    rw [change_dated, ih]

end Effect

/-! ## Stages -/

namespace Stage

/-- An effect that does not move the dialog changes the live save by the rules, and
nothing else of the view.  Effects for the screen do not even date the save. -/
theorem view_bring {st : Stage} {s : Save} (hs : st.view.save = some s) {x : Effect}
    (hx : x.isControl = false) :
    ∃ moment, (st.bring x).view =
      { st.view with save := some { x.change s with updatedAt := moment } } := by
  have hsame : st.view = { st.view with save := some { s with updatedAt := s.updatedAt } } := by
    rw [← hs]
  cases x with
  | changeScene sceneId => cases hx
  | changePhase phase => cases hx
  | playSound sound => exact ⟨s.updatedAt, hsame⟩
  | shakeScreen intensity duration => exact ⟨s.updatedAt, hsame⟩
  | _ => exact ⟨st.now, by simp only [bring, changeSave_of_some hs, view_show]⟩

/-- What effects that do not move the dialog make of a view. -/
theorem view_playAll_effects {es : List Effect} (hes : ∀ x ∈ es, x.isControl = false)
    {st : Stage} {s : Save} (hs : st.view.save = some s) :
    ∃ moment, (st.playAll (es.map .effect)).view =
      { st.view with save := some { (Effect.applyAll s es).1 with updatedAt := moment } } := by
  induction es generalizing st s with
  | nil =>
    refine ⟨s.updatedAt, ?_⟩
    show st.view = { st.view with save := some s }
    rw [← hs]
  | cons x es ih =>
    obtain ⟨hx, hes⟩ := List.forall_mem_cons.mp hes
    obtain ⟨moment, hview⟩ := view_bring hs hx
    have hlive : (st.bring x).view.save = some { x.change s with updatedAt := moment } := by
      rw [hview]
    obtain ⟨later, hviews⟩ := ih hes hlive
    refine ⟨later, ?_⟩
    rw [List.map_cons, playAll_cons]
    exact hviews.trans (by rw [Effect.applyAll_dated, hview]; rfl)

/-- What such effects tell. -/
theorem reports_effects {es : List Effect} (hes : ∀ x ∈ es, x.isControl = false) (st : Stage) :
    st.reports (es.map .effect) = es.filterMap Effect.event? := by
  induction es generalizing st with
  | nil => rfl
  | cons x es ih =>
    obtain ⟨hx, hes⟩ := List.forall_mem_cons.mp hes
    have hhead : st.reportsOn x = x.event?.toList := by
      cases x with
      | changeScene sceneId => cases hx
      | changePhase phase => cases hx
      | _ => rfl
    rw [List.map_cons, reports_cons, ih hes, List.filterMap_cons]
    show st.reportsOn x ++ _ = _
    rw [hhead]
    cases x.event? <;> rfl

end Stage

/-! ## The engine -/

/-- The effect that an action stands for. -/
def Action.effect? : Action → Option Effect
  | .changePhase phase => some (.changePhase phase)
  | .changeScene sceneId => some (.changeScene sceneId)
  | .addItem item => some (.addItem item)
  | .removeItem itemId quantity => some (.removeItem itemId quantity)
  | .addMemory memory => some (.addMemory memory)
  | .setFlag key value => some (.setFlag key value)
  | .unlockAchievement achievementId => some (.unlockAchievement achievementId)
  | _ => none

namespace Engine

variable {σ : Type}

theorem landing?_of_not_control (i : Index) {x : Effect} (hx : x.isControl = false) :
    i.landing? x = none := by
  cases x with
  | changeScene sceneId => cases hx
  | changePhase phase => cases hx
  | _ => rfl

/-- Effects that do not move the dialog are their own course. -/
theorem course_of_not_control (i : Index) (depth : Nat) {es : List Effect}
    (hes : ∀ x ∈ es, x.isControl = false) :
    course i (depth + 1) (es.map .effect) = .ofBeats (es.map .effect) := by
  induction es with
  | nil => rfl
  | cons x es ih =>
    obtain ⟨hx, hes⟩ := List.forall_mem_cons.mp hes
    rw [List.map_cons, course_cons, courseOf_of_none (landing?_of_not_control i hx), ih hes]
    rfl

/-- Effects that do not move the dialog are carried out one after another. -/
theorem execute_of_not_control {es : List Effect} (hes : ∀ x ∈ es, x.isControl = false)
    (e : Engine σ) : execute (es.map .effect) e = (.ok (), e.playAll (es.map .effect)) := by
  have hcourse : execute (es.map .effect) e = _ := drain_apply maxDepth (es.map .effect) e
  rw [hcourse, maxDepth, course_of_not_control _ _ hes]
  rfl

/-- An action that stands for an effect carries it out. -/
theorem dispatch_of_effect (store : Storage.Store σ) (freshId : String) {a : Action} {x : Effect}
    (h : a.effect? = some x) : dispatch store freshId a = carryOut landOn x := by
  cases a <;> cases h <;> rfl

/-- So it takes the course of the effect. -/
theorem takes_dispatch_of_effect (store : Storage.Store σ) (freshId : String) {a : Action}
    {x : Effect} (h : a.effect? = some x) (e : Engine σ) :
    Takes (dispatch store freshId a) e
      (courseOf e.stage.content (fun n => course e.stage.content maxDepth (instructionsOf n))
        (.effect x)) := by
  rw [dispatch_of_effect store freshId h]
  exact takes_carryOut (fun n d hd => takes_drain maxDepth (instructionsOf n) hd) x rfl

/-- Where the effect does not move the dialog, that is the same as to carry out a list of it
alone. -/
theorem dispatch_eq_execute (store : Storage.Store σ) (freshId : String) {a : Action} {x : Effect}
    (h : a.effect? = some x) (hx : x.isControl = false) (e : Engine σ) :
    dispatch store freshId a e = execute [.effect x] e := by
  have hexecute : execute [.effect x] e = (.ok (), e.playAll [.effect x]) :=
    execute_of_not_control (List.forall_mem_singleton.mpr hx) e
  rw [hexecute, dispatch_of_effect store freshId h, carryOut_apply,
    landing?_of_not_control _ hx]

/-- Whatever the engine, its live save and the effects: if none of them moves the dialog,
they are carried out without a fault, the live save becomes what the rules of a save make of
it, but for its date, the rest of the view stays, and the events that are told are those of
the notifications.  An action on data does and tells the same as a list of its effect. -/
theorem execute_eq_applyAll {e : Engine σ} {s : Save} (hs : e.stage.view.save = some s)
    {es : List Effect} (hes : ∀ x ∈ es, x.isControl = false) :
    (∃ d, execute (es.map .effect) e = (.ok (), d) ∧
      (∃ moment, d.stage.view =
        { e.stage.view with
          save := some { (Effect.applyAll s es).1 with updatedAt := moment } }) ∧
      d.bus = e.bus.announceAll ((Effect.applyAll s es).2.filterMap Notification.event?)) ∧
    ∀ (store : Storage.Store σ) (freshId : String) (a : Action) (x : Effect),
      a.effect? = some x → x.isControl = false →
        dispatch store freshId a e = execute [.effect x] e := by
  refine ⟨⟨e.playAll (es.map .effect), execute_of_not_control hes e,
    Stage.view_playAll_effects hes hs, ?_⟩, fun store freshId a x ha hx =>
    dispatch_eq_execute store freshId ha hx e⟩
  rw [bus_playAll, Stage.reports_effects hes, Effect.events_applyAll]

/-- A game without content. -/
def plainGame : Engine Unit :=
  { start Index.empty "1" () 0.0 0.0 with
    stage := (Stage.ofContent Index.empty "1").startNewGame ⟨"Ann", none⟩ "a" }

/-- In a game without content a flag is set, a sound is played and a key is taken that is not
there: the flag is in the save, and two events are told. -/
theorem execute_plain :
    ∃ d s moment,
      execute (σ := Unit)
        ([.setFlag "open" (.bool true), .playSound "creak", .removeItem "key" 1].map .effect)
        plainGame = (.ok (), d) ∧
      plainGame.stage.view.save = some s ∧
      d.stage.view.save = some { s with
        flags := s.flags.insert "open" (.bool true), updatedAt := moment } ∧
      d.bus = plainGame.bus.announceAll
        [(.flagChanged, settingMembers "open" (.bool true)),
          (.itemRemoved, removalMembers "key" 1)] := by
  have hdata : ∀ x ∈ [Effect.setFlag "open" (.bool true), .playSound "creak",
      .removeItem "key" 1], x.isControl = false := by decide
  obtain ⟨⟨d, hd, ⟨moment, hview⟩, hbus⟩, -⟩ := execute_eq_applyAll (e := plainGame) rfl hdata
  exact ⟨d, _, moment, hd, rfl, by rw [hview]; rfl, hbus⟩

end Engine

end Storyline
