import Storyline.Engine.Dispatch
import Storyline.Proofs.Stage.Sound
import Storyline.Proofs.Storage.Act

/-!
# What a computation of an engine keeps

A computation of an engine changes the stage by the commands of a stage only.  So what
valid commands keep is kept by the whole computation, whether it ends well or not.

* `Engine.Leads`: a property that is kept, and what is known of the value that comes back;
* `leads_bind`, `leads_perform`, …: one lemma for each thing that an engine does;
* `leads_drain`: landings;
* `leads_dispatch`: actions.
-/

namespace Storyline.Engine

open Content

variable {σ α β : Type}

/-- From every sound stage the computation leads to a sound stage, and what comes back has
the property. -/
def Leads (i : Index) (m : Run σ α) (Q : α → Prop) : Prop :=
  ∀ e : Engine σ, e.stage.Sound i → (m e).2.stage.Sound i ∧ ∀ a, (m e).1 = .ok a → Q a

/-! ## One step -/

section Steps

variable {i : Index} {Q : α → Prop} {R : β → Prop}

theorem leads_pure {a : α} (h : Q a) : Leads i (pure a : Run σ α) Q := by
  intro e he
  refine ⟨he, fun b hb => ?_⟩
  rw [← Except.ok.inj hb]
  exact h

theorem leads_throw (fault : Fault) : Leads i (throw fault : Run σ α) Q :=
  fun _ he => ⟨he, fun _ hb => nomatch hb⟩

theorem leads_bind {m : Run σ α} {f : α → Run σ β} (hm : Leads i m Q)
    (hf : ∀ a, Q a → Leads i (f a) R) : Leads i (m >>= f) R := by
  intro e he
  obtain ⟨hstage, hvalue⟩ := hm e he
  rw [bind_apply]
  cases h : m e with
  | mk r next =>
    rw [h] at hstage hvalue
    cases r with
    | error fault => exact ⟨hstage, fun _ hb => nomatch hb⟩
    | ok a => exact hf a (hvalue a rfl) next hstage

/-- A computation that does not touch the stage. -/
theorem leads_modify {f : Engine σ → Engine σ} (h : ∀ e, (f e).stage = e.stage) :
    Leads i (modify f : Run σ Unit) fun _ => True := by
  intro e he
  refine ⟨?_, fun _ _ => trivial⟩
  show (f e).stage.Sound i
  rw [h]
  exact he

theorem leads_announce (kind : EventKind) (payload : Json.Members) :
    Leads i (announce kind payload : Run σ Unit) fun _ => True :=
  leads_modify fun _ => rfl

theorem leads_get : Leads i (get : Run σ (Engine σ)) fun e => e.stage.Sound i := by
  intro e he
  refine ⟨he, fun d hd => ?_⟩
  rw [← Except.ok.inj hd]
  exact he

theorem leads_view :
    Leads i (view : Run σ View) fun v => ∃ s : Stage, s.Sound i ∧ v = s.view :=
  leads_bind leads_get fun e he => leads_pure ⟨e.stage, he, rfl⟩

theorem leads_announceDialog : Leads i (announceDialog : Run σ Unit) fun _ => True :=
  leads_bind leads_view fun _ _ => leads_announce _ _

theorem leads_changeStage {f : Stage → Stage} (h : ∀ s : Stage, s.Sound i → (f s).Sound i) :
    Leads i (changeStage f : Run σ Unit) fun _ => True :=
  fun e he => ⟨h e.stage he, fun _ _ => trivial⟩

/-- A valid command changes the stage. -/
theorem leads_perform (hi : i.Coherent) {c : Stage.Command} (hc : c.Valid) :
    Leads i (changeStage (fun s => (s.perform c).2) : Run σ Unit) fun _ => True :=
  leads_changeStage fun _ hs => Stage.sound_perform hi hs hc

theorem leads_moveStage {f : Stage → α × Stage}
    (h : ∀ s : Stage, s.Sound i → (f s).2.Sound i ∧ Q (f s).1) :
    Leads i (moveStage f : Run σ α) Q := by
  intro e he
  obtain ⟨hstage, hvalue⟩ := h e.stage he
  refine ⟨hstage, fun a ha => ?_⟩
  rw [← Except.ok.inj ha]
  exact hvalue

theorem leads_askStorage {act : Storage.Act σ α} {Q : Except Storage.Failure α → Prop}
    (h : ∀ s, Q (act s).1) : Leads i (askStorage act) Q := by
  intro e he
  refine ⟨he, fun a ha => ?_⟩
  rw [← Except.ok.inj ha]
  exact h e.storage

end Steps

/-! ## Moves of the dialog -/

section Moves

variable {i : Index} (hi : i.Coherent) (hv : i.Valid)

include hi hv

/-- The node that a command answers with is valid. -/
theorem leads_moveStage_node {f : Stage → Option DialogNode × Stage} {c : Stage.Command}
    (hc : c.Valid) (hf : ∀ s, s.perform c = Stage.ofNode (f s))
    (hnode : ∀ s n, (f s).1 = some n → (f s).2.view.node = some n) :
    Leads i (moveStage f : Run σ (Option DialogNode)) fun o => ∀ n ∈ o, n.Valid := by
  refine leads_moveStage fun s hs => ?_
  have hsound := Stage.sound_perform hi hs hc
  rw [hf] at hsound
  exact ⟨hsound, fun n hn => hsound.valid_node hv (hnode s n hn)⟩

theorem leads_changePhase {land : DialogNode → Run σ Unit}
    (hland : ∀ n : DialogNode, n.Valid → Leads i (land n) fun _ => True) {phase : Phase}
    (hphase : phase.Known) : Leads i (changePhase land phase) fun _ => True := by
  refine leads_bind leads_view fun before _ => ?_
  refine leads_bind (leads_moveStage_node (c := .changePhase phase) hi hv hphase (fun _ => rfl)
    fun s n hn => (Stage.node_changePhase s phase).trans hn) fun o ho => ?_
  refine leads_bind (leads_announce _ _) fun _ _ => ?_
  cases o with
  | none => exact leads_pure trivial
  | some n => exact leads_bind leads_announceDialog fun _ _ => hland n (ho n rfl)

theorem leads_changeScene {land : DialogNode → Run σ Unit}
    (hland : ∀ n : DialogNode, n.Valid → Leads i (land n) fun _ => True) (sceneId : String) :
    Leads i (changeScene land sceneId) fun _ => True := by
  refine leads_bind leads_view fun before _ => ?_
  refine leads_bind (Q := fun _ => True) (leads_moveStage fun s hs => ?_) fun o _ => ?_
  · exact ⟨Stage.sound_perform hi hs (c := .changeScene sceneId) trivial, trivial⟩
  cases o with
  | none => exact leads_pure trivial
  | some c =>
    refine leads_bind (leads_announce _ _) fun _ _ => ?_
    refine leads_bind leads_view fun v hview => ?_
    obtain ⟨s, hs, rfl⟩ := hview
    cases hn : s.view.node with
    | none => exact leads_pure trivial
    | some n => exact leads_bind leads_announceDialog fun _ _ => hland n (hs.valid_node hv hn)

theorem leads_carryOut {land : DialogNode → Run σ Unit}
    (hland : ∀ n : DialogNode, n.Valid → Leads i (land n) fun _ => True) {e : Effect}
    (he : e.Valid) : Leads i (carryOut land e) fun _ => True := by
  cases e with
  | setFlag key value =>
    exact leads_bind (leads_perform hi (c := .setFlag key value) trivial)
      fun _ _ => leads_announce _ _
  | addItem item =>
    exact leads_bind (leads_perform hi (c := .addItem item) (he.2 item rfl))
      fun _ _ => leads_announce _ _
  | removeItem itemId quantity =>
    exact leads_bind (leads_perform hi (c := .removeItem itemId quantity) trivial)
      fun _ _ => leads_announce _ _
  | addMemory memory =>
    exact leads_bind (leads_perform hi (c := .addMemory memory) he.1)
      fun _ _ => leads_announce _ _
  | unlockAchievement achievementId =>
    exact leads_bind (leads_perform hi (c := .unlockAchievement achievementId) trivial)
      fun _ _ => leads_announce _ _
  | changeScene sceneId => exact leads_changeScene hi hv hland sceneId
  | changePhase phase => exact leads_changePhase hi hv hland he.1
  | playSound sound => exact leads_pure trivial
  | shakeScreen intensity duration => exact leads_pure trivial

/-- Landings, however deep they go.  The induction is on the depth that is left. -/
theorem leads_drain (depth : Nat) {is : List Instruction}
    (his : ∀ e, .effect e ∈ is → e.Valid) :
    Leads i (drain depth is : Run σ Unit) fun _ => True := by
  induction depth generalizing is with
  | zero => exact leads_bind (leads_announce _ _) fun _ _ => leads_throw _
  | succ depth ihdepth =>
    induction is with
    | nil => exact leads_pure trivial
    | cons instruction is ih =>
      rw [drain_cons]
      refine leads_bind (Q := fun _ => True) ?_
        fun _ _ => ih fun e he => his e (List.mem_cons_of_mem _ he)
      cases instruction with
      | unknown kind => exact leads_throw _
      | effect e =>
        refine leads_carryOut hi hv (fun n hn => ihdepth fun d hd => ?_)
          (his e (List.mem_cons_self ..))
        obtain ⟨d', hd', heq⟩ := List.mem_map.mp hd
        rw [← Instruction.effect.inj heq]
        exact hn.effects d' hd'

theorem leads_landOn {n : DialogNode} (hn : n.Valid) :
    Leads i (landOn n : Run σ Unit) fun _ => True := by
  refine leads_drain hi hv maxDepth fun e he => ?_
  obtain ⟨d, hd, heq⟩ := List.mem_map.mp he
  rw [← Instruction.effect.inj heq]
  exact hn.effects d hd

theorem leads_startDialog (scriptId : String) :
    Leads i (startDialog scriptId : Run σ Unit) fun _ => True := by
  refine leads_bind (leads_moveStage_node (c := .startDialog scriptId) hi hv trivial
    (fun _ => rfl) fun s n hn => Stage.node_startDialog s hn) fun o ho => ?_
  cases o with
  | none => exact leads_pure trivial
  | some n => exact leads_bind leads_announceDialog fun _ _ => leads_landOn hi hv (ho n rfl)

theorem leads_advanceDialog : Leads i (advanceDialog : Run σ Unit) fun _ => True := by
  refine leads_bind leads_view fun before _ => ?_
  refine leads_bind (leads_moveStage_node (c := .advanceDialog) hi hv trivial (fun _ => rfl)
    fun s n hn => (Stage.node_advanceDialog s).trans hn) fun after hafter => ?_
  cases before.node with
  | none => exact leads_pure trivial
  | some m =>
    cases after with
    | none => exact leads_announce _ _
    | some n =>
      show Leads i (if n.id ≠ m.id then _ else _) _
      split
      · exact leads_bind (leads_announce _ _) fun _ _ => leads_landOn hi hv (hafter n rfl)
      · exact leads_pure trivial

theorem leads_makeChoice (choiceId : String) :
    Leads i (makeChoice choiceId : Run σ Unit) fun _ => True := by
  refine leads_bind leads_view fun v hview => ?_
  obtain ⟨s, hs, rfl⟩ := hview
  cases hn : s.view.node with
  | none => exact leads_pure trivial
  | some current =>
    dsimp only
    cases hchoice : current.choice? choiceId with
    | none => exact leads_pure trivial
    | some choice =>
      have heffects : ∀ e, .effect e ∈ choice.effects.map Instruction.effect → e.Valid := by
        intro e he
        obtain ⟨d, hd, heq⟩ := List.mem_map.mp he
        rw [← Instruction.effect.inj heq]
        have hmem : choice ∈ current.choices := List.mem_of_find?_eq_some hchoice
        exact (hs.valid_node hv hn).choices choice hmem d hd
      refine leads_bind (leads_drain hi hv maxDepth heffects) fun _ _ => ?_
      refine leads_bind leads_view fun _ _ => ?_
      split
      · refine leads_bind (leads_moveStage_node (c := .makeChoice choiceId) hi hv trivial
          (fun _ => rfl) fun s n hn => Stage.node_makeChoice s hn) fun target htarget => ?_
        refine leads_bind (leads_announce _ _) fun _ _ => ?_
        cases target with
        | none => exact leads_pure trivial
        | some n => exact leads_landOn hi hv (htarget n rfl)
      · have hnone : Leads i (pure none : Run σ (Option DialogNode)) (· = none) := leads_pure rfl
        refine leads_bind hnone fun target htarget => ?_
        subst htarget
        exact leads_bind (leads_announce _ _) fun _ _ => leads_pure trivial

end Moves

end Storyline.Engine
