import Storyline.Proofs.Stage.Position

/-!
# What is never lost

A player's history only grows.  Achievements, memories, the nodes that were read and the names of
flags are kept in the order in which they came, new ones go to the end, and none comes twice.  Who
plays, and which save it is, stays what it was.

* `Grows`: a list that got entries of its own at the end;
* `Save.Continues`: a save that goes on from another one;
* `Save.Moved`, `Save.Retimed`: two narrower ways of going on;
* `Stage.Related`: live saves before and after, in a relation;
* `Stage.moved_perform`: moves of the story; `Stage.continues_perform`: all commands but those that
  begin a game or load one.
-/

namespace Storyline

/-! ## Lists that grow -/

section Grows

variable {α : Type} {a b c : List α}

/-- The second list is the first one and then entries that are new, each of them once. -/
def Grows (a b : List α) : Prop := ∃ added, b = a ++ added ∧ added.Nodup ∧ ∀ x ∈ added, x ∉ a

theorem Grows.refl (a : List α) : Grows a a := ⟨[], (List.append_nil a).symm, List.nodup_nil, nofun⟩

theorem Grows.push {x : α} (h : x ∉ a) : Grows a (a ++ [x]) :=
  ⟨[x], rfl, by simp, List.forall_mem_singleton.mpr h⟩

theorem Grows.trans (hab : Grows a b) (hbc : Grows b c) : Grows a c := by
  obtain ⟨s, rfl, hs, hfresh⟩ := hab
  obtain ⟨t, rfl, ht, hlater⟩ := hbc
  refine ⟨s ++ t, List.append_assoc .., List.nodup_append.mpr ⟨hs, ht, ?_⟩, fun x hx => ?_⟩
  · rintro x hx _ hmem rfl
    exact hlater x hmem (List.mem_append_right _ hx)
  · rcases List.mem_append.mp hx with hx | hx
    · exact hfresh x hx
    · exact fun hmem => hlater x hx (List.mem_append_left _ hmem)

end Grows

/-! ## Saves that go on -/

namespace Save

/-- The second save goes on from the first one. -/
structure Continues (s t : Save) : Prop where
  achievements : Grows s.achievements t.achievements
  memories : s.memories <+: t.memories
  memoryIds : Grows (s.memories.map (·.id)) (t.memories.map (·.id))
  read : Grows s.readDialogIds t.readDialogIds
  flags : Grows s.flags.keys t.flags.keys
  id : t.id = s.id
  version : t.version = s.version
  createdAt : t.createdAt = s.createdAt
  player : t.player = s.player
  name : t.name = s.name
  thumbnail : t.thumbnail = s.thumbnail

/-- Nothing but the place of the story, the nodes that were read and the date is different, and
of read nodes none is lost. -/
structure Moved (s t : Save) : Prop where
  read : Grows s.readDialogIds t.readDialogIds
  rest : t = { s with
    currentPhase := t.currentPhase
    currentSceneId := t.currentSceneId
    currentDialogId := t.currentDialogId
    currentDialogScriptId := t.currentDialogScriptId
    readDialogIds := t.readDialogIds
    updatedAt := t.updatedAt }

/-- Nothing but the time that was played and the date is different. -/
def Retimed (s t : Save) : Prop := t = { s with playTime := t.playTime, updatedAt := t.updatedAt }

variable {s t u : Save}

theorem Continues.refl (s : Save) : s.Continues s :=
  ⟨.refl _, List.prefix_refl _, .refl _, .refl _, .refl _, rfl, rfl, rfl, rfl, rfl, rfl⟩

theorem Continues.trans (h : s.Continues t) (k : t.Continues u) : s.Continues u where
  achievements := h.achievements.trans k.achievements
  memories := h.memories.trans k.memories
  memoryIds := h.memoryIds.trans k.memoryIds
  read := h.read.trans k.read
  flags := h.flags.trans k.flags
  id := k.id.trans h.id
  version := k.version.trans h.version
  createdAt := k.createdAt.trans h.createdAt
  player := k.player.trans h.player
  name := k.name.trans h.name
  thumbnail := k.thumbnail.trans h.thumbnail

/-- The date of a save does not matter. -/
theorem Continues.dated (h : s.Continues t) (moment : String) :
    s.Continues { t with updatedAt := moment } :=
  ⟨h.achievements, h.memories, h.memoryIds, h.read, h.flags, h.id, h.version, h.createdAt,
    h.player, h.name, h.thumbnail⟩

theorem Moved.continues (h : s.Moved t) : s.Continues t := by
  obtain ⟨hread, hrest⟩ := h
  rw [hrest]
  exact ⟨.refl _, List.prefix_refl _, .refl _, hread, .refl _, rfl, rfl, rfl, rfl, rfl, rfl⟩

theorem Retimed.continues (h : s.Retimed t) : s.Continues t := by
  rw [h]
  exact ⟨.refl _, List.prefix_refl _, .refl _, .refl _, .refl _, rfl, rfl, rfl, rfl, rfl, rfl⟩

theorem continues_setFlag (s : Save) (key : String) (value : FlagValue) :
    s.Continues (s.setFlag key value) := by
  refine { Continues.refl s with flags := ?_ }
  rw [flags_setFlag, Table.keys_insert]
  split
  · exact .refl _
  · exact .push ‹_›

theorem continues_addMemory (s : Save) (memory : Memory) : s.Continues (s.addMemory memory) := by
  unfold addMemory
  split
  · exact .refl s
  · rename_i hnew
    refine { Continues.refl s with memories := List.prefix_append .., memoryIds := ?_ }
    rw [List.map_append]
    refine .push fun hmem => hnew ?_
    obtain ⟨m, hm, hid⟩ := List.mem_map.mp hmem
    exact List.any_eq_true.mpr ⟨m, hm, decide_eq_true hid⟩

theorem continues_unlockAchievement (s : Save) (achievementId : String) :
    s.Continues (s.unlockAchievement achievementId) := by
  unfold unlockAchievement
  split
  · exact .refl s
  · rename_i hnew
    exact { Continues.refl s with
      achievements := .push fun hmem => hnew (List.contains_iff_mem.mpr hmem) }

end Save

/-- Nodes that were read stay read, in order. -/
theorem grows_markRead (nodeId : String) (ids : List String) :
    Grows ids (Stage.markRead nodeId ids) := by
  unfold Stage.markRead
  split
  · exact .refl _
  · rename_i hnew
    exact .push fun hmem => hnew (List.contains_iff_mem.mpr hmem)

/-! ## Commands -/

namespace Stage

/-- The live saves of two stages are in a relation, or neither has one. -/
def Related (R : Save → Save → Prop) (s t : Stage) : Prop :=
  Option.Rel R s.view.save t.view.save

section Related

variable {R : Save → Save → Prop} {s t u : Stage}

theorem related_of_map {f : Save → Save} (h : t.view.save = s.view.save.map f)
    (hf : ∀ save, R save (f save)) : s.Related R t := by
  rw [Related, h]
  cases s.view.save with
  | none => exact .none
  | some save => exact .some (hf save)

theorem related_of_eq (hR : ∀ save, R save save) (h : t.view.save = s.view.save) :
    s.Related R t := by
  refine related_of_map (f := fun save => save) ?_ hR
  rw [h, Option.map_id']

theorem Related.mono {Q : Save → Save → Prop} (h : s.Related R t) (hQ : ∀ a b, R a b → Q a b) :
    s.Related Q t := by
  unfold Related at h ⊢
  generalize s.view.save = a at h
  generalize t.view.save = b at h
  cases h with
  | none => exact .none
  | some hab => exact .some (hQ _ _ hab)

theorem Related.trans (hR : ∀ a b c, R a b → R b c → R a c) (h : s.Related R t)
    (k : t.Related R u) : s.Related R u := by
  unfold Related at h k ⊢
  generalize s.view.save = a at h
  generalize t.view.save = b at h k
  generalize u.view.save = c at k
  cases h with
  | none =>
    cases k
    exact .none
  | some hab =>
    cases k with
    | some hbc => exact .some (hR _ _ _ hab hbc)

end Related

/-- The live save goes on. -/
def Continues (s t : Stage) : Prop := s.Related Save.Continues t

theorem Continues.refl (s : Stage) : s.Continues s := related_of_eq Save.Continues.refl rfl

theorem Continues.trans {s t u : Stage} (h : s.Continues t) (k : t.Continues u) : s.Continues u :=
  Related.trans (fun _ _ _ => Save.Continues.trans) h k

/-- The command moves the story or its dialog. -/
def Command.Moves : Command → Prop
  | .changePhase _ | .changeScene _ | .startDialog _ | .advanceDialog | .makeChoice _ | .endDialog
  | .completeTypewriter => True
  | _ => False

/-- The command goes on with the live save, if there is one. -/
def Command.Onward : Command → Prop
  | .startNewGame _ _ | .loadSave _ => False
  | _ => True

section Commands

variable {s : Stage}

theorem moved_refl (save : Save) : save.Moved save := ⟨.refl _, rfl⟩

theorem moved_enter {scene : Option Scene} {spot : Option Spot} {f : Save → Save}
    (hf : ∀ (save : Save) (moment : String), save.Moved { f (standAt spot save) with updatedAt := moment }) :
    s.Related Save.Moved (s.enter scene spot f) := by
  refine related_of_map (f := fun save => { f (standAt spot save) with updatedAt := s.now }) ?_
    fun save => hf save s.now
  rw [view_enter]

/-- Changes of the live save that the view follows. -/
theorem moved_changeSave {f : Save → Save} {g : View → View}
    (hf : ∀ (save : Save) (moment : String), save.Moved { f save with updatedAt := moment })
    (hg : ∀ v, (g v).save = v.save) : s.Related Save.Moved ((s.changeSave f).changeView g) := by
  refine related_of_map (f := fun save => { f save with updatedAt := s.now }) ?_
    fun save => hf save s.now
  rw [view_changeView, hg, view_changeSave]

theorem moved_moveTo (n target : DialogNode) : s.Related Save.Moved (s.moveTo n target) :=
  moved_changeSave (fun save _ => ⟨grows_markRead n.id save.readDialogIds, rfl⟩) fun _ => rfl

/-- A move of the story or its dialog changes nothing of the live save but the place of the story,
the nodes that were read, and the date. -/
theorem moved_perform {c : Command} (hc : c.Moves) : s.Related Save.Moved (s.perform c).2 := by
  have hsame : s.Related Save.Moved s := related_of_eq moved_refl rfl
  cases c with
  | changePhase phase => exact moved_enter fun save _ => ⟨.refl _, rfl⟩
  | changeScene sceneId =>
    show s.Related Save.Moved (s.changeScene sceneId).2
    unfold changeScene
    split
    · exact hsame
    · exact moved_enter fun save _ => ⟨.refl _, rfl⟩
  | startDialog scriptId =>
    show s.Related Save.Moved (s.startDialog scriptId).2
    unfold startDialog
    split
    · exact hsame
    · exact moved_changeSave (fun save _ => ⟨.refl _, rfl⟩) fun _ => rfl
  | advanceDialog =>
    show s.Related Save.Moved s.advanceDialog.2
    unfold advanceDialog
    split
    · exact hsame
    · split
      · exact related_of_eq moved_refl rfl
      · split
        · exact related_of_eq moved_refl rfl
        · split
          · exact moved_moveTo _ _
          · exact moved_changeSave (fun save _ => ⟨.refl _, rfl⟩) fun _ => rfl
  | makeChoice choiceId =>
    show s.Related Save.Moved (s.makeChoice choiceId).2
    unfold makeChoice
    split
    · split
      · exact moved_moveTo _ _
      · exact hsame
    · exact hsame
  | endDialog => exact moved_changeSave (fun save _ => ⟨.refl _, rfl⟩) fun _ => rfl
  | completeTypewriter => exact related_of_eq moved_refl rfl
  | _ => cases hc

theorem continues_changeSave {f : Save → Save} (hf : ∀ save : Save, save.Continues (f save)) :
    s.Continues (s.changeSave f) := by
  refine related_of_map (f := fun save => { f save with updatedAt := s.now }) ?_
    fun save => (hf save).dated s.now
  rw [view_changeSave]

theorem retimed_addPlayTime (seconds : Float) : s.Related Save.Retimed (s.addPlayTime seconds) := by
  unfold addPlayTime
  split
  · exact related_of_eq (fun _ => rfl) rfl
  · refine related_of_map (f := fun save =>
      { save with playTime := save.playTime + seconds, updatedAt := s.now }) ?_ fun save => rfl
    rw [view_changeSave]

/-- A command that neither begins a game nor loads one goes on with the live save. -/
theorem continues_perform {c : Command} (hc : c.Onward) : s.Continues (s.perform c).2 := by
  have hmoves : c.Moves → s.Continues (s.perform c).2 := fun h =>
    (moved_perform h).mono fun _ _ => Save.Moved.continues
  have hsame : (s.perform c).2.view.save = s.view.save → s.Continues (s.perform c).2 :=
    related_of_eq Save.Continues.refl
  cases c with
  | startNewGame game saveId => cases hc
  | loadSave save => cases hc
  | addItem item => exact continues_changeSave fun save => { Save.Continues.refl save with }
  | removeItem itemId quantity =>
    exact continues_changeSave fun save => { Save.Continues.refl save with }
  | addMemory memory => exact continues_changeSave fun save => save.continues_addMemory memory
  | unlockAchievement achievementId =>
    exact continues_changeSave fun save => save.continues_unlockAchievement achievementId
  | setFlag key value => exact continues_changeSave fun save => save.continues_setFlag key value
  | addPlayTime seconds =>
    exact (retimed_addPlayTime seconds).mono fun _ _ => Save.Retimed.continues
  | setLoading loading => exact hsame rfl
  | toggleMenu => exact hsame rfl
  | toggleInventory => exact hsame rfl
  | toggleMemories => exact hsame rfl
  | _ => exact hmoves trivial

end Commands

end Stage

end Storyline
