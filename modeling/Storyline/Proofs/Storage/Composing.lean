import Storyline.Proofs.Storage.Serving

/-!
# What goes through every order

All that a storage does is put together from the four primitives of its backend.  So what
holds of the primitives, and of two computations one after the other as soon as it holds of
each, holds of every order.

* `Composes`: a property of computations that goes through sequences;
* `Composes.obey`: such a property of the primitives holds of every order.
-/

namespace Storyline.Storage

variable {σ : Type}

/-- The property holds of computations that leave the state alone, and of one computation
after another if it holds of both. -/
structure Composes (P : ∀ α : Type, Act σ α → Prop) : Prop where
  pure : ∀ {α : Type} (a : α), P α (pure a)
  throw : ∀ {α : Type} (f : Failure), P α (throw f)
  bind : ∀ {α β : Type} {m : Act σ α} {f : α → Act σ β}, P α m → (∀ a, P β (f a)) →
    P β (m >>= f)

/-- The property holds of the primitives. -/
structure Backend.Has (b : Backend σ) (P : ∀ α : Type, Act σ α → Prop) : Prop where
  read : ∀ kind id, P (Option String) (b.read kind id)
  write : ∀ kind id text, P Unit (b.write kind id text)
  remove : ∀ kind id, P Unit (b.remove kind id)
  ids : ∀ kind, P (List String) (b.ids kind)

namespace Composes

variable {P : ∀ α : Type, Act σ α → Prop} (hP : Composes P)

include hP

theorem map {α β : Type} {m : Act σ α} (hm : P α m) (f : α → β) : P β (f <$> m) := by
  rw [map_eq_pure_bind]
  exact hP.bind hm fun a => hP.pure (f a)

theorem ofExcept {α : Type} (r : Except Failure α) : P α (Act.ofExcept r) := by
  cases r with
  | ok a => exact hP.pure a
  | error f => exact hP.throw f

theorem forM {α : Type} {f : α → Act σ Unit} {xs : List α} (hf : ∀ a ∈ xs, P Unit (f a)) :
    P Unit (xs.forM f) := by
  induction xs with
  | nil => exact hP.pure ()
  | cons a xs ih =>
    exact hP.bind (hf a (List.mem_cons_self ..)) fun _ =>
      ih fun b hb => hf b (List.mem_cons_of_mem a hb)

variable {store : Store σ} (hstore : store.backend.Has P)

include hstore

theorem getSave (saveId : String) : P _ (store.getSave saveId) := by
  refine hP.bind (hstore.read .save saveId) fun r => ?_
  cases r with
  | none => exact hP.pure none
  | some text => exact hP.map (hP.ofExcept (readSave text)) some

theorem readSaves (ids : List String) : P _ (store.readSaves ids) := by
  induction ids with
  | nil => exact hP.pure []
  | cons saveId ids ih =>
    refine hP.bind (hstore.read .save saveId) fun r => ?_
    cases r with
    | none => exact ih
    | some text =>
      dsimp only
      cases readSave text with
      | ok save => exact hP.bind ih fun saves => hP.pure (save :: saves)
      | error f =>
        cases f with
        | fault f => exact ih
        | escape e => exact hP.throw (.escape e)

theorem getAllSaves : P _ store.getAllSaves :=
  hP.bind (hstore.ids .save) fun ids =>
    hP.bind (hP.readSaves hstore ids) fun saves => hP.pure (saves.mergeSort laterFirst)

theorem setSetting (key : String) (value : Option Json) : P _ (store.setSetting key value) :=
  hP.bind (hP.ofExcept (Store.settingText key value)) fun text => hstore.write .setting key text

theorem getSetting (key : String) : P _ (store.getSetting key) := by
  refine hP.bind (hstore.read .setting key) fun r => ?_
  cases r with
  | none => exact hP.pure none
  | some text => exact hP.map (hP.ofExcept (Store.readSetting key text)) some

theorem readSettings (keys : List String) (settings : Json.Members) :
    P _ (store.readSettings keys settings) := by
  induction keys generalizing settings with
  | nil => exact hP.pure settings
  | cons key keys ih =>
    refine hP.bind (hstore.read .setting key) fun r => ?_
    cases r with
    | none => exact ih settings
    | some text =>
      exact hP.bind (hP.ofExcept (Store.readSetting key text)) fun v =>
        ih (settings.insert key v)

theorem clearKind (kind : Kind) : P _ (store.clearKind kind) :=
  hP.bind (hstore.ids kind) fun _ => hP.forM fun id _ => hstore.remove kind id

theorem bundle (now : String) : P _ (store.bundle now) := by
  refine hP.bind (hP.getAllSaves hstore) fun saves => ?_
  have hsettings : P _ store.allSettings :=
    hP.bind (hstore.ids .setting) fun keys => hP.readSettings hstore keys []
  exact hP.bind hsettings fun settings => hP.pure _

theorem keepBundle (o : Oddities) (b : Bundle) : P _ (store.keepBundle o b) := by
  refine hP.bind (hP.forM fun save _ => ?_) fun _ => hP.forM fun m _ => ?_
  · rw [keepSave_eq]
    exact hP.bind (hP.ofExcept (o.save save)) fun save =>
      hstore.write .save save.id save.toText
  · rw [keepSetting_eq]
    exact hP.bind (hP.ofExcept (o.setting m)) fun m =>
      hstore.write .setting m.1 (m.2.write .spaced)

/-- What goes through sequences and holds of the primitives holds of every order. -/
theorem obey (now : String) (o : Order) : P _ (store.obey now o) := by
  cases o with
  | saveSave save => exact hP.map (hstore.write .save save.id save.toText) _
  | deleteSave saveId => exact hP.map (hstore.remove .save saveId) _
  | getSave saveId => exact hP.map (hP.getSave hstore saveId) _
  | getAllSaves => exact hP.map (hP.getAllSaves hstore) _
  | setSetting key value => exact hP.map (hP.setSetting hstore key value) _
  | getSetting key => exact hP.map (hP.getSetting hstore key) _
  | clear =>
    exact hP.map (hP.bind (hP.clearKind hstore .save) fun _ => hP.clearKind hstore .setting) _
  | importBundle data =>
    exact hP.map (hP.bind (hP.ofExcept (readBundle store.version data)) fun b =>
      hP.keepBundle hstore data.oddities b) _
  | exportBundle => exact hP.map (hP.map (hP.bundle hstore now) _) _

end Composes

end Storyline.Storage
