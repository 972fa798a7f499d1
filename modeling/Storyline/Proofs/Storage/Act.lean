import Storyline.Storage.Backend

/-!
# Computations with a state

A computation of a storage, or of an engine, gives a value or a fault and leaves a state
in either case.

* `bind_apply`: one computation after another;
* `bind_of_ok`, `bind_of_error`, `map_of_ok`, `map_of_error`: the same where the first one
  is known;
* `Storage.Store.getSave_apply`: what becomes of a read.
-/

namespace Storyline

variable {ε σ α β : Type}

/-- One computation after another. -/
theorem bind_apply (m : ExceptT ε (StateM σ) α) (f : α → ExceptT ε (StateM σ) β) (s : σ) :
    (m >>= f) s = match m s with
      | (.ok a, s) => f a s
      | (.error e, s) => (.error e, s) := by
  show ExceptT.bindCont f (m s).1 (m s).2 = _
  rcases m s with ⟨_ | a, s⟩ <;> rfl

theorem bind_of_ok {m : ExceptT ε (StateM σ) α} {s t : σ} {a : α} (h : m s = (.ok a, t))
    (f : α → ExceptT ε (StateM σ) β) : (m >>= f) s = f a t := by
  rw [bind_apply, h]

theorem bind_of_error {m : ExceptT ε (StateM σ) α} {s t : σ} {e : ε} (h : m s = (.error e, t))
    (f : α → ExceptT ε (StateM σ) β) : (m >>= f) s = (.error e, t) := by
  rw [bind_apply, h]

/-- A computation whose value is turned into another one. -/
theorem map_of_ok {m : ExceptT ε (StateM σ) α} {s t : σ} {a : α} (h : m s = (.ok a, t))
    (f : α → β) : (f <$> m) s = (.ok (f a), t) := by
  rw [map_eq_pure_bind, bind_of_ok h]
  rfl

theorem map_of_error {m : ExceptT ε (StateM σ) α} {s t : σ} {e : ε} (h : m s = (.error e, t))
    (f : α → β) : (f <$> m) s = (.error e, t) := by
  rw [map_eq_pure_bind, bind_of_error h]

/-- The state is left as it is when the value is turned into another one. -/
theorem snd_map (m : ExceptT ε (StateM σ) α) (f : α → β) (s : σ) : ((f <$> m) s).2 = (m s).2 := by
  rcases h : m s with ⟨_ | a, t⟩
  · rw [map_of_error h]
  · rw [map_of_ok h]

namespace Storage

theorem Act.ofExcept_ok (a : α) (s : σ) : (Act.ofExcept (.ok a) : Act σ α) s = (.ok a, s) := rfl

/-- The save of an id is that of the text which is read under it. -/
theorem Store.getSave_apply (store : Store σ) (saveId : String) (s : σ) :
    store.getSave saveId s = match store.backend.read .save saveId s with
      | (.ok none, t) => (.ok none, t)
      | (.ok (some text), t) => ((readSave text).map some, t)
      | (.error e, t) => (.error e, t) := by
  unfold Store.getSave
  rw [bind_apply]
  rcases store.backend.read .save saveId s with ⟨e | _ | text, t⟩
  · rfl
  · rfl
  · show ((some <$> Act.ofExcept (readSave text) : Act σ _) t) = ((readSave text).map some, t)
    cases readSave text <;> rfl

end Storage

end Storyline
