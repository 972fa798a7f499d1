import Storyline.Proofs.Engine.Keeping
import Storyline.Proofs.Storage.Listing

/-!
# Loads that go through or not at all

A load puts the stored save on the stage and says so, or it leaves the view as it was and tells of
one error.  While the storage is asked, the view says that something is loading; this is taken back
when there is no such save, and when the storage reports a fault.  What storage does not report as a
fault of its own ends the load where it stands: no one is told, and the view goes on to say that
something is loading.

* `Storage.Store.Breaks`: reading a save ends in such a way;
* `Storage.breaks_iff_overlong`: over a storage that works, only for a text with a number that is too
  long;
* `Engine.Loaded`, `Engine.Refused`, `Engine.Stuck`: the ways in which a load ends;
* `Engine.loads_or_refuses_iff`: a load goes through or not at all unless the read breaks.
-/

namespace Storyline

namespace Storage

variable {σ : Type}

/-- The read of a save ends with what is no fault of storage: its text cannot be had, or there is a
whole number in it with more digits than are read. -/
def Store.Breaks (store : Store σ) (saveId : String) (s : σ) : Prop :=
  (∃ x, (store.backend.read .save saveId s).1 = .error (.escape x)) ∨
    ∃ text, (store.backend.read .save saveId s).1 = .ok (some text) ∧
      Json.read text = .error .numberTooLong

theorem Store.breaks_iff (store : Store σ) (saveId : String) (s : σ) :
    store.Breaks saveId s ↔ ∃ x, (store.getSave saveId s).1 = .error (.escape x) := by
  rw [Breaks, getSave_apply]
  rcases store.backend.read .save saveId s with ⟨failure | _ | text, t⟩
  · simp
  · simp
  · have hmap : ∀ x, (readSave text).map some = .error (.escape x) ↔
        readSave text = .error (.escape x) := by
      intro x
      cases readSave text <;> simp [Except.map]
    simp [hmap, readSave_eq_escape_iff]

/-- Where the primitives serve a shelf, nothing but a number that is too long breaks a read. -/
theorem breaks_iff_overlong {store : Store σ} {Fits : Kind → String → Prop}
    {Holds : Shelf → σ → Prop} (hserves : store.backend.Serves Fits Holds) {m : Shelf} {s : σ}
    (h : Holds m s) {saveId : String} (hid : Fits .save saveId) :
    store.Breaks saveId s ↔ m.Overlong saveId := by
  rw [Store.Breaks, hserves.read h hid, Shelf.Overlong]
  simp

end Storage

namespace Engine

variable {σ : Type}

/-- A save is live, at the position that its ids name, and it was told that it was loaded.  It is the
save that was stored, unless its ids name no node: then these are dropped. -/
structure Loaded (e d : Engine σ) (save : Save) : Prop where
  view : d.stage.view = (e.stage.loadSave save).view
  idle : d.stage.view.isLoading = false
  told : ∃ live, d.stage.view.save = some live ∧ (live = save ∨ live = Stage.dropSpot save) ∧
    d.bus = e.bus.announce .saveLoaded [("save", live.toJson)]

/-- The view is as it was, nothing is loading, and one error was told. -/
structure Refused (e d : Engine σ) (message : String) : Prop where
  view : d.stage.view = { e.stage.view with isLoading := false }
  told : d.bus = e.bus.announce .error [("message", .str message)]

/-- The view goes on to say that something is loading, and nothing was told. -/
structure Stuck (e d : Engine σ) : Prop where
  view : d.stage.view = { e.stage.view with isLoading := true }
  told : d.bus = e.bus

/-- The load goes through, or not at all. -/
def LoadsOrRefuses (e d : Engine σ) : Prop :=
  (∃ save, Loaded e d save) ∨ ∃ message, Refused e d message

/-- What the caller is answered and what becomes of the engine, by what the storage gives. -/
def Ends (saveId : String) (e d : Engine σ) :
    Except Storage.Failure (Option Save) → Except Fault Unit → Prop
  | .ok (some save), r => r = .ok () ∧ Loaded e d save
  | .ok none, r => r = .ok () ∧ Refused e d (missingMessage saveId)
  | .error (.fault f), r => r = .error (.storage (.fault f)) ∧ Refused e d f.message
  | .error (.escape x), r => r = .error (.storage (.escape x)) ∧ Stuck e d

section

variable {saveId : String} {e d : Engine σ}

theorem ends_loadSave (store : Storage.Store σ) (saveId : String) (e : Engine σ) :
    Ends saveId e (loadSave store saveId e).2 (store.getSave saveId e.storage).1
      (loadSave store saveId e).1 := by
  rw [loadSave_apply]
  rcases store.getSave saveId e.storage with ⟨(f | x) | _ | save, t⟩
  · exact ⟨rfl, rfl, rfl⟩
  · exact ⟨rfl, rfl, rfl⟩
  · exact ⟨rfl, rfl, rfl⟩
  · refine ⟨rfl, rfl, rfl, _, rfl, ?_, rfl⟩
    split
    · exact .inl rfl
    · exact .inr rfl

theorem Stuck.not_loadsOrRefuses (h : Stuck e d) : ¬ LoadsOrRefuses e d := by
  have hloading : d.stage.view.isLoading = true := by rw [h.view]
  rintro (⟨save, hloaded⟩ | ⟨message, hrefused⟩)
  · exact Bool.false_ne_true (hloaded.idle.symm.trans hloading)
  · rw [hrefused.view] at hloading
    cases hloading

theorem Ends.loadsOrRefuses_iff {a : Except Storage.Failure (Option Save)}
    {r : Except Fault Unit} (h : Ends saveId e d a r) :
    LoadsOrRefuses e d ↔ ¬ ∃ x, a = .error (.escape x) := by
  rcases a with (f | x) | _ | save
  · exact iff_of_true (.inr ⟨_, h.2⟩) nofun
  · exact iff_of_false h.2.not_loadsOrRefuses (not_not_intro ⟨x, rfl⟩)
  · exact iff_of_true (.inr ⟨_, h.2⟩) nofun
  · exact iff_of_true (.inl ⟨_, h.2⟩) nofun

end

/-- Whatever the engine, the storage and what it holds: a load goes through, with the save that the
storage gives, or it leaves the view as it was and tells of one error, if and only if the read does
not break.  In each case it is said what the caller is answered.  Over a storage that works, that is
every text but one with a whole number of more digits than are read. -/
theorem loads_or_refuses_iff (store : Storage.Store σ) (freshId saveId : String) (e : Engine σ) :
    ∃ r d, dispatch store freshId (.loadSave saveId) e = (r, d) ∧
      Ends saveId e d (store.getSave saveId e.storage).1 r ∧
      (LoadsOrRefuses e d ↔ ¬ store.Breaks saveId e.storage) ∧
      ∀ {Fits : Storage.Kind → String → Prop} {Holds : Storage.Shelf → σ → Prop}
        {m : Storage.Shelf}, store.backend.Serves Fits Holds → Holds m e.storage →
          Fits .save saveId → (LoadsOrRefuses e d ↔ ¬ m.Overlong saveId) := by
  have hends := ends_loadSave store saveId e
  have hiff : LoadsOrRefuses e (loadSave store saveId e).2 ↔ ¬ store.Breaks saveId e.storage := by
    rw [store.breaks_iff]
    exact hends.loadsOrRefuses_iff
  refine ⟨_, _, rfl, hends, hiff, fun hserves hholds hid => ?_⟩
  rw [← Storage.breaks_iff_overlong hserves hholds hid]
  exact hiff

/-- Loading over the storage at the gate, which holds a game of Ann and another text beside it. -/
def gateEngine (i : Content.Index) (text : String) : Engine Kv.Store :=
  start i "1" (Storage.gateStore text) 0.0 0.0

/-- At the gate the game is loaded, a broken text beside it is refused and leaves the view as it was,
and a long number leaves the engine stuck. -/
theorem loads_or_refuses_gate :
    ∃ i, Content.Index.ofPack Stage.gatePack = .ok i ∧
      (∃ d, dispatch Storage.gateStorage "" (.loadSave "ann 1") (gateEngine i "lost") = (.ok (), d) ∧
        Loaded (gateEngine i "lost") d Storage.gateSave) ∧
      (∃ r d message, dispatch Storage.gateStorage "" (.loadSave "bob") (gateEngine i "lost") =
          (r, d) ∧ Refused (gateEngine i "lost") d message ∧
          d.stage.view = (gateEngine i "lost").stage.view) ∧
      ∃ d, let long := gateEngine i (Storage.gateNumber.write .compact)
        dispatch Storage.gateStorage "" (.loadSave "bob") long =
          (.error (.storage (.escape .numberTooLong)), d) ∧
        Stuck long d ∧ ¬ LoadsOrRefuses long d := by
  have hserves : Storage.gateStorage.backend.Serves _ _ :=
    Storage.Client.serves (c := Storage.gateClient) ⟨rfl, Or.inl rfl, rfl⟩
  have hget : ∀ text saveId, Storage.gatePair text .save saveId ≠ none →
      Storage.gateStorage.getSave saveId (Storage.gateStore text) = _ := fun text _ hheld =>
    Storage.getSave_of_shelf hserves (Storage.holds_gateStore text)
      (hserves.fits (Storage.holds_gateStore text) hheld)
  have hann : (Storage.gateStorage.getSave "ann 1" (Storage.gateStore "lost")).1 =
      .ok (some Storage.gateSave) := by
    have htext : Storage.gatePair "lost" .save "ann 1" = some Storage.gateSave.toText := rfl
    rw [hget _ _ (htext ▸ Option.some_ne_none _), htext]
    dsimp only
    rw [Storage.readSave_of_storable Storage.storable_gateSave]
    rfl
  have hlost : ∃ f, (Storage.gateStorage.getSave "bob" (Storage.gateStore "lost")).1 =
      .error (.fault f) := ⟨_, congrArg Prod.fst (hget "lost" "bob" (Option.some_ne_none _))⟩
  have htext : Storage.gatePair (Storage.gateNumber.write .compact) .save "bob" =
      some (Storage.gateNumber.write .compact) := rfl
  have hheld : Storage.gatePair (Storage.gateNumber.write .compact) .save "bob" ≠ none :=
    htext ▸ Option.some_ne_none _
  have hlong : (Storage.gateStorage.getSave "bob"
      (Storage.gateStore (Storage.gateNumber.write .compact))).1 =
        .error (.escape .numberTooLong) := by
    rw [hget _ _ hheld, htext]
    dsimp only
    rw [Storage.readSave_of_overlong Storage.read_gateNumber]
    rfl
  refine ⟨_, rfl, ?_, ?_, ?_⟩
  · obtain ⟨r, d, hd, hends, -⟩ := loads_or_refuses_iff Storage.gateStorage "" "ann 1"
      (gateEngine _ "lost")
    have hloads : Ends "ann 1" _ d (.ok (some Storage.gateSave)) r := hann ▸ hends
    exact ⟨d, hloads.1 ▸ hd, hloads.2⟩
  · obtain ⟨f, hf⟩ := hlost
    obtain ⟨r, d, hd, hends, -⟩ := loads_or_refuses_iff Storage.gateStorage "" "bob"
      (gateEngine _ "lost")
    have hrefuses : Ends "bob" _ d (.error (.fault f)) r := hf ▸ hends
    exact ⟨r, d, _, hd, hrefuses.2, hrefuses.2.view⟩
  · obtain ⟨r, d, hd, hends, -, hiff⟩ := loads_or_refuses_iff Storage.gateStorage "" "bob"
      (gateEngine _ (Storage.gateNumber.write .compact))
    have hid : Storage.Client.Carries (Storage.gateClient.key .save "bob") :=
      hserves.fits (Storage.holds_gateStore _) hheld
    have hoverlong : (Storage.gatePair (Storage.gateNumber.write .compact)).Overlong "bob" :=
      ⟨_, htext, Storage.read_gateNumber⟩
    have hsticks : Ends "bob" _ d (.error (.escape .numberTooLong)) r := hlong ▸ hends
    exact ⟨d, hsticks.1 ▸ hd, hsticks.2, fun h =>
      (hiff hserves (Storage.holds_gateStore _) hid).mp h hoverlong⟩

end Engine

end Storyline
