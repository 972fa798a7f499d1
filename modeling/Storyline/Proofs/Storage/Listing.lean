import Storyline.Proofs.Storage.Agreement

/-!
# All saves of a storage

A storage may hold texts that are no saves.  Listing all saves passes over these, whether they
are no JSON, of a schema that cannot be brought up to date or no valid save; what is left is
given once each, the later change first.  The one text that is not passed over is a text with a
whole number of more digits than are read: it ends the listing.

* `InOrder`: saves in the order of listings;
* `getAllSaves_of_holds`: what the listing gives, whatever texts the storage holds.
-/

namespace Storyline.Storage

variable {σ : Type}

/-- The saves stand in the order of listings: each once, the later change first, and those
that were changed at one moment as they were found. -/
structure InOrder (found saves : List Save) : Prop where
  each : saves.Perm found
  later : saves.Pairwise fun a b => stepsFromZero (instant b) ≤ stepsFromZero (instant a)
  ties : ∀ moment, saves.filter (changedAt moment) = found.filter (changedAt moment)

theorem inOrder_latest (found : List Save) : InOrder found (found.mergeSort laterFirst) where
  each := List.mergeSort_perm found laterFirst
  later := sorted_latest found
  ties := filter_latest found

/-- Whatever texts a storage holds of saves, the listing of all saves gives those that can be
read, unless one of the texts has a number that is too long; that ends the listing. -/
theorem getAllSaves_of_holds {store : Store σ} {Fits : Kind → String → Prop}
    {Holds : Shelf → σ → Prop} (hserves : store.backend.Serves Fits Holds) {m : Shelf} {s : σ}
    (h : Holds m s) :
    ∃ ids, store.backend.ids .save s = (.ok ids, s) ∧ Ascends (m .save) ids ∧
      ((∀ saveId, ¬ m.Overlong saveId) → ∃ saves, store.getAllSaves s = (.ok saves, s) ∧
        InOrder (ids.filterMap m.save?) saves) ∧
      ((∃ saveId, m.Overlong saveId) →
        store.getAllSaves s = (.error (.escape .numberTooLong), s)) := by
  obtain ⟨ids, hids, hascends⟩ := hserves.ids .save h
  have hfits : ∀ saveId ∈ ids, Fits .save saveId := fun saveId hmem =>
    hserves.fits h ((hascends.mem saveId).mp hmem)
  refine ⟨ids, hids, hascends, fun hshort => ?_, fun ⟨saveId, hlong⟩ => ?_⟩
  · have hread : store.readSaves ids s = (.ok (ids.filterMap m.save?), s) :=
      readSaves_of_holds hserves h hfits fun saveId _ => hshort saveId
    refine ⟨_, ?_, inOrder_latest _⟩
    unfold Store.getAllSaves
    rw [bind_of_ok hids, bind_of_ok hread]
    rfl
  · have hmem : saveId ∈ ids := by
      obtain ⟨text, htext, -⟩ := hlong
      refine (hascends.mem saveId).mpr ?_
      rw [htext]
      exact Option.some_ne_none text
    unfold Store.getAllSaves
    rw [bind_of_ok hids]
    exact bind_of_error (readSaves_of_overlong hserves h hfits ⟨saveId, hmem, hlong⟩) _

/-! ## An example -/

/-- A save of Ann, and another text beside it. -/
def gatePair (text : String) : Shelf :=
  Shelf.set (Shelf.set (fun _ _ => none) .save "ann 1" (some gateSave.toText))
    .save "bob" (some text)

/-- Both texts under the keys of the client. -/
def gateStore (text : String) : Kv.Store :=
  (gateService.put (gateClient.key .save "ann 1") gateSave.toText).put
    (gateClient.key .save "bob") text

theorem holds_gateStore (text : String) : gateClient.Holds (gatePair text) (gateStore text) := by
  have hforeign : ∀ kind, gateService.listed (gateClient.key kind "") = [] := by
    intro kind
    cases kind <;> decide
  have hcarries : ∀ id ∈ ["ann 1", "bob"], Client.Carries (gateClient.key .save id) := by
    intro id hid
    rw [Client.carries_iff]
    revert id
    decide
  exact Client.holds_put (Client.holds_put (Client.holds_of_foreign hforeign)
    (hcarries "ann 1" (by decide)) _) (hcarries "bob" (by decide)) text

theorem ascends_gatePair (text : String) : Ascends (gatePair text .save) ["ann 1", "bob"] := by
  refine ⟨by decide, fun id => ?_⟩
  simp only [gatePair, Shelf.set, true_and]
  by_cases hbob : id = "bob"
  · simp [hbob]
  · by_cases hann : id = "ann 1"
    · simp [hann]
    · simp [hbob, hann]

/-- The storage behind the service at the gate. -/
def gateStorage : Store Kv.Store := ⟨gateClient.backend (Kv.transport ""), 1⟩

/-- A whole number of more digits than are read. -/
def gateNumber : Json := .int (Nat.pow 10 Json.maxDigits : Nat)

theorem read_gateNumber : Json.read (gateNumber.write .compact) = .error .numberTooLong := by
  have hlong : ¬ gateNumber.fits (some Json.maxDigits) = true := by
    rw [gateNumber, Json.fits_int, Option.any_some, Int.natAbs_natCast, Bool.not_eq_true',
      Bool.not_eq_false, decide_eq_true_eq]
    exact Decimal.lt_digitCount_pow (by decide)
  have hdoubles : gateNumber.doubles = [] := rfl
  have hread : Json.read (gateNumber.write .compact) =
      if gateNumber.fits (some Json.maxDigits) then .ok (gateNumber.withDoubles .float)
      else .error .numberTooLong :=
    Json.readChars_write Json.readable_compact (.int _) fun x hx =>
      absurd (hdoubles ▸ hx) List.not_mem_nil
  rw [hread, if_neg hlong]

/-- At the gate a broken text beside the game is passed over, and a long number is not. -/
theorem getAllSaves_gate :
    gateClient.Holds (gatePair "lost") (gateStore "lost") ∧
      gateStorage.getAllSaves (gateStore "lost") = (.ok [gateSave], gateStore "lost") ∧
      gateStorage.getAllSaves (gateStore (gateNumber.write .compact)) =
        (.error (.escape .numberTooLong), gateStore (gateNumber.write .compact)) := by
  have hserves : gateStorage.backend.Serves _ _ :=
    Client.serves (c := gateClient) ⟨rfl, Or.inl rfl, rfl⟩
  have hann : (gatePair "lost").save? "ann 1" = some gateSave := by
    have htext : gatePair "lost" .save "ann 1" = some gateSave.toText := rfl
    rw [Shelf.save?, htext, Option.bind_some, readSave_of_storable storable_gateSave]
    rfl
  have hbob : (gatePair "lost").save? "bob" = none := rfl
  have hshort : ∀ saveId, ¬ (gatePair "lost").Overlong saveId := by
    rintro saveId ⟨text, htext, hread⟩
    have hmem := ((ascends_gatePair "lost").mem saveId).mpr (htext ▸ Option.some_ne_none text)
    rcases List.mem_pair.mp hmem with rfl | rfl
    · have hsave := readSave_of_overlong hread
      rw [← Option.some_inj.mp htext, readSave_of_storable storable_gateSave] at hsave
      cases hsave
    · rw [← Option.some_inj.mp htext] at hread
      cases hread
  obtain ⟨ids, -, hascends, hlist, -⟩ := getAllSaves_of_holds hserves (holds_gateStore "lost")
  obtain ⟨-, -, -, -, hfails⟩ :=
    getAllSaves_of_holds hserves (holds_gateStore (gateNumber.write .compact))
  obtain ⟨saves, hsaves, horder⟩ := hlist hshort
  have hfound : ids.filterMap (gatePair "lost").save? = [gateSave] := by
    rw [hascends.eq (ascends_gatePair "lost"), List.filterMap_cons, hann, List.filterMap_cons, hbob]
    rfl
  rw [hfound] at horder
  rw [List.perm_singleton.mp horder.each] at hsaves
  exact ⟨holds_gateStore "lost", hsaves, hfails ⟨"bob", _, rfl, read_gateNumber⟩⟩

end Storyline.Storage
