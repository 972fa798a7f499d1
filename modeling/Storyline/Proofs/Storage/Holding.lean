import Mathlib.Data.List.Induction
import Storyline.Proofs.Storage.Listing

/-!
# A folder lists what it holds

After any writes and removals that succeeded, with any ids, the files of a folder are the records
that were written and not removed since, and a listing gives their ids in order.  There is one
exception.  The file of the empty id has the suffix for a name, so that what is read back from it
is not the empty id: that record is listed under an id that may belong to no record or to another
one, and what goes through the listing never comes to it.

* `Edit`, `Filed`, `shelfAfter`: what was written and not removed since;
* `Folder.stocked_of_editAll`: the files after the edits of a history;
* `Store.Covers`: reading everything and clearing come to every record;
* `Folder.clear_of_stocked`: clearing a folder leaves the records of the empty id alone;
* `Folder.lists_held`: what a folder lists and what is reached through it.
-/

namespace Storyline.Storage

variable {σ : Type}

/-! ## Histories -/

/-- A change of one record. -/
inductive Edit where
  | write (kind : Kind) (id text : String)
  | remove (kind : Kind) (id : String)
  deriving DecidableEq

/-- Carry out an edit. -/
def Backend.edit (b : Backend σ) : Edit → Act σ Unit
  | .write kind id text => b.write kind id text
  | .remove kind id => b.remove kind id

/-- Carry out edits, one after another. -/
def Backend.editAll (b : Backend σ) (edits : List Edit) : Act σ Unit := edits.forM b.edit

/-- A shelf after an edit. -/
def Edit.record (m : Shelf) : Edit → Shelf
  | .write kind id text => m.set kind id (some text)
  | .remove kind id => m.set kind id none

/-- The texts that are there after edits, from none on. -/
def shelfAfter (edits : List Edit) : Shelf := edits.foldl Edit.record fun _ _ => none

theorem shelfAfter_concat (edits : List Edit) (edit : Edit) :
    shelfAfter (edits ++ [edit]) = edit.record (shelfAfter edits) := List.foldl_concat ..

/-- The id was written and not removed since. -/
def Filed (edits : List Edit) (kind : Kind) (id : String) : Prop :=
  ∃ before text after, edits = before ++ .write kind id text :: after ∧ .remove kind id ∉ after

theorem filed_concat {edits : List Edit} {edit : Edit} {kind : Kind} {id : String} :
    Filed (edits ++ [edit]) kind id ↔
      (∃ text, edit = .write kind id text) ∨ Filed edits kind id ∧ edit ≠ .remove kind id := by
  constructor
  · rintro ⟨before, text, after, hsplit, hafter⟩
    rcases List.eq_nil_or_concat' after with rfl | ⟨front, last, rfl⟩
    · obtain ⟨-, hedit⟩ := List.append_inj' hsplit rfl
      exact Or.inl ⟨text, List.head_eq_of_cons_eq hedit⟩
    · rw [← List.cons_append, ← List.append_assoc] at hsplit
      obtain ⟨hedits, hedit⟩ := List.append_inj' hsplit rfl
      rw [List.mem_append, not_or] at hafter
      refine Or.inr ⟨⟨before, text, front, hedits, hafter.1⟩, ?_⟩
      rintro rfl
      exact hafter.2 (List.head_eq_of_cons_eq hedit ▸ List.mem_singleton_self _)
  · rintro (⟨text, rfl⟩ | ⟨⟨before, text, after, rfl, hafter⟩, hedit⟩)
    · exact ⟨edits, text, [], rfl, List.not_mem_nil⟩
    · refine ⟨before, text, after ++ [edit], by simp, ?_⟩
      rw [List.mem_append, not_or, List.mem_singleton]
      exact ⟨hafter, hedit.symm⟩

/-- There is a text under the ids that were written and not removed since. -/
theorem shelfAfter_ne_none_iff (edits : List Edit) (kind : Kind) (id : String) :
    shelfAfter edits kind id ≠ none ↔ Filed edits kind id := by
  induction edits using List.reverseRecOn with
  | nil =>
    have hnone : shelfAfter [] kind id = none := rfl
    simp [hnone, Filed]
  | append_singleton edits edit ih =>
    rw [filed_concat, ← ih, shelfAfter_concat]
    cases edit with
    | write k i text =>
      show (shelfAfter edits).set k i (some text) kind id ≠ none ↔ _
      rw [Shelf.set]
      split
      · rename_i heq
        simp [heq.1, heq.2]
      · rename_i hne
        have hother : ∀ other, Edit.write k i text ≠ .write kind id other := by
          rintro other ⟨⟩
          exact hne ⟨rfl, rfl⟩
        simp [hother]
    | remove k i =>
      show (shelfAfter edits).set k i none kind id ≠ none ↔ _
      rw [Shelf.set]
      split
      · rename_i heq
        simp [heq.1, heq.2]
      · rename_i hne
        have hother : Edit.remove k i ≠ .remove kind id := by
          rintro ⟨⟩
          exact hne ⟨rfl, rfl⟩
        simp [hother]

/-! ## Reading everything -/

/-- What goes through the listing comes to every record: all saves that can be read are read, all
of them and all settings go into a bundle, and clearing leaves nothing.  A number that is too long
ends the reading of saves, and a setting that is none that of settings. -/
structure Store.Covers (store : Store σ) (m : Shelf) (s : σ) : Prop where
  saves : (∀ saveId, ¬ m.Overlong saveId) → ∃ ids saves, Ascends (m .save) ids ∧
    InOrder (ids.filterMap m.save?) saves ∧ store.getAllSaves s = (.ok saves, s)
  bundle : (∀ saveId, ¬ m.Overlong saveId) →
    (∀ key text, m .setting key = some text → ∃ v, Store.readSetting key text = .ok v) →
    ∀ now, ∃ saves keys, store.getAllSaves s = (.ok saves, s) ∧ Ascends (m .setting) keys ∧
      store.exportBundle now s = (.ok (Bundle.toText ⟨store.version, now, saves,
        keys.filterMap fun key => (m.setting? key).map (key, ·)⟩), s)
  clear : ∃ t, store.clear s = (.ok (), t) ∧ ∀ kind, store.backend.ids kind t = (.ok [], t)

section Serving

variable {store : Store σ} {Fits : Kind → String → Prop} {Holds : Shelf → σ → Prop} {m : Shelf}
  {s : σ}

theorem covers_of_serves (hserves : store.backend.Serves Fits Holds) (h : Holds m s) :
    store.Covers m s := by
  have hsaves : (∀ saveId, ¬ m.Overlong saveId) → ∃ ids saves, Ascends (m .save) ids ∧
      InOrder (ids.filterMap m.save?) saves ∧ store.getAllSaves s = (.ok saves, s) := by
    intro hshort
    obtain ⟨ids, hids, hascends⟩ := hserves.ids .save h
    have hread := readSaves_of_holds hserves h
      (fun saveId hmem => hserves.fits h ((hascends.mem saveId).mp hmem))
      fun saveId _ => hshort saveId
    refine ⟨ids, _, hascends, inOrder_latest _, ?_⟩
    unfold Store.getAllSaves
    rw [bind_of_ok hids, bind_of_ok hread]
    rfl
  refine ⟨hsaves, fun hshort hreads now => ?_, ?_⟩
  · obtain ⟨-, saves, -, -, hall⟩ := hsaves hshort
    obtain ⟨keys, hkeys, hascends⟩ := hserves.ids .setting h
    have hread : store.readSettings keys [] s =
        (.ok ([] ++ keys.filterMap fun key => (m.setting? key).map (key, ·)), s) :=
      readSettings_of_holds hserves h
        (fun key hmem => hserves.fits h ((hascends.mem key).mp hmem)) (fun key _ => hreads key)
        (nodup_of_sorted hascends.sorted) fun key _ => List.not_mem_nil
    have hsettings : store.allSettings s =
        (.ok (keys.filterMap fun key => (m.setting? key).map (key, ·)), s) := by
      unfold Store.allSettings
      rw [bind_of_ok hkeys, hread, List.nil_append]
    refine ⟨saves, keys, hall, hascends, map_of_ok ?_ _⟩
    unfold Store.bundle
    rw [bind_of_ok hall, bind_of_ok hsettings]
    rfl
  · obtain ⟨t, hclear, ht⟩ := clear_of_holds hserves h
    refine ⟨t, hclear, fun kind => ?_⟩
    obtain ⟨ids, hids, hascends⟩ := hserves.ids kind ht
    have hnil : ids = [] := List.eq_nil_iff_forall_not_mem.mpr fun id hid =>
      (hascends.mem id).mp hid rfl
    rw [hids, hnil]

end Serving

/-! ## Folders -/

namespace Folder

variable {f : Folder} {m : Shelf} {d d' : Disk}

theorem stocked_of_edit (h : f.Stocked m d) {edit : Edit}
    (hedit : f.backend.edit edit d = (.ok (), d')) : f.Stocked (edit.record m) d' := by
  cases edit with
  | write kind id text => exact stocked_of_write h hedit
  | remove kind id => exact stocked_of_remove h hedit

/-- After edits that succeeded the files are the records that are there. -/
theorem stocked_of_editAll (h : f.Stocked m d) {edits : List Edit}
    (hedits : f.backend.editAll edits d = (.ok (), d')) :
    f.Stocked (edits.foldl Edit.record m) d' := by
  induction edits generalizing m d with
  | nil =>
    cases hedits
    exact h
  | cons edit edits ih =>
    obtain ⟨_, t, hedit, hrest⟩ := bind_eq_ok hedits
    exact ih (stocked_of_edit h hedit) hrest

/-- The names of the files that an edit is about are not too long. -/
def Short : Edit → Prop
  | .write _ id _ => (fileName id).utf8ByteSize ≤ Disk.maxName ∧
    (draftName (fileName id)).utf8ByteSize ≤ Disk.maxName
  | .remove _ id => (fileName id).utf8ByteSize ≤ Disk.maxName

theorem exists_remove (h : f.Stocked m d) (kind : Kind) {id : String}
    (hid : (fileName id).utf8ByteSize ≤ Disk.maxName) :
    ∃ d', f.remove kind id d = (.ok (), d') ∧ f.Stocked (m.set kind id none) d' :=
  (remove_cases h kind id).resolve_right fun hlong => absurd hid (Nat.not_le_of_lt hlong.1)

/-- Edits succeed as long as no name is too long. -/
theorem exists_editAll (h : f.Stocked m d) {edits : List Edit}
    (hshort : ∀ edit ∈ edits, Short edit) : ∃ d', f.backend.editAll edits d = (.ok (), d') := by
  have hstep : ∀ edit ∈ edits, ∀ (m : Shelf) (d : Disk), f.Stocked m d →
      ∃ d', f.backend.edit edit d = (.ok (), d') ∧ f.Stocked (edit.record m) d' := by
    intro edit hmem m d hd
    have hnames := hshort edit hmem
    cases edit with
    | write kind id text =>
      obtain ⟨d', hwrite⟩ := exists_write hd kind hnames.1 hnames.2 text
      exact ⟨d', hwrite, stocked_of_write hd hwrite⟩
    | remove kind id => exact exists_remove hd kind hnames
  obtain ⟨d', hedits, -⟩ := forM_of_step hstep h
  exact ⟨d', hedits⟩

/-- Clearing a kind takes away every record but that of the empty id. -/
theorem clearKind_of_stocked (h : f.Stocked m d) (kind : Kind) (version : Int) :
    ∃ d', Store.clearKind ⟨f.backend, version⟩ kind d = (.ok (), d') ∧
      f.Stocked (fun k id => if k = kind ∧ id ≠ "" then none else m k id) d' := by
  obtain ⟨held, -, hmem, hids⟩ := ids_of_stocked h kind
  obtain ⟨ids, hlist⟩ : ∃ ids, ids = (held.map listedAs).mergeSort idOrder := ⟨_, rfl⟩
  have hlisted : ∀ id, id ∈ ids ↔ ∃ i ∈ held, listedAs i = id := fun id => by
    rw [hlist, List.mem_mergeSort, List.mem_map]
  have hshort : ∀ id ∈ ids, (fileName id).utf8ByteSize ≤ Disk.maxName := by
    intro id hid
    obtain ⟨i, hi, rfl⟩ := (hlisted id).mp hid
    by_cases hempty : i = ""
    · rw [hempty]
      decide
    · rw [listedAs_of_ne hempty]
      exact h.fits kind i ((hmem i).mp hi)
  obtain ⟨d', hremove, hstocked⟩ := forM_of_step (f := f.remove kind)
    (g := fun (m : Shelf) id => m.set kind id none) (R := f.Stocked)
    (fun id hid m d hd => exists_remove hd kind (hshort id hid)) h
  refine ⟨d', ?_, ?_⟩
  · show (f.ids kind >>= fun ids => ids.forM (f.remove kind)) d = _
    rw [bind_of_ok hids, ← hlist]
    exact hremove
  · have hshelf : ids.foldl (fun m id => m.set kind id none) m =
        fun k id => if k = kind ∧ id ≠ "" then none else m k id := by
      funext k id
      rw [foldl_set_none]
      by_cases hid : id ∈ ids
      · have hne : id ≠ "" := by
          obtain ⟨i, -, rfl⟩ := (hlisted id).mp hid
          exact listedAs_ne_empty i
        exact if_congr (and_congr_right fun _ => ⟨fun _ => hne, fun _ => hid⟩) rfl rfl
      · rw [if_neg fun h => hid h.2]
        split
        · rename_i hother
          rw [hother.1]
          -- a record that is there is listed
          refine Decidable.not_not.mp fun hsome => hid ((hlisted id).mpr ⟨id, ?_, ?_⟩)
          · exact (hmem id).mpr hsome
          · exact listedAs_of_ne hother.2
        · rfl
    rw [← hshelf]
    exact hstocked

/-- Clearing takes away every record but those of the empty id. -/
theorem clear_of_stocked (h : f.Stocked m d) (version : Int) :
    ∃ d', Store.clear ⟨f.backend, version⟩ d = (.ok (), d') ∧
      f.Stocked (fun kind id => if id = "" then m kind id else none) d' := by
  obtain ⟨d₁, hsaves, h₁⟩ := clearKind_of_stocked h .save version
  obtain ⟨d₂, hsettings, h₂⟩ := clearKind_of_stocked h₁ .setting version
  refine ⟨d₂, ?_, ?_⟩
  · unfold Store.clear
    rw [bind_of_ok hsaves, hsettings]
  · have hshelf : (fun kind id => if id = "" then m kind id else none : Shelf) = fun k id =>
        if k = .setting ∧ id ≠ "" then none else
          if k = .save ∧ id ≠ "" then none else m k id := by
      funext k id
      by_cases hid : id = ""
      · simp [hid]
      · cases k <;> simp [hid]
    rw [hshelf]
    exact h₂

/-- After any edits of a folder that was empty, whatever the ids are, as long as they succeeded:
its files are the records that were written and not removed since, a listing gives their ids in
order, and with it every record is reached, unless one of the ids is empty.  That one is listed as
another id, and clearing leaves its record. -/
theorem lists_held {f : Folder} {edits : List Edit} {d d' : Disk} (hvacant : f.Vacant d)
    (hedits : f.backend.editAll edits d = (.ok (), d')) (version : Int) :
    f.Stocked (shelfAfter edits) d' ∧
    (∀ kind, ∃ held ids : List String, held.Nodup ∧ (∀ id, id ∈ held ↔ Filed edits kind id) ∧
      f.ids kind d' = (.ok ids, d') ∧ ids.Pairwise (· ≤ ·) ∧
      ids.Perm (held.map fun id => if id = "" then ".json" else id) ∧
      ((ids.Pairwise (· < ·) ∧ ∀ id, id ∈ ids ↔ Filed edits kind id) ↔ ¬ Filed edits kind "")) ∧
    ((∀ kind, ¬ Filed edits kind "") →
      Store.Covers ⟨f.backend, version⟩ (shelfAfter edits) d') ∧
    ∃ d'', Store.clear ⟨f.backend, version⟩ d' = (.ok (), d'') ∧
      f.Stocked (fun kind id => if id = "" then shelfAfter edits kind id else none) d'' := by
  have hstocked : f.Stocked (shelfAfter edits) d' :=
    stocked_of_editAll (holds_of_vacant hvacant).stocked hedits
  have hnone : ∀ kind, shelfAfter edits kind "" = none ↔ ¬ Filed edits kind "" := fun kind => by
    rw [← shelfAfter_ne_none_iff, ne_eq, Decidable.not_not]
  refine ⟨hstocked, fun kind => ?_, fun hempty => ?_, clear_of_stocked hstocked version⟩
  · obtain ⟨held, hnodup, hmem, hids⟩ := ids_of_stocked hstocked kind
    have hordered := ascends_listedAs_iff hnodup hmem
    refine ⟨held, _, hnodup, fun id => (hmem id).trans (shelfAfter_ne_none_iff edits kind id),
      hids, le_of_mergeSort _, List.mergeSort_perm _ _, ?_⟩
    rw [← hnone, ← hordered]
    simp only [← shelfAfter_ne_none_iff]
    exact ⟨fun h => ⟨h.1, h.2⟩, fun h => ⟨h.sorted, h.mem⟩⟩
  · have hholds := hstocked.holds fun kind => (hnone kind).mpr (hempty kind)
    exact covers_of_serves f.serves hholds

/-- A folder that is to be made. -/
def desk : Folder := ⟨⟨"", ["narrative"]⟩⟩

/-- A record with the empty id, one with another, and one that is removed again. -/
def deskEdits : List Edit :=
  [.write .save "" "x", .write .save "ann" "y", .write .save "a/b" "z", .remove .save "a/b"]

theorem filed_deskEdits (id : String) : Filed deskEdits .save id ↔ id = "" ∨ id = "ann" := by
  have hshelf : shelfAfter deskEdits .save id =
      if id = "a/b" then none else if id = "a/b" then some "z" else if id = "ann" then some "y"
      else if id = "" then some "x" else none := by
    show (if _ then _ else if _ then _ else if _ then _ else if _ then _ else _) = _
    simp only [true_and]
  rw [← shelfAfter_ne_none_iff, hshelf]
  by_cases hother : id = "a/b"
  · simp [hother]
  · by_cases hann : id = "ann"
    · simp [hann]
    · by_cases hempty : id = ""
      · simp [hempty]
      · simp [hother, hann, hempty]

/-- The record with the empty id is listed under the name of its file, and clearing leaves it. -/
theorem lists_held_desk :
    ∃ d', desk.backend.editAll deskEdits Disk.empty = (.ok (), d') ∧
      desk.ids .save d' = (.ok [".json", "ann"], d') ∧
      ∃ d'', Store.clear ⟨desk.backend, 1⟩ d' = (.ok (), d'') ∧
        d''.get? (desk.path .save "").names = some (.text "x") ∧
        d''.get? (desk.path .save "ann").names = none := by
  have hvacant : desk.Vacant Disk.empty := vacant_empty (by decide)
  have hshort : ∀ edit ∈ deskEdits, Short edit := by
    simp only [deskEdits, List.forall_mem_cons, Short]
    exact ⟨by decide, by decide, by decide, by decide, List.forall_mem_nil _⟩
  obtain ⟨d', hedits⟩ := exists_editAll (holds_of_vacant hvacant).stocked hshort
  obtain ⟨-, hlist, -, d'', hclear, hleft⟩ := lists_held hvacant hedits 1
  obtain ⟨held, ids, hnodup, hmem, hids, hsorted, hperm, -⟩ := hlist .save
  have hheld : held.Perm ["", "ann"] := by
    refine (List.perm_ext_iff_of_nodup hnodup (by decide)).mpr fun id => ?_
    rw [hmem, filed_deskEdits, List.mem_pair]
  have hsame : ids = [".json", "ann"] := by
    refine List.Perm.eq_of_pairwise (fun a b _ _ => String.le_antisymm) hsorted (by decide) ?_
    exact hperm.trans (hheld.map _)
  refine ⟨d', hedits, hsame ▸ hids, d'', hclear, ?_, ?_⟩
  · rw [hleft.files]
    rfl
  · rw [hleft.files]
    rfl

end Folder

end Storyline.Storage
