import Storyline.Proofs.Storage.Stocking

/-!
# A folder serves

A folder that was empty, and was used by nothing else, holds what was written to it: one
file for each text, under the name of its id.

* `Folder.Keepable`: an id whose file a directory can hold;
* `Folder.Holds`: the disk has the texts of a shelf, and nothing else where they lie;
* `Folder.Vacant`: nothing is there yet;
* `Folder.serves`: reading, writing, removing and listing do what they should.
-/

namespace Storyline.Storage.Folder

open Disk

/-- An id whose file has a name that a directory can hold. -/
def Keepable (id : String) : Prop := id ≠ "" ∧ (fileName id).utf8ByteSize ≤ maxName

/-- The disk has the texts of the shelf in the folder, each in the file of its id, and no
other files beside them. -/
structure Holds (f : Folder) (m : Shelf) (d : Disk) : Prop extends f.Placed d where
  files : ∀ kind id, d.get? (f.path kind id).names = (m kind id).map .text
  own : ∀ kind name, d.get? ((f.dir kind).names ++ [name]) ≠ none →
    ∃ id, id ≠ "" ∧ name = fileName id
  made : ∀ kind id, m kind id ≠ none → ∀ q, q <+: (f.dir kind).names → d.get? q = some .directory
  keepable : ∀ kind id, m kind id ≠ none → Keepable id

variable {f : Folder} {m : Shelf} {d : Disk} {kind : Kind} {id : String}

/-! ## Ids that are not empty -/

theorem Holds.stocked (h : f.Holds m d) : f.Stocked m d where
  toPlaced := h.toPlaced
  files := h.files
  own kind name hname := by
    obtain ⟨id, -, hid⟩ := h.own kind name hname
    exact ⟨id, hid⟩
  made := h.made
  fits kind id hid := (h.keepable kind id hid).2

theorem Holds.empty_none (h : f.Holds m d) (kind : Kind) : m kind "" = none :=
  Decidable.byContradiction fun hsome => (h.keepable kind "" hsome).1 rfl

/-- A folder that has no record of the empty id holds its texts. -/
theorem Stocked.holds (h : f.Stocked m d) (hempty : ∀ kind, m kind "" = none) : f.Holds m d where
  toPlaced := h.toPlaced
  files := h.files
  own kind name hname := by
    obtain ⟨id, rfl⟩ := h.own kind name hname
    refine ⟨id, ?_, rfl⟩
    rintro rfl
    rw [← names_path, h.files kind, hempty kind] at hname
    exact hname rfl
  made := h.made
  keepable kind id hid := by
    refine ⟨?_, h.fits kind id hid⟩
    rintro rfl
    exact hid (hempty kind)

/-- A change of a record leaves the empty id out, if it is about another one. -/
theorem Holds.set_empty (h : f.Holds m d) (hid : id ≠ "") (kind : Kind) (record : Option String)
    (k : Kind) : m.set kind id record k "" = none := by
  rw [Shelf.set, if_neg fun heq => hid heq.2.symm]
  exact h.empty_none k

/-! ## Reading and listing -/

theorem read_of_holds (h : f.Holds m d) (hid : Keepable id) :
    f.read kind id d = (.ok (m kind id), d) := by
  rcases directories_or_missing h.toPlaced kind with hdirs | ⟨q, hq, hnone⟩
  · exact read_of_directories hdirs (tooLong_path h.toPlaced kind hid.2) (h.files kind id)
  · have hget : (get : Act Disk Disk) d = (.ok d, d) := rfl
    have hlookup : d.lookup (f.path kind id).names = .error .notFound :=
      lookup_of_missing_directory h.toPlaced hq hnone _
    unfold read
    rw [bind_of_ok hget, hlookup, none_of_missing h.stocked hq hnone]
    rfl

theorem ids_of_holds (h : f.Holds m d) (kind : Kind) :
    ∃ ids, f.ids kind d = (.ok ids, d) ∧ Ascends (m kind) ids := by
  obtain ⟨held, hnodup, hmem, hids⟩ := ids_of_stocked h.stocked kind
  exact ⟨_, hids, (ascends_listedAs_iff hnodup hmem).mpr (h.empty_none kind)⟩

/-! ## Writing and removing -/

/-- After a write the disk has the text besides the others. -/
theorem write_of_holds (h : f.Holds m d) (hid : Keepable id) (text : String) :
    ∃ d', f.write kind id text d = (.ok (), d') ∧ f.Holds (m.set kind id (some text)) d' := by
  have hdraft := Nat.le_trans (Nat.le_of_lt (utf8ByteSize_draftName hid.1)) hid.2
  obtain ⟨d', hwrite⟩ := exists_write h.stocked kind hid.2 hdraft text
  exact ⟨d', hwrite, (stocked_of_write h.stocked hwrite).holds (h.set_empty hid.1 kind _)⟩

/-- What removing does to the disk: the record is gone. -/
theorem remove_of_holds (h : f.Holds m d) (hid : Keepable id) (kind : Kind) :
    ∃ d', f.remove kind id d = (.ok (), d') ∧ f.Holds (m.set kind id none) d' := by
  rcases remove_cases h.stocked kind id with ⟨d', hremove, hstocked⟩ | ⟨hlong, -⟩
  · exact ⟨d', hremove, hstocked.holds (h.set_empty hid.1 kind _)⟩
  · exact absurd hid.2 (Nat.not_le_of_lt hlong)

/-! ## The folder as a storage -/

/-- A folder serves as long as the names of its files are not too long. -/
theorem serves (f : Folder) : f.backend.Serves (fun _ id => Keepable id) f.Holds where
  read h hid := read_of_holds h hid
  write text h hid := write_of_holds h hid text
  remove h hid := remove_of_holds h hid _
  ids kind h := ids_of_holds h kind
  fits h hrecord := h.keepable _ _ hrecord

/-- Below the folder there is nothing, and it can be made where it is to be. -/
structure Vacant (f : Folder) (d : Disk) : Prop where
  proper : d.Proper
  short : tooLong f.root.names = false
  room : ∀ q, q <+: f.root.names → d.get? q = some .directory ∨ d.get? q = none
  vacant : ∀ name rest, d.get? (f.root.names ++ name :: rest) = none

theorem vacant_empty (h : tooLong f.root.names = false) : f.Vacant Disk.empty := by
  refine ⟨List.nodup_nil, h, fun q _ => ?_, fun name rest => ?_⟩
  · cases q with
    | nil => exact Or.inl rfl
    | cons name q => exact Or.inr rfl
  · rw [get?_of_ne_nil Disk.empty (by simp)]
    rfl

theorem holds_of_vacant (h : f.Vacant d) : f.Holds (fun _ _ => none) d := by
  refine ⟨⟨h.proper, fun kind => ?_, fun kind q hq => ?_⟩, fun kind id => ?_,
    fun kind name hname => ?_, nofun, nofun⟩
  · rw [names_dir, tooLong_concat, h.short]
    cases kind <;> decide
  · rw [names_dir, List.prefix_concat_iff] at hq
    rcases hq with rfl | hq
    · exact Or.inr (h.vacant _ _)
    · exact h.room q hq
  · rw [names_path, names_dir, List.append_assoc]
    exact h.vacant _ _
  · rw [names_dir, List.append_assoc] at hname
    exact absurd (h.vacant _ _) hname

end Storyline.Storage.Folder
