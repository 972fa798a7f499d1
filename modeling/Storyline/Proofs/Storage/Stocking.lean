import Mathlib.Data.List.Nodup
import Mathlib.Data.Set.List
import Storyline.Proofs.Storage.Folder
import Storyline.Proofs.Storage.Naming
import Storyline.Proofs.Storage.Serving

/-!
# What lies in a folder

A folder that was empty, and was used by nothing else, has one file for each text that was
written to it and not removed since.  That is so for any ids; what a listing makes of the files
is another matter.

* `Folder.Placed`, `Folder.Stocked`: the disk has the texts of a shelf, and nothing else where they
  lie;
* `Folder.stocked_of_write`, `Folder.remove_cases`: what a write that succeeded and what removing
  does to the files;
* `Folder.ids_of_stocked`: the ids that a listing gives are read from the names of the files.
-/

namespace Storyline.Storage.Folder

open Disk

/-- Where the directories of the folder are to be, there is nothing else, and their names
are not too long. -/
structure Placed (f : Folder) (d : Disk) : Prop where
  proper : d.Proper
  short : ∀ kind, tooLong (f.dir kind).names = false
  room : ∀ kind q, q <+: (f.dir kind).names → d.get? q = some .directory ∨ d.get? q = none

/-- The disk has the texts of the shelf in the folder, each in the file of its id, and no
other files beside them. -/
structure Stocked (f : Folder) (m : Shelf) (d : Disk) : Prop extends f.Placed d where
  files : ∀ kind id, d.get? (f.path kind id).names = (m kind id).map .text
  own : ∀ kind name, d.get? ((f.dir kind).names ++ [name]) ≠ none → ∃ id, name = fileName id
  made : ∀ kind id, m kind id ≠ none → ∀ q, q <+: (f.dir kind).names → d.get? q = some .directory
  fits : ∀ kind id, m kind id ≠ none → (fileName id).utf8ByteSize ≤ maxName

variable {f : Folder} {m : Shelf} {d d' : Disk} {kind : Kind} {id text : String}

/-! ## Paths -/

/-- The path of a record is longer than that of any directory of the folder. -/
theorem ne_concat_of_dir {q : Path} (h : q <+: (f.dir kind).names) (k : Kind) (name : String) :
    q ≠ (f.dir k).names ++ [name] := by
  intro heq
  have hle := h.length_le
  rw [heq, names_dir, names_dir, List.length_append, List.length_append, List.length_append] at hle
  simp only [List.length_singleton] at hle
  omega

theorem ne_path {q : Path} {k : Kind} (h : q <+: (f.dir k).names) (kind : Kind) (id : String) :
    q ≠ (f.path kind id).names := ne_concat_of_dir h kind _

theorem ne_draft {q : Path} {k : Kind} (h : q <+: (f.dir k).names) (kind : Kind) (id : String) :
    q ≠ f.draft kind id := ne_concat_of_dir h kind _

/-- No file of the folder is one of its directories. -/
theorem not_concat_dir (f : Folder) (j k : Kind) (name : String) :
    ¬ (f.dir j).names ++ [name] <+: (f.dir k).names := fun h =>
  ne_concat_of_dir h j name rfl

theorem tooLong_concat (p : Path) (name : String) :
    tooLong (p ++ [name]) = (tooLong p || decide (maxName < name.utf8ByteSize)) := by
  rw [tooLong_append]
  simp [tooLong]

theorem tooLong_iff (h : f.Placed d) (kind : Kind) (name : String) :
    tooLong ((f.dir kind).names ++ [name]) = false ↔ name.utf8ByteSize ≤ maxName := by
  rw [tooLong_concat, h.short kind, Bool.false_or, decide_eq_false_iff_not, Nat.not_lt]

theorem tooLong_path (h : f.Placed d) (kind : Kind) (hid : (fileName id).utf8ByteSize ≤ maxName) :
    tooLong (f.path kind id).names = false := (tooLong_iff h kind _).mpr hid

theorem draft_ne_path (f : Folder) (j k : Kind) (id other : String) :
    f.draft j id ≠ (f.path k other).names := fun h =>
  draftName_ne_fileName _ other (dir_append_inj h).2

/-! ## Looking things up -/

/-- The directories of a kind are all there, or one of them is missing. -/
theorem directories_or_missing (h : f.Placed d) (kind : Kind) :
    (∀ q, q <+: (f.dir kind).names → d.get? q = some .directory) ∨
      ∃ q, q <+: (f.dir kind).names ∧ d.get? q = none := by
  by_cases hany : ∃ q, q <+: (f.dir kind).names ∧ d.get? q = none
  · exact Or.inr hany
  · exact Or.inl fun q hq => (h.room kind q hq).resolve_right fun hnone => hany ⟨q, hq, hnone⟩

/-- Where a directory is missing there are no records. -/
theorem lookup_of_missing_directory (h : f.Placed d) {q : Path} (hq : q <+: (f.dir kind).names)
    (hnone : d.get? q = none) (name : String) :
    d.lookup ((f.dir kind).names ++ [name]) = .error .notFound :=
  lookup_of_missing (fun r hr => h.room kind r (mem_above_concat.mp hr))
    ⟨q, mem_above_concat.mpr hq, hnone⟩

theorem none_of_missing (h : f.Stocked m d) {q : Path} (hq : q <+: (f.dir kind).names)
    (hnone : d.get? q = none) (id : String) : m kind id = none := by
  refine Decidable.byContradiction fun hsome => ?_
  have hdir := h.made kind id hsome q hq
  rw [hnone] at hdir
  cases hdir

theorem files_ne_directory (h : f.Stocked m d) (kind : Kind) (id : String) :
    d.get? (f.path kind id).names ≠ some .directory := by
  rw [h.files kind id]
  cases m kind id <;> nofun

/-- Nothing is in the way of a draft. -/
theorem get?_draft (h : f.Stocked m d) (kind : Kind) (id : String) :
    d.get? (f.draft kind id) = none := by
  refine Decidable.byContradiction fun hsome => ?_
  obtain ⟨other, hname⟩ := h.own kind _ hsome
  exact draftName_ne_fileName _ other hname

/-! ## Writing -/

theorem proper_settled (h : d.Proper) (f : Folder) (kind : Kind) (id text : String) :
    (f.settled kind id text d).Proper :=
  proper_put (proper_erase (proper_put h _ _) _) _ _

theorem get?_settled (h : d.get? (f.draft kind id) = none) (text : String) (q : Path) :
    (f.settled kind id text d).get? q =
      if q = (f.path kind id).names then some (.text text) else d.get? q := by
  have hdraft : f.draft kind id ≠ [] := concat_ne_nil _ _
  unfold settled
  rw [get?_put _ (path_ne_nil f kind id), get?_erase _ hdraft, get?_put d hdraft]
  by_cases hq : q = f.draft kind id
  · rw [if_pos hq, hq, h]
  · rw [if_neg hq, if_neg hq]

/-- After a write that succeeded the disk has the text besides the others. -/
theorem stocked_of_write (h : f.Stocked m d) (hwrite : f.write kind id text d = (.ok (), d')) :
    f.Stocked (m.set kind id (some text)) d' := by
  obtain ⟨d₁, hmake, rfl, hshort⟩ := settled_of_write hwrite
  obtain ⟨hmade, hothers, hproper⟩ := makeDirs_eq_ok hmake
  have hfree : d₁.get? (f.draft kind id) = none :=
    (hothers _ (not_concat_dir f kind kind _)).trans (get?_draft h kind id)
  -- the directories are there, files other than the record stay, and so does everything else
  have hdirs : ∀ q, q <+: (f.dir kind).names →
      (f.settled kind id text d₁).get? q = some .directory := by
    intro q hq
    rw [get?_settled_dir hq, hmade q hq]
  have hrest : ∀ q, ¬ q <+: (f.dir kind).names → (f.settled kind id text d₁).get? q =
      if q = (f.path kind id).names then some (.text text) else d.get? q := by
    intro q hq
    rw [get?_settled hfree, hothers q hq]
  have hfile : ∀ k name, (f.settled kind id text d₁).get? ((f.dir k).names ++ [name]) =
      if (f.dir k).names ++ [name] = (f.path kind id).names then some (.text text)
      else d.get? ((f.dir k).names ++ [name]) := fun k name =>
    hrest _ (not_concat_dir f k kind name)
  have hroom : ∀ k q, q <+: (f.dir k).names → d.get? q = some .directory →
      (f.settled kind id text d₁).get? q = some .directory := by
    intro k q hq hdir
    by_cases hbelow : q <+: (f.dir kind).names
    · exact hdirs q hbelow
    · rw [hrest q hbelow, if_neg (ne_path hq kind id), hdir]
  refine ⟨⟨proper_settled (hproper h.proper) f kind id text, h.short, fun k q hq => ?_⟩,
    fun k i => ?_, fun k name hname => ?_,
    Shelf.forall_set (fun k i hi q hq => hroom k q hq (h.made k i hi q hq)) hdirs _,
    Shelf.forall_set h.fits ((tooLong_iff h.toPlaced kind _).mp hshort) _⟩
  · by_cases hbelow : q <+: (f.dir kind).names
    · exact Or.inl (hdirs q hbelow)
    · rw [hrest q hbelow, if_neg (ne_path hq kind id)]
      exact h.room k q hq
  · rw [names_path, hfile, ← names_path, h.files k i, Shelf.set_eq_ite _ _ path_inj_iff,
      apply_ite (Option.map Entry.text)]
    rfl
  · rw [hfile] at hname
    split at hname
    · rename_i heq
      exact ⟨id, (dir_append_inj heq).2⟩
    · exact h.own k name hname

/-- A text can be written if the names of the record and of its draft are not too long. -/
theorem exists_write (h : f.Stocked m d) (kind : Kind)
    (hid : (fileName id).utf8ByteSize ≤ maxName)
    (hdraft : (draftName (fileName id)).utf8ByteSize ≤ maxName) (text : String) :
    ∃ d', f.write kind id text d = (.ok (), d') := by
  obtain ⟨d₁, hmake⟩ := exists_makeDirs (h.room kind) (h.short kind)
  obtain ⟨hmade, hothers, -⟩ := makeDirs_eq_ok hmake
  have hnames : tooLong (f.draft kind id) = false := (tooLong_iff h.toPlaced kind _).mpr hdraft
  have hne : f.draft kind id ≠ [] := concat_ne_nil _ _
  have hfree : d₁.get? (f.draft kind id) = none :=
    (hothers _ (not_concat_dir f kind kind _)).trans (get?_draft h kind id)
  have hrecord : d₁.get? (f.path kind id).names ≠ some .directory := by
    have hsame : d₁.get? (f.path kind id).names = d.get? (f.path kind id).names :=
      hothers _ (not_concat_dir f kind kind _)
    rw [hsame]
    exact files_ne_directory h kind id
  -- the draft is put beside the record
  have htext : d₁.writeText (f.draft kind id) text =
      .ok (d₁.put (f.draft kind id) (.text text)) := by
    refine writeEntry_of_directories hmade hnames ?_
    rw [← draft, hfree]
    exact nofun
  -- and takes its place
  have hrename : (d₁.put (f.draft kind id) (.text text)).rename (f.draft kind id)
      (f.path kind id).names = .ok (f.settled kind id text d₁) := by
    refine rename_of_directories (fun q hq => ?_) hnames (tooLong_path h.toPlaced kind hid) ?_ ?_
    · rw [get?_put d₁ hne, if_neg (ne_draft hq kind id), hmade q hq]
    · exact (get?_put d₁ hne _ _).trans (if_pos rfl)
    · rw [← names_path, get?_put d₁ hne, if_neg (draft_ne_path f kind kind id id).symm]
      exact hrecord
  refine ⟨f.settled kind id text d₁, ?_⟩
  unfold write
  exact (bind_of_ok (step_of_ok hmake) _).trans
    ((bind_of_ok (step_of_ok htext) _).trans (step_of_ok hrename))

/-! ## Removing -/

/-- The disk without a file has the texts besides that one. -/
theorem stocked_of_erase (h : f.Stocked m d) (kind : Kind) (id : String) :
    f.Stocked (m.set kind id none) (d.erase (f.path kind id).names) := by
  have herase := get?_erase d (path_ne_nil f kind id)
  refine ⟨⟨proper_erase h.proper _, h.short, fun k q hq => ?_⟩, fun k i => ?_,
    fun k name hname => ?_, fun k i hi q hq => ?_,
    fun k i hi => h.fits k i (Shelf.ne_none_of_set hi)⟩
  · rw [herase, if_neg (ne_path hq kind id)]
    exact h.room k q hq
  · rw [herase, Shelf.set_eq_ite _ _ path_inj_iff, h.files k i,
      apply_ite (Option.map Entry.text)]
    rfl
  · rw [herase] at hname
    split at hname
    · exact absurd rfl hname
    · exact h.own k name hname
  · rw [herase, if_neg (ne_path hq kind id)]
    exact h.made k i (Shelf.ne_none_of_set hi) q hq

theorem stocked_of_none (h : f.Stocked m d) (hnone : m kind id = none) :
    f.Stocked (m.set kind id none) d := by
  have hsame : m.set kind id none = m := by
    funext k i
    rw [Shelf.set]
    split
    · rename_i heq
      rw [heq.1, heq.2, hnone]
    · rfl
  rw [hsame]
  exact h

/-- Removing takes a record away, or fails at a name that is too long. -/
theorem remove_cases (h : f.Stocked m d) (kind : Kind) (id : String) :
    (∃ d', f.remove kind id d = (.ok (), d') ∧ f.Stocked (m.set kind id none) d') ∨
      (maxName < (fileName id).utf8ByteSize ∧ ∃ e, f.remove kind id d = (.error e, d)) := by
  have hget : (get : Act Disk Disk) d = (.ok d, d) := rfl
  rcases directories_or_missing h.toPlaced kind with hdirs | ⟨q, hq, hnone⟩
  · cases hlong : tooLong (f.path kind id).names with
    | true =>
      have hlookup := lookup_of_directories (d := d) (p := (f.path kind id).names)
        fun q hq => hdirs q (mem_above_concat.mp hq)
      rw [hlong, if_pos rfl] at hlookup
      have hunlink : d.unlink (f.path kind id).names = .error .nameTooLong := by
        unfold unlink
        rw [hlookup]
      refine Or.inr ⟨Nat.not_le.mp fun hshort => ?_,
        .fault (.cannotDelete (f.path kind id).written), ?_⟩
      · rw [tooLong_path h.toPlaced kind hshort] at hlong
        cases hlong
      · unfold remove
        rw [bind_of_ok hget, hunlink]
        rfl
    | false =>
      have hunlink := unlink_of_directories hdirs hlong (files_ne_directory h kind id)
      rw [← names_path, h.files kind id] at hunlink
      cases hrecord : m kind id with
      | none =>
        rw [hrecord, Option.map_none, if_pos rfl] at hunlink
        refine Or.inl ⟨d, ?_, stocked_of_none h hrecord⟩
        unfold remove
        rw [bind_of_ok hget, hunlink]
        rfl
      | some text =>
        rw [hrecord, Option.map_some, if_neg (Option.some_ne_none _)] at hunlink
        refine Or.inl ⟨_, ?_, stocked_of_erase h kind id⟩
        unfold remove
        rw [bind_of_ok hget, hunlink]
        rfl
  · have hlookup : d.lookup (f.path kind id).names = .error .notFound :=
      lookup_of_missing_directory h.toPlaced hq hnone _
    have hunlink : d.unlink (f.path kind id).names = .error .notFound := by
      unfold unlink
      rw [hlookup]
    refine Or.inl ⟨d, ?_, stocked_of_none h (none_of_missing h hq hnone id)⟩
    unfold remove
    rw [bind_of_ok hget, hunlink]
    rfl

/-- After removing that succeeded the disk has the texts besides that one. -/
theorem stocked_of_remove (h : f.Stocked m d) (hremove : f.remove kind id d = (.ok (), d')) :
    f.Stocked (m.set kind id none) d' := by
  rcases remove_cases h kind id with ⟨t, ht, hstocked⟩ | ⟨-, e, he⟩
  · rw [hremove] at ht
    cases ht
    exact hstocked
  · rw [hremove] at he
    cases he

/-! ## Listing -/

theorem ids_of_directories (h : f.Placed d)
    (hdirs : ∀ q, q <+: (f.dir kind).names → d.get? q = some .directory) :
    f.ids kind d = (.ok ((((d.names (f.dir kind).names).filter fun n =>
      ".json".toList.isSuffixOf n.toList).map idOfFile).mergeSort idOrder), d) := by
  have hget : (get : Act Disk Disk) d = (.ok d, d) := rfl
  have hlookup := lookup_of_directories (d := d) (p := (f.dir kind).names)
    fun q hq => hdirs q (mem_above.mp hq).1
  rw [h.short kind, if_neg Bool.false_ne_true, hdirs _ (List.prefix_refl _)] at hlookup
  unfold ids
  rw [bind_of_ok hget, hlookup]
  rfl

theorem ids_of_missing {q : Path} (hq : q <+: (f.dir kind).names) (hnone : d.get? q = none) :
    f.ids kind d = (.ok [], d) := by
  have hget : (get : Act Disk Disk) d = (.ok d, d) := rfl
  unfold ids
  rw [bind_of_ok hget]
  cases hlookup : d.lookup (f.dir kind).names with
  | error e => rfl
  | ok e =>
    obtain ⟨habove, -, hdir⟩ := lookup_eq_ok hlookup
    by_cases heq : q = (f.dir kind).names
    · rw [← heq, hnone] at hdir
      cases hdir
    · have hthere := habove q (mem_above.mpr ⟨hq, heq⟩)
      rw [hnone] at hthere
      cases hthere

/-- The names in the directory of a kind are those of the files of the ids that are held. -/
theorem exists_held (h : f.Stocked m d) (kind : Kind) :
    ∃ held : List String, held.Nodup ∧ (∀ id, id ∈ held ↔ m kind id ≠ none) ∧
      d.names (f.dir kind).names = held.map fileName := by
  have hnames : d.names (f.dir kind).names ∈ Set.range (List.map fileName) := by
    rw [Set.range_list_map]
    intro name hname
    obtain ⟨id, hid⟩ := h.own kind name ((mem_names_iff _ name).mp hname)
    exact ⟨id, hid.symm⟩
  obtain ⟨held, hheld⟩ := hnames
  refine ⟨held, ?_, fun id => ?_, hheld.symm⟩
  · refine List.Nodup.of_map fileName ?_
    rw [hheld]
    exact nodup_names h.proper _
  · have hfile : d.get? ((f.dir kind).names ++ [fileName id]) ≠ none ↔ m kind id ≠ none := by
      rw [← names_path, h.files kind id, ne_eq, Option.map_eq_none_iff]
    rw [← hfile, ← mem_names_iff, ← hheld,
      List.mem_map_of_injective fun _ _ hab => fileName_injective hab]

/-- A listing gives what is read from the names of the files that are held, in order. -/
theorem ids_of_stocked (h : f.Stocked m d) (kind : Kind) :
    ∃ held : List String, held.Nodup ∧ (∀ id, id ∈ held ↔ m kind id ≠ none) ∧
      f.ids kind d = (.ok ((held.map listedAs).mergeSort idOrder), d) := by
  rcases directories_or_missing h.toPlaced kind with hdirs | ⟨q, hq, hnone⟩
  · obtain ⟨held, hnodup, hmem, hnames⟩ := exists_held h kind
    refine ⟨held, hnodup, hmem, ?_⟩
    have hall : (held.map fileName).filter (fun n => ".json".toList.isSuffixOf n.toList) =
        held.map fileName := by
      refine List.filter_eq_self.mpr fun name hname => ?_
      obtain ⟨id, -, rfl⟩ := List.mem_map.mp hname
      exact isSuffixOf_fileName id
    have hread : (held.map fileName).map idOfFile = held.map listedAs := by
      rw [List.map_map]
      exact List.map_congr_left fun id _ => idOfFile_eq_listedAs id
    rw [ids_of_directories h.toPlaced hdirs, hnames, hall, hread]
  · refine ⟨[], List.nodup_nil, fun id => ?_, ?_⟩
    · simp [none_of_missing h hq hnone]
    · rw [ids_of_missing hq hnone, List.map_nil, List.mergeSort_nil]

/-- What a listing gives is in order exactly if no record has the empty id. -/
theorem ascends_listedAs_iff {held : List String} {m : String → Option String}
    (hnodup : held.Nodup) (hmem : ∀ id, id ∈ held ↔ m id ≠ none) :
    Ascends m ((held.map listedAs).mergeSort idOrder) ↔ m "" = none := by
  constructor
  · intro h
    refine Decidable.byContradiction fun hempty => ?_
    have hlisted := (h.mem "").mpr hempty
    rw [List.mem_mergeSort, List.mem_map] at hlisted
    obtain ⟨id, -, hid⟩ := hlisted
    exact listedAs_ne_empty id hid
  · intro hempty
    have hsame : held.map listedAs = held := by
      refine (List.map_congr_left fun id hid => listedAs_of_ne ?_).trans (List.map_id held)
      rintro rfl
      exact (hmem "").mp hid hempty
    rw [hsame]
    exact ⟨sorted_mergeSort hnodup, fun id => by rw [List.mem_mergeSort, hmem]⟩

end Storyline.Storage.Folder
