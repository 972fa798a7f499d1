import Storyline.Proofs.Storage.Act
import Storyline.Proofs.Storage.Disk
import Storyline.Storage.Folder

/-!
# Records in a folder

What reading and writing of a record does to a disk.

* `Backend.Keeps`: a text that was written is read back;
* `Folder.write_eq_ok`, `Folder.settled_of_write`: the steps of a write that succeeded, and what
  they come to;
* `Folder.keeps`: a folder keeps what is written, on any disk.
-/

namespace Storyline.Storage

/-- A text that was written without a failure is read back without one. -/
def Backend.Keeps {σ : Type} (b : Backend σ) : Prop :=
  ∀ (kind : Kind) (id text : String) (s t : σ), b.write kind id text s = (.ok (), t) →
    (b.read kind id t).1 = .ok (some text)

/-- The save that was written is read from its text. -/
theorem Backend.Keeps.getSave {σ : Type} {store : Store σ} (hstore : store.backend.Keeps)
    {save : Save} {before after : σ} (hwritten : store.saveSave save before = (.ok (), after)) :
    (store.getSave save.id after).1 = (readSave save.toText).map some := by
  have hread := hstore .save save.id save.toText before after hwritten
  rw [Store.getSave_apply]
  cases h : store.backend.read .save save.id after with
  | mk r t =>
    rw [h] at hread
    have hr : r = .ok (some save.toText) := hread
    rw [hr]

namespace Folder

open Disk

variable {f : Folder} {kind : Kind} {id text : String} {d : Disk}

theorem names_path (f : Folder) (kind : Kind) (id : String) :
    (f.path kind id).names = (f.dir kind).names ++ [fileName id] := rfl

theorem step_apply (fault : Fault) (act : Disk → Except Disk.Fault Disk) (d : Disk) :
    step fault act d = match act d with
      | .ok d' => (.ok (), d')
      | .error _ => (.error (.fault fault), d) := by
  have hget : (get : Act Disk Disk) d = (.ok d, d) := rfl
  unfold step
  rw [bind_of_ok hget]
  cases act d <;> rfl

theorem step_eq_ok {fault : Fault} {act : Disk → Except Disk.Fault Disk} {d' : Disk}
    (h : step fault act d = (.ok (), d')) : act d = .ok d' := by
  rw [step_apply] at h
  split at h
  · rename_i hact
    cases h
    exact hact
  · cases h

theorem step_of_ok {fault : Fault} {act : Disk → Except Disk.Fault Disk} {d' : Disk}
    (h : act d = .ok d') : step fault act d = (.ok (), d') := by
  rw [step_apply, h]

/-- A computation that ended well went through both of its parts. -/
theorem bind_eq_ok {σ α β : Type} {m : Act σ α} {g : α → Act σ β} {s u : σ} {b : β}
    (h : (m >>= g) s = (.ok b, u)) : ∃ a t, m s = (.ok a, t) ∧ g a t = (.ok b, u) := by
  rw [bind_apply] at h
  cases hm : m s with
  | mk r t =>
    rw [hm] at h
    cases r with
    | error e => cases h
    | ok a => exact ⟨a, t, rfl, h⟩

/-- The file in which a record is written before it is moved to its place. -/
def draft (f : Folder) (kind : Kind) (id : String) : Path :=
  (f.dir kind).names ++ [draftName (fileName id)]

/-- The steps of a write that succeeded. -/
theorem write_eq_ok {d' : Disk} (h : f.write kind id text d = (.ok (), d')) :
    ∃ d₁ d₂, d.makeDirs (f.dir kind).names = .ok d₁ ∧
      d₁.writeText (f.draft kind id) text = .ok d₂ ∧
      d₂.rename (f.draft kind id) (f.path kind id).names = .ok d' := by
  obtain ⟨_, d₁, hdirs, h⟩ := bind_eq_ok h
  obtain ⟨_, d₂, htext, h⟩ := bind_eq_ok h
  exact ⟨d₁, d₂, step_eq_ok hdirs, step_eq_ok htext, step_eq_ok h⟩

/-- A directory is none of the files in it. -/
theorem ne_concat_of_prefix {p q : Path} (h : q <+: p) (name : String) : q ≠ p ++ [name] := by
  intro heq
  have hle := h.length_le
  rw [heq, List.length_append, List.length_singleton] at hle
  omega

theorem concat_ne_nil (p : Path) (name : String) : p ++ [name] ≠ [] := by simp

theorem path_ne_nil (f : Folder) (kind : Kind) (id : String) : (f.path kind id).names ≠ [] :=
  concat_ne_nil _ _

/-- The text of a record, by the entry that is found at its path. -/
theorem read_of_directories {record : Option String}
    (hdirs : ∀ q, q <+: (f.dir kind).names → d.get? q = some .directory)
    (hshort : tooLong (f.path kind id).names = false)
    (hrecord : d.get? (f.path kind id).names = record.map .text) :
    f.read kind id d = (.ok record, d) := by
  have hget : (get : Act Disk Disk) d = (.ok d, d) := rfl
  have hlookup := lookup_of_directories (d := d) (p := (f.path kind id).names)
    fun q hq => hdirs q (mem_above_concat.mp hq)
  rw [hshort, if_neg Bool.false_ne_true, hrecord] at hlookup
  unfold read
  rw [bind_of_ok hget, hlookup]
  cases record <;> rfl

/-- The disk after a draft has taken the place of a record. -/
def settled (f : Folder) (kind : Kind) (id text : String) (d : Disk) : Disk :=
  ((d.put (f.draft kind id) (.text text)).erase (f.draft kind id)).put (f.path kind id).names
    (.text text)

/-- Neither a record nor its draft is in the way of the directories above them. -/
theorem get?_settled_dir {q : Path} (hq : q <+: (f.dir kind).names) (id text : String) (d : Disk) :
    (f.settled kind id text d).get? q = d.get? q := by
  have hdraft : f.draft kind id ≠ [] := concat_ne_nil _ _
  have hrecord : q ≠ (f.path kind id).names := ne_concat_of_prefix hq _
  have hne : q ≠ f.draft kind id := ne_concat_of_prefix hq _
  unfold settled
  rw [get?_put _ (path_ne_nil f kind id), if_neg hrecord, get?_erase _ hdraft, if_neg hne,
    get?_put d hdraft, if_neg hne]

/-- The disk after a write that succeeded: the directories were made, and then the draft took the
place of the record, whose name is not too long. -/
theorem settled_of_write {d' : Disk} (h : f.write kind id text d = (.ok (), d')) :
    ∃ d₁, d.makeDirs (f.dir kind).names = .ok d₁ ∧ d' = f.settled kind id text d₁ ∧
      tooLong (f.path kind id).names = false := by
  obtain ⟨d₁, d₂, hmake, htext, hrename⟩ := write_eq_ok h
  obtain ⟨hmade, -, -⟩ := makeDirs_eq_ok hmake
  have hdraft : f.draft kind id ≠ [] := concat_ne_nil _ _
  obtain rfl : d₂ = d₁.put (f.draft kind id) (.text text) := writeEntry_eq_ok htext
  obtain ⟨e, he, hwrite⟩ := rename_eq_ok hrename
  rw [get?_put d₁ hdraft, if_pos rfl] at he
  obtain rfl := Option.some_inj.mp he
  have hdirs : ∀ q, q <+: (f.dir kind).names →
      ((d₁.put (f.draft kind id) (.text text)).erase (f.draft kind id)).get? q =
        some .directory := by
    intro q hq
    have hne : q ≠ f.draft kind id := ne_concat_of_prefix hq _
    rw [get?_erase _ hdraft, if_neg hne, get?_put d₁ hdraft, if_neg hne]
    exact hmade q hq
  exact ⟨d₁, hmake, writeEntry_eq_ok hwrite, tooLong_of_writeEntry hdirs hwrite⟩

/-- A record that was written is read back, on any disk. -/
theorem keeps (f : Folder) : f.backend.Keeps := by
  intro kind id text d d' h
  obtain ⟨d₁, hmake, rfl, hshort⟩ := settled_of_write h
  obtain ⟨hmade, -, -⟩ := makeDirs_eq_ok hmake
  have hdirs : ∀ q, q <+: (f.dir kind).names →
      (f.settled kind id text d₁).get? q = some .directory := fun q hq =>
    (get?_settled_dir hq id text d₁).trans (hmade q hq)
  have hrecord : (f.settled kind id text d₁).get? (f.path kind id).names =
      (some text).map .text := (get?_put _ (path_ne_nil f kind id) _ _).trans (if_pos rfl)
  show (f.read kind id _).1 = _
  rw [read_of_directories hdirs hshort hrecord]

end Folder

end Storyline.Storage
