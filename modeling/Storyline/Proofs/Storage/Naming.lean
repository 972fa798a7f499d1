import Storyline.Proofs.Text.Percent
import Storyline.Storage.Folder

/-!
# Names of files

Every id has a file name of its own, from which the id is read back; a draft never has the
name of a record.

* `Folder.idOfFile_fileName`: the id of a file name; `Folder.listedAs`: what is read from it if
  the id is empty;
* `Folder.fileName_injective`: two ids never share a file;
* `Folder.draftName_ne_fileName`: a draft is no record;
* `Folder.path_inj`: neither do two kinds of record share a file.
-/

namespace Storyline.Storage.Folder

/-! ## Suffixes -/

/-- The suffix of records. -/
def recordSuffix : List Char := ['.', 'j', 's', 'o', 'n']

theorem toList_fileName (id : String) : (fileName id).toList = (stem id).toList ++ recordSuffix :=
  String.toList_append

theorem toList_stem (id : String) :
    (stem id).toList = Text.Percent.encode (fun _ => false) id.toList := String.toList_ofList

theorem suffix_append {cs : List Char} (h : cs ≠ []) :
    suffix (cs ++ recordSuffix) = recordSuffix := by
  have hpoint : (cs ++ recordSuffix).reverse.takeWhile (· != '.') = ['n', 'o', 's', 'j'] := by
    rw [List.reverse_append]
    rfl
  have hpos : 0 < cs.length := List.length_pos_iff.mpr h
  have hlong : ¬ (cs ++ recordSuffix).length ≤ 5 := by
    rw [List.length_append]
    show ¬ cs.length + 5 ≤ 5
    omega
  unfold suffix
  rw [hpoint]
  show (if (false || decide ((cs ++ recordSuffix).length ≤ 5)) = true then [] else recordSuffix) =
    recordSuffix
  rw [decide_eq_false hlong]
  rfl

theorem withoutSuffix_append {cs : List Char} (h : cs ≠ []) :
    withoutSuffix (cs ++ recordSuffix) = cs := by
  unfold withoutSuffix
  rw [suffix_append h, List.length_append, Nat.add_sub_cancel, List.take_left]

/-! ## Ids and their files -/

theorem stem_injective {a b : String} (h : stem a = stem b) : a = b := by
  have hchars := congrArg String.toList h
  rw [toList_stem, toList_stem] at hchars
  exact String.toList_inj.mp (Text.Percent.encode_injective Text.Percent.plain_of_none hchars)

theorem stem_ne_nil {id : String} (h : id ≠ "") : (stem id).toList ≠ [] := by
  intro hnil
  refine h (stem_injective (String.toList_inj.mp ?_))
  rw [hnil]
  rfl

/-- Two ids never share a file name. -/
theorem fileName_injective {a b : String} (h : fileName a = fileName b) : a = b := by
  have hchars := congrArg String.toList h
  rw [toList_fileName, toList_fileName, List.append_cancel_right_eq] at hchars
  exact stem_injective (String.toList_inj.mp hchars)

/-- The id is read back from the name of its file. -/
theorem idOfFile_fileName {id : String} (h : id ≠ "") : idOfFile (fileName id) = id := by
  unfold idOfFile
  rw [toList_fileName, withoutSuffix_append (stem_ne_nil h), toList_stem,
    Text.Percent.decode_encode Text.Percent.plain_of_none, String.ofList_toList]

/-- The id under which a listing gives a record.  The file of the empty id has a suffix for a
name, which is taken for a name without one. -/
def listedAs (id : String) : String := if id = "" then ".json" else id

theorem listedAs_of_ne {id : String} (h : id ≠ "") : listedAs id = id := if_neg h

theorem listedAs_ne_empty (id : String) : listedAs id ≠ "" := by
  unfold listedAs
  split
  · decide
  · assumption

/-- What is read back from the name of a file. -/
theorem idOfFile_eq_listedAs (id : String) : idOfFile (fileName id) = listedAs id := by
  by_cases h : id = ""
  · have hwhole : withoutSuffix (fileName id).toList = recordSuffix := by
      rw [h]
      decide
    have hplain : Text.Percent.decode recordSuffix = recordSuffix :=
      Text.Percent.decode_plain (Text.Percent.plain_of_all (by decide))
    rw [idOfFile, hwhole, hplain, listedAs, if_pos h]
    rfl
  · rw [idOfFile_fileName h, listedAs_of_ne h]

/-- The file of an id ends as records do. -/
theorem isSuffixOf_fileName (id : String) :
    ".json".toList.isSuffixOf (fileName id).toList = true := by
  rw [toList_fileName, List.isSuffixOf_iff_suffix]
  exact List.suffix_append _ _

/-! ## Drafts -/

theorem draftName_fileName {id : String} (h : id ≠ "") :
    draftName (fileName id) = stem id ++ ".tmp" := by
  unfold draftName
  rw [toList_fileName, withoutSuffix_append (stem_ne_nil h), String.ofList_toList]

/-- A draft is no record. -/
theorem draftName_ne_fileName (name other : String) : draftName name ≠ fileName other := by
  intro heq
  have hlast : (draftName name).toList.getLast? = (fileName other).toList.getLast? :=
    congrArg (fun s : String => s.toList.getLast?) heq
  rw [toList_fileName, draftName, String.toList_append, List.getLast?_append,
    List.getLast?_append] at hlast
  have hchars : some 'p' = some 'n' := hlast
  cases hchars

/-- The name of a draft is the shorter one. -/
theorem utf8ByteSize_draftName {id : String} (h : id ≠ "") :
    (draftName (fileName id)).utf8ByteSize < (fileName id).utf8ByteSize := by
  rw [draftName_fileName h]
  show (stem id ++ ".tmp").utf8ByteSize < (stem id ++ ".json").utf8ByteSize
  rw [String.utf8ByteSize_append, String.utf8ByteSize_append]
  have htmp : ".tmp".utf8ByteSize = 4 := by decide
  have hjson : ".json".utf8ByteSize = 5 := by decide
  omega

/-! ## Folders -/

theorem names_dir (f : Folder) (kind : Kind) :
    (f.dir kind).names = f.root.names ++ [kindName kind] := rfl

theorem kindName_injective {j k : Kind} (h : kindName j = kindName k) : j = k := by
  revert h
  cases j <;> cases k <;> decide

/-- A name lies in one folder only. -/
theorem dir_append_inj {f : Folder} {j k : Kind} {a b : String}
    (h : (f.dir j).names ++ [a] = (f.dir k).names ++ [b]) : j = k ∧ a = b := by
  obtain ⟨hdir, hname⟩ := List.append_inj' h rfl
  obtain ⟨-, hkind⟩ := List.append_inj' hdir rfl
  exact ⟨kindName_injective (List.cons.inj hkind).1, (List.cons.inj hname).1⟩

/-- Two records never share a file. -/
theorem path_inj {f : Folder} {j k : Kind} {a b : String}
    (h : (f.path j a).names = (f.path k b).names) : j = k ∧ a = b := by
  obtain ⟨hkind, hname⟩ := dir_append_inj h
  exact ⟨hkind, fileName_injective hname⟩

theorem path_inj_iff {f : Folder} {j k : Kind} {a b : String} :
    (f.path j a).names = (f.path k b).names ↔ j = k ∧ a = b := by
  constructor
  · exact path_inj
  · rintro ⟨rfl, rfl⟩
    rfl

end Storyline.Storage.Folder
