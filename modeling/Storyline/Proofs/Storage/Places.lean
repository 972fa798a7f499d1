import Mathlib.Data.String.Basic
import Storyline.Proofs.Storage.Naming

/-!
# Where files lie

A record lies directly in the folder of its kind, whatever its id.  The name of its file has
only unreserved characters and percent signs in it, so that nothing in the name leads anywhere:
there is no slash to divide it and nothing to end it early, and it names neither the folder
itself nor the one above.  Read as a path of its own, the name is one step.

* `Text.Percent.mem_encode`: the characters of a written form;
* `Route.IsStep`, `Route.IsStep.read_eq`: a name that is one step, read as a path;
* `Folder.isStep_fileName`: the name of a file is one step;
* `Folder.files_apart`: no file lies elsewhere, no two records share one, and an id is read back
  from its file.
-/

namespace Storyline

/-! ## Characters of a written form -/

namespace Text

theorem isUnreserved_hexDigitUpper {n : Nat} (h : n < 16) :
    Percent.isUnreserved (hexDigitUpper n) = true := by
  have hall : ∀ k < 16, Percent.isUnreserved (hexDigitUpper k) = true := by decide
  exact hall n h

namespace Percent

theorem mem_encodeOctet {n : Nat} (hn : n < 256) {c : Char} (h : c ∈ encodeOctet n) :
    isUnreserved c = true ∨ c = '%' := by
  simp only [encodeOctet, List.mem_cons, List.not_mem_nil, or_false] at h
  rcases h with rfl | rfl | rfl
  · exact .inr rfl
  · exact .inl (isUnreserved_hexDigitUpper (by omega))
  · exact .inl (isUnreserved_hexDigitUpper (by omega))

/-- A written form has no characters but unreserved ones, safe ones and percent signs. -/
theorem mem_encode {safe : Char → Bool} {cs : List Char} {c : Char} (h : c ∈ encode safe cs) :
    (isUnreserved c || safe c) = true ∨ c = '%' := by
  obtain ⟨d, -, hc⟩ := List.mem_flatMap.mp h
  unfold encodeChar at hc
  split at hc
  · rename_i hd
    rw [List.mem_singleton.mp hc]
    exact .inl hd
  · obtain ⟨n, hn, hc⟩ := List.mem_flatMap.mp hc
    refine (mem_encodeOctet (lt_of_mem_encodeChar hn) hc).imp_left fun hunreserved => ?_
    rw [hunreserved, Bool.true_or]

end Percent

end Text

namespace Storage

/-! ## One step of a path -/

namespace Route

/-- A name that leads to an entry of a directory and nowhere else. -/
structure IsStep (name : String) : Prop where
  ne_empty : name ≠ ""
  no_slash : '/' ∉ name.toList
  no_end : Char.ofNat 0 ∉ name.toList
  ne_here : name ≠ "."
  ne_above : name ≠ ".."

/-- What is left of a text without slashes is one piece with what was read. -/
theorem splitOnAux_of_no_slash {cs ds : List Char} (h : '/' ∉ ds) :
    (String.ofList (cs ++ ds)).splitOnAux "/" 0 ⟨String.utf8Len cs⟩ 0 [] =
      [String.ofList (cs ++ ds)] := by
  induction ds generalizing cs with
  | nil =>
    have hend := (String.atEnd_of_valid cs []).mpr rfl
    have hwhole := String.extract_of_valid [] cs []
    rw [String.splitOnAux, if_pos hend]
    simp only [List.nil_append, List.append_nil, String.utf8Len_nil, Nat.zero_add] at hwhole ⊢
    rw [List.reverse_singleton]
    exact congrArg (fun s => [s]) hwhole
  | cons c ds ih =>
    rw [List.mem_cons, not_or] at h
    have hmore := mt (String.atEnd_of_valid cs (c :: ds)).mp (List.cons_ne_nil c ds)
    have hread := String.get_of_valid cs (c :: ds)
    have hnext := String.next_of_valid cs c ds
    have hother : ¬ (c == String.Pos.Raw.get "/" 0) = true := fun heq => h.1 (eq_of_beq heq).symm
    have hback : String.Pos.Raw.unoffsetBy ⟨String.utf8Len cs⟩ 0 = ⟨String.utf8Len cs⟩ := rfl
    rw [String.splitOnAux, if_neg hmore, hread, List.headD_cons, if_neg hother, hback, hnext]
    have hrest := @ih (cs ++ [c]) h.2
    rwa [String.utf8Len_append, String.utf8Len_cons, String.utf8Len_nil, Nat.zero_add,
      List.append_assoc, List.singleton_append] at hrest

theorem splitOn_of_no_slash {name : String} (h : '/' ∉ name.toList) :
    name.splitOn "/" = [name] := by
  have hpiece := @splitOnAux_of_no_slash [] _ h
  rw [List.nil_append, String.ofList_toList] at hpiece
  exact hpiece

theorem startOf_of_no_slash {cs : List Char} (h : '/' ∉ cs) : startOf cs = "" := by
  unfold startOf
  split
  · exact absurd (List.mem_cons_self ..) h
  · exact absurd (List.mem_cons_self ..) h
  · exact absurd (List.mem_cons_self ..) h
  · rfl

/-- One step is a path of one name. -/
theorem IsStep.read_eq {name : String} (h : IsStep name) : read name = ⟨"", [name]⟩ := by
  have hnames : namesOf name = [name] := by
    rw [namesOf, splitOn_of_no_slash h.no_slash]
    exact List.filter_eq_self.mpr (by simp [h.ne_empty, h.ne_here])
  rw [read, startOf_of_no_slash h.no_slash, hnames]

end Route

namespace Folder

/-! ## Files of a folder -/

theorem mem_fileName {id : String} {c : Char} (h : c ∈ (fileName id).toList) :
    Text.Percent.isUnreserved c = true ∨ c = '%' := by
  rw [toList_fileName, toList_stem] at h
  rcases List.mem_append.mp h with h | h
  · simpa using Text.Percent.mem_encode h
  · have hsuffix : recordSuffix.all Text.Percent.isUnreserved = true := by decide
    exact .inl (List.all_eq_true.mp hsuffix c h)

/-- A name that does not end as records do is not the name of a file. -/
theorem fileName_ne {id name : String} (h : name.toList.getLast? ≠ some 'n') :
    fileName id ≠ name := by
  intro heq
  refine h ?_
  rw [← heq, toList_fileName, List.getLast?_append]
  rfl

/-- The name of a file is one step. -/
theorem isStep_fileName (id : String) : Route.IsStep (fileName id) where
  ne_empty := fileName_ne (by decide)
  no_slash h := (mem_fileName h).elim (by decide) (by decide)
  no_end h := (mem_fileName h).elim (by decide) (by decide)
  ne_here := fileName_ne (by decide)
  ne_above := fileName_ne (by decide)

/-- The file of a record is found from the folder of its kind by its name alone. -/
theorem join_fileName (f : Folder) (kind : Kind) (id : String) :
    (f.dir kind).join (Route.read (fileName id)) = f.path kind id := by
  rw [(isStep_fileName id).read_eq]
  rfl

/-- Every record has a file of its own that lies directly in the folder of its kind: the name of
the file is one step from there.  No other record of the kind has this file, and none of the
other kind, and the id is read back from the name unless it is empty. -/
theorem files_apart (f : Folder) :
    (∀ kind id, Route.IsStep (fileName id) ∧
      (f.dir kind).join (Route.read (fileName id)) = f.path kind id ∧
      (f.path kind id).names = (f.dir kind).names ++ [fileName id]) ∧
      (∀ kind a b, a ≠ b → f.path kind a ≠ f.path kind b) ∧
      (∀ a b, f.path .save a ≠ f.path .setting b) ∧
      ∀ id, id ≠ "" → idOfFile (fileName id) = id := by
  refine ⟨fun kind id => ⟨isStep_fileName id, join_fileName f kind id, rfl⟩,
    fun kind a b hne heq => ?_, fun a b heq => ?_, fun id hid => idOfFile_fileName hid⟩
  · exact hne (path_inj (congrArg Route.names heq)).2
  · cases (path_inj (congrArg Route.names heq)).1

/-- An id that spells a way up stays in the folder, apart from the id that spells its file
name. -/
theorem files_apart_way_up :
    fileName "../b" = "..%2Fb.json" ∧ Route.IsStep "..%2Fb.json" ∧
      (⟨⟨"", ["data"]⟩⟩ : Folder).path .save "../b" ≠
        (⟨⟨"", ["data"]⟩⟩ : Folder).path .save "..%2Fb" ∧
      idOfFile "..%2Fb.json" = "../b" := by
  obtain ⟨hplace, hapart, -, hback⟩ := files_apart ⟨⟨"", ["data"]⟩⟩
  have hname : fileName "../b" = "..%2Fb.json" := by decide
  refine ⟨hname, ?_, hapart .save _ _ (by decide), ?_⟩
  · exact hname ▸ (hplace .save "../b").1
  · exact hname ▸ hback "../b" (by decide)

end Folder

end Storage

end Storyline
