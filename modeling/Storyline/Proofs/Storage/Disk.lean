import Storyline.Storage.Disk

/-!
# A disk by its paths

What each operation of a disk leaves at each path.

* `Disk.get?_put`, `Disk.get?_erase`: entries put and taken away;
* `Disk.lookup_of_directories`: a path that leads through directories;
* `Disk.makeDirs_eq_ok`, `Disk.writeEntry_eq_ok`, `Disk.rename_eq_ok`: what was done when
  an operation succeeded;
* `Disk.exists_makeDirs`, `Disk.writeEntry_of_directories`: when one succeeds;
* `Disk.mem_names`: the names in a directory.
-/

namespace Storyline.Storage.Disk

variable {d : Disk}

/-- A disk has one entry at most at a path. -/
def Proper (d : Disk) : Prop := (d.entries.map Prod.fst).Nodup

/-! ## Entries -/

@[simp] theorem get?_nil (d : Disk) : d.get? [] = some .directory := rfl

theorem get?_of_ne_nil (d : Disk) {p : Path} (h : p ≠ []) :
    d.get? p = (d.entries.find? (·.1 = p)).map (·.2) := if_neg h

theorem get?_erase (d : Disk) {p : Path} (hp : p ≠ []) (q : Path) :
    (d.erase p).get? q = if q = p then none else d.get? q := by
  by_cases hq : q = []
  · rw [hq, get?_nil, get?_nil, if_neg (Ne.symm hp)]
  · rw [get?_of_ne_nil _ hq, get?_of_ne_nil _ hq, erase, List.find?_filter]
    split
    · rename_i heq
      rw [heq, Option.map_eq_none_iff, List.find?_eq_none]
      intro e _
      simp
    · rename_i hne
      congr 2
      funext e
      by_cases he : e.1 = q
      · simp [he, hne]
      · simp [he]

theorem get?_put (d : Disk) {p : Path} (hp : p ≠ []) (e : Entry) (q : Path) :
    (d.put p e).get? q = if q = p then some e else d.get? q := by
  by_cases hq : q = []
  · rw [hq, get?_nil, get?_nil, if_neg (Ne.symm hp)]
  · have herase := get?_erase d hp q
    rw [get?_of_ne_nil _ hq] at herase ⊢
    rw [put, List.find?_append, Option.map_or, herase]
    split
    · rename_i heq
      simp [heq]
    · rename_i hne
      simp [Ne.symm hne]

theorem proper_erase (h : d.Proper) (p : Path) : (d.erase p).Proper :=
  h.sublist (List.filter_sublist.map _)

theorem proper_put (h : d.Proper) (p : Path) (e : Entry) : (d.put p e).Proper := by
  unfold Proper put
  rw [List.map_append, List.nodup_append]
  refine ⟨proper_erase h p, by simp, ?_⟩
  intro q hq r hr
  obtain ⟨entry, hentry, rfl⟩ := List.mem_map.mp hq
  have hne := (List.mem_filter.mp hentry).2
  have hr' : r = p := by simpa using hr
  rw [hr']
  simpa using hne

/-! ## Paths through directories -/

theorem mem_above {p q : Path} : q ∈ above p ↔ q <+: p ∧ q ≠ p := by
  unfold above
  rw [List.mem_map]
  constructor
  · rintro ⟨n, hn, rfl⟩
    rw [List.mem_range] at hn
    refine ⟨List.take_prefix n p, fun heq => ?_⟩
    have hlength := congrArg List.length heq
    rw [List.length_take] at hlength
    omega
  · rintro ⟨hstart, hne⟩
    have hle := hstart.length_le
    refine ⟨q.length, List.mem_range.mpr ?_, (List.prefix_iff_eq_take.mp hstart).symm⟩
    have hlength : q.length ≠ p.length := fun heq => hne (hstart.eq_of_length heq)
    omega

/-- The paths above a name in a directory are the directory and those above it. -/
theorem mem_above_concat {p q : Path} {name : String} :
    q ∈ above (p ++ [name]) ↔ q <+: p := by
  rw [mem_above, List.prefix_concat_iff]
  constructor
  · rintro ⟨h | h, hne⟩
    · exact absurd h hne
    · exact h
  · intro h
    refine ⟨Or.inr h, fun heq => ?_⟩
    have hle := h.length_le
    rw [heq, List.length_append, List.length_singleton] at hle
    omega

theorem tooLong_append (p q : Path) : tooLong (p ++ q) = (tooLong p || tooLong q) := by
  simp [tooLong]

theorem tooLong_of_prefix {p q : Path} (h : q <+: p) (hp : tooLong p = false) :
    tooLong q = false := by
  obtain ⟨rest, rfl⟩ := h
  rw [tooLong_append, Bool.or_eq_false_iff] at hp
  exact hp.1

/-- The entry at a path that leads through directories. -/
theorem lookup_of_directories {p : Path} (h : ∀ q ∈ above p, d.get? q = some .directory) :
    d.lookup p =
      if tooLong p then .error .nameTooLong
      else match d.get? p with
        | some e => .ok e
        | none => .error .notFound := by
  have hnone : ((above p).map d.get?).find? (· != some .directory) = none := by
    rw [List.find?_eq_none]
    intro e he
    obtain ⟨q, hq, rfl⟩ := List.mem_map.mp he
    rw [h q hq]
    decide
  unfold lookup
  split
  · rename_i hfound
    rw [hnone] at hfound
    cases hfound
  · rename_i hfound
    rw [hnone] at hfound
    cases hfound
  · rfl

/-- A path through something that is missing leads nowhere. -/
theorem lookup_of_missing {p : Path}
    (h : ∀ q ∈ above p, d.get? q = some .directory ∨ d.get? q = none)
    (hmissing : ∃ q ∈ above p, d.get? q = none) : d.lookup p = .error .notFound := by
  obtain ⟨q, hq, hnone⟩ := hmissing
  have hfind : ((above p).map d.get?).find? (· != some .directory) = some none := by
    cases hf : ((above p).map d.get?).find? (· != some .directory) with
    | none =>
      rw [List.find?_eq_none] at hf
      refine absurd ?_ (hf none (List.mem_map.mpr ⟨q, hq, hnone⟩))
      decide
    | some o =>
      have hmem := List.mem_of_find?_eq_some hf
      obtain ⟨r, hr, rfl⟩ := List.mem_map.mp hmem
      have hbad := List.find?_some hf
      rcases h r hr with hdir | hgone
      · rw [hdir] at hbad
        exact absurd hbad (by decide)
      · rw [hgone]
  unfold lookup
  rw [hfind]

/-- A path that was looked up leads through directories, and there is something. -/
theorem lookup_eq_ok {p : Path} {e : Entry} (h : d.lookup p = .ok e) :
    (∀ q ∈ above p, d.get? q = some .directory) ∧ tooLong p = false ∧ d.get? p = some e := by
  unfold lookup at h
  split at h
  · cases h
  · cases h
  · rename_i hnone
    split at h
    · cases h
    · rename_i hshort
      split at h
      · rename_i hget
        refine ⟨fun q hq => ?_, by simpa using hshort, by rw [hget, Except.ok.inj h]⟩
        have hq' := List.find?_eq_none.mp hnone _ (List.mem_map_of_mem hq)
        simpa using hq'
      · cases h

/-! ## Directories -/

/-- Make one directory; one that is there is kept. -/
def makeDir (d : Disk) (q : Path) : Except Fault Disk :=
  match d.get? q with
  | some .directory => .ok d
  | some _ => .error .exists
  | none => if tooLong q then .error .nameTooLong else .ok (d.put q .directory)

/-- Directories made one after another. -/
theorem makeAll_eq_ok {qs : List Path} {d d' : Disk} (h : qs.foldlM makeDir d = .ok d') :
    (∀ q ∈ qs, d'.get? q = some .directory) ∧ (∀ q, q ∉ qs → d'.get? q = d.get? q) ∧
      (∀ q, d.get? q = some .directory → d'.get? q = some .directory) ∧
      (d.Proper → d'.Proper) := by
  induction qs generalizing d with
  | nil =>
    rw [List.foldlM_nil] at h
    rw [← Except.ok.inj h]
    exact ⟨nofun, fun _ _ => rfl, fun _ hq => hq, id⟩
  | cons q qs ih =>
    rw [List.foldlM_cons, makeDir] at h
    cases hget : d.get? q with
    | none =>
      rw [hget] at h
      have hq : q ≠ [] := by
        rintro rfl
        rw [get?_nil] at hget
        cases hget
      by_cases hlong : tooLong q = true
      · rw [if_pos hlong] at h
        cases h
      · rw [if_neg hlong] at h
        obtain ⟨hmade, hothers, hkept, hproper⟩ := ih (d := d.put q .directory) h
        have hhere : (d.put q .directory).get? q = some .directory := by
          rw [get?_put d hq, if_pos rfl]
        refine ⟨fun r hr => ?_, fun r hr => ?_, fun r hr => ?_, fun hp => ?_⟩
        · rcases List.mem_cons.mp hr with rfl | hr
          · exact hkept r hhere
          · exact hmade r hr
        · rw [List.mem_cons, not_or] at hr
          rw [hothers r hr.2, get?_put d hq, if_neg hr.1]
        · refine hkept r ?_
          rw [get?_put d hq]
          split
          · rfl
          · exact hr
        · exact hproper (proper_put hp q .directory)
    | some e =>
      rw [hget] at h
      cases e with
      | directory =>
        obtain ⟨hmade, hothers, hkept, hproper⟩ := ih (d := d) h
        refine ⟨fun r hr => ?_, fun r hr => ?_, hkept, hproper⟩
        · rcases List.mem_cons.mp hr with rfl | hr
          · exact hkept r hget
          · exact hmade r hr
        · rw [List.mem_cons, not_or] at hr
          exact hothers r hr.2
      | text s => cases h
      | octets bs => cases h

theorem exists_makeAll {qs : List Path} {d : Disk}
    (h : ∀ q ∈ qs, d.get? q = some .directory ∨ d.get? q = none)
    (hshort : ∀ q ∈ qs, tooLong q = false) : ∃ d', qs.foldlM makeDir d = .ok d' := by
  induction qs generalizing d with
  | nil => exact ⟨d, rfl⟩
  | cons q qs ih =>
    rw [List.foldlM_cons, makeDir]
    rcases h q (List.mem_cons_self ..) with hget | hget
    · rw [hget]
      exact ih (fun r hr => h r (List.mem_cons_of_mem q hr))
        fun r hr => hshort r (List.mem_cons_of_mem q hr)
    · have hq : q ≠ [] := by
        rintro rfl
        rw [get?_nil] at hget
        cases hget
      rw [hget]
      dsimp only
      rw [hshort q (List.mem_cons_self ..)]
      refine ih (d := d.put q .directory) (fun r hr => ?_)
        fun r hr => hshort r (List.mem_cons_of_mem q hr)
      rw [get?_put d hq]
      split
      · exact Or.inl rfl
      · exact h r (List.mem_cons_of_mem q hr)

/-- The directories that are made on the way to a path are those that lead to it. -/
theorem mem_steps {p q : Path} (hq : q ≠ []) :
    q ∈ (above p).drop 1 ++ [p] ↔ q <+: p := by
  rw [List.mem_append, List.mem_singleton]
  have hdrop : q ∈ (above p).drop 1 ↔ q ∈ above p := by
    cases p with
    | nil => simp [above]
    | cons name p =>
      have habove : above (name :: p) = [] :: (above (name :: p)).drop 1 := by
        rw [above, List.length_cons, List.range_succ_eq_map, List.map_cons, List.drop_one,
          List.tail_cons]
        rfl
      rw [habove, List.mem_cons, List.drop_one, List.tail_cons]
      exact ⟨Or.inr, fun h => h.resolve_left hq⟩
  rw [hdrop, mem_above]
  constructor
  · rintro (h | rfl)
    · exact h.1
    · exact List.prefix_refl q
  · intro h
    by_cases heq : q = p
    · exact Or.inr heq
    · exact Or.inl ⟨h, heq⟩

/-- When the directories to a path were made, they are there, and nothing else has
changed. -/
theorem makeDirs_eq_ok {p : Path} {d' : Disk} (h : d.makeDirs p = .ok d') :
    (∀ q, q <+: p → d'.get? q = some .directory) ∧
      (∀ q, ¬ q <+: p → d'.get? q = d.get? q) ∧ (d.Proper → d'.Proper) := by
  obtain ⟨hmade, hothers, -, hproper⟩ := makeAll_eq_ok h
  refine ⟨fun q hq => ?_, fun q hq => ?_, hproper⟩
  · by_cases hnil : q = []
    · rw [hnil, get?_nil]
    · exact hmade q ((mem_steps hnil).mpr hq)
  · have hnil : q ≠ [] := by
      rintro rfl
      exact hq List.nil_prefix
    exact hothers q fun hmem => hq ((mem_steps hnil).mp hmem)

/-- The directories to a path can be made where nothing else is in the way. -/
theorem exists_makeDirs {p : Path}
    (h : ∀ q, q <+: p → d.get? q = some .directory ∨ d.get? q = none)
    (hshort : tooLong p = false) : ∃ d', d.makeDirs p = .ok d' := by
  have hsteps : ∀ q ∈ (above p).drop 1 ++ [p], q <+: p := by
    intro q hq
    by_cases hnil : q = []
    · rw [hnil]
      exact List.nil_prefix
    · exact (mem_steps hnil).mp hq
  exact exists_makeAll (fun q hq => h q (hsteps q hq))
    fun q hq => tooLong_of_prefix (hsteps q hq) hshort

/-! ## Files -/

theorem writeEntry_eq_ok {p : Path} {e : Entry} {d' : Disk} (h : d.writeEntry p e = .ok d') :
    d' = d.put p e := by
  unfold writeEntry at h
  split at h
  · cases h
  · exact (Except.ok.inj h).symm
  · split at h
    · exact (Except.ok.inj h).symm
    · cases h
  · cases h

/-- A file can be written in a directory, in place of a file that is there. -/
theorem writeEntry_of_directories {p : Path} {name : String} {e : Entry}
    (h : ∀ q, q <+: p → d.get? q = some .directory) (hshort : tooLong (p ++ [name]) = false)
    (hfile : d.get? (p ++ [name]) ≠ some .directory) :
    d.writeEntry (p ++ [name]) e = .ok (d.put (p ++ [name]) e) := by
  have hlookup := lookup_of_directories (d := d) (p := p ++ [name])
    fun q hq => h q (mem_above_concat.mp hq)
  unfold writeEntry
  rw [hlookup, hshort, if_neg Bool.false_ne_true]
  cases hget : d.get? (p ++ [name]) with
  | none =>
    dsimp only
    rw [List.dropLast_concat, if_pos (h p (List.prefix_refl p))]
  | some old =>
    cases old with
    | directory => exact absurd hget hfile
    | text s => rfl
    | octets bs => rfl

/-- A file that was written in a directory has a name that is not too long. -/
theorem tooLong_of_writeEntry {p : Path} {name : String} {e : Entry} {d' : Disk}
    (h : ∀ q, q <+: p → d.get? q = some .directory)
    (hwrite : d.writeEntry (p ++ [name]) e = .ok d') : tooLong (p ++ [name]) = false := by
  have hlookup := lookup_of_directories (d := d) (p := p ++ [name])
    fun q hq => h q (mem_above_concat.mp hq)
  cases hlong : tooLong (p ++ [name]) with
  | false => rfl
  | true =>
    rw [hlong, if_pos rfl] at hlookup
    rw [writeEntry, hlookup] at hwrite
    cases hwrite

theorem rename_eq_ok {source target : Path} {d' : Disk} (h : d.rename source target = .ok d') :
    ∃ e, d.get? source = some e ∧ (d.erase source).writeEntry target e = .ok d' := by
  unfold rename at h
  split at h
  · cases h
  · rename_i e hlookup
    exact ⟨e, (lookup_eq_ok hlookup).2.2, h⟩

/-- A file can be given another name in its directory, in place of a file that is there. -/
theorem rename_of_directories {p : Path} {source target : String} {e : Entry}
    (h : ∀ q, q <+: p → d.get? q = some .directory) (hsource : tooLong (p ++ [source]) = false)
    (htarget : tooLong (p ++ [target]) = false) (hget : d.get? (p ++ [source]) = some e)
    (hfile : d.get? (p ++ [target]) ≠ some .directory) :
    d.rename (p ++ [source]) (p ++ [target]) =
      .ok ((d.erase (p ++ [source])).put (p ++ [target]) e) := by
  have hne : p ++ [source] ≠ [] := by simp
  have hlookup := lookup_of_directories (d := d) (p := p ++ [source])
    fun q hq => h q (mem_above_concat.mp hq)
  rw [hsource, if_neg Bool.false_ne_true, hget] at hlookup
  have hdirs : ∀ q, q <+: p → (d.erase (p ++ [source])).get? q = some .directory := by
    intro q hq
    have hlength := hq.length_le
    have hq' : q ≠ p ++ [source] := by
      rintro rfl
      rw [List.length_append, List.length_singleton] at hlength
      omega
    rw [get?_erase d hne, if_neg hq', h q hq]
  have hfile' : (d.erase (p ++ [source])).get? (p ++ [target]) ≠ some .directory := by
    rw [get?_erase d hne]
    split
    · exact nofun
    · exact hfile
  unfold rename
  rw [hlookup]
  exact writeEntry_of_directories hdirs htarget hfile'

/-- A file in a directory can be removed. -/
theorem unlink_of_directories {p : Path} {name : String}
    (h : ∀ q, q <+: p → d.get? q = some .directory) (hshort : tooLong (p ++ [name]) = false)
    (hfile : d.get? (p ++ [name]) ≠ some .directory) :
    d.unlink (p ++ [name]) =
      if d.get? (p ++ [name]) = none then .error .notFound else .ok (d.erase (p ++ [name])) := by
  have hlookup := lookup_of_directories (d := d) (p := p ++ [name])
    fun q hq => h q (mem_above_concat.mp hq)
  rw [hshort, if_neg Bool.false_ne_true] at hlookup
  unfold unlink
  rw [hlookup]
  cases hget : d.get? (p ++ [name]) with
  | none => rfl
  | some e =>
    cases e with
    | directory => exact absurd hget hfile
    | text s => rfl
    | octets bs => rfl

/-! ## Names -/

theorem mem_names (p : Path) (name : String) :
    name ∈ d.names p ↔ ∃ e ∈ d.entries, e.1 = p ++ [name] := by
  unfold names
  rw [List.mem_filterMap]
  refine exists_congr fun e => and_congr_right fun _ => ?_
  constructor
  · intro h
    split at h
    · rename_i hcond
      rw [Bool.and_eq_true, decide_eq_true_eq, bne_iff_ne] at hcond
      obtain ⟨q, hq⟩ := List.getLast?_eq_some_iff.mp h
      rw [← hcond.1, hq, List.dropLast_concat]
    · cases h
  · intro h
    rw [h, List.dropLast_concat]
    simp

/-- The names in a directory are those under which there is something. -/
theorem mem_names_iff (p : Path) (name : String) :
    name ∈ d.names p ↔ d.get? (p ++ [name]) ≠ none := by
  rw [mem_names, get?_of_ne_nil d (by simp), ne_eq, Option.map_eq_none_iff, List.find?_eq_none]
  simp

theorem nodup_names (h : d.Proper) (p : Path) : (d.names p).Nodup := by
  unfold Proper at h
  unfold names
  rw [List.nodup_iff_pairwise_ne, List.pairwise_map] at h
  refine List.pairwise_filterMap.mpr (h.imp fun {a b} hab n hn m hm hnm => hab ?_)
  have hwhole : ∀ (e : Path × Entry) (k : String),
      (if e.1.dropLast = p && e.1 != [] then e.1.getLast? else none) = some k →
        e.1 = p ++ [k] := by
    intro e k he
    split at he
    · rename_i hcond
      rw [Bool.and_eq_true, decide_eq_true_eq, bne_iff_ne] at hcond
      obtain ⟨q, hq⟩ := List.getLast?_eq_some_iff.mp he
      rw [← hcond.1, hq, List.dropLast_concat]
    · cases he
  rw [hwhole a n hn, hwhole b m hm, hnm]

end Storyline.Storage.Disk
