import Mathlib.Data.Set.Card
import Storyline.Kv.Register
import Storyline.Proofs.Kv.Sharing
import Storyline.Proofs.Storage.Ledger

/-!
# The two parts of a register stay in step

A register keeps its keys twice, in the table and in the list, and finds places in the list by
halving.  Halving finds the right place in a list that ascends, and what is put or taken away at
the right place leaves a list that ascends, so that after any changes the list has the keys of the
table, in order.

* `bisect_append`, `drop_bisect`: halving finds where the keys that pass a test end;
* `Register.Keeps`: the register has the values of a map, and its keys in order;
* `Register.keeps_put`, `Register.exists_delete`: a change keeps the two parts in step;
* `Register.fill_eq_cut`, `Register.list_eq_page`: a listing is the page of a store;
* `Register.sorted_map_of_changes`: what a register is after any changes.
-/

namespace Storyline.Kv

/-! ## Halving -/

section Halving

variable {passes : String → Bool} {keys : List String}

/-- Halving finds the place up to which keys pass, if it is between the two ends. -/
theorem bisect_append {done rest : List String} (hdone : ∀ key ∈ done, passes key = true)
    (hrest : ∀ key ∈ rest, passes key = false) {low high : Nat} (hlow : low ≤ done.length)
    (hhigh : done.length ≤ high) (hlength : high ≤ (done ++ rest).length) :
    bisect passes (done ++ rest) low high = done.length := by
  obtain ⟨stretch, hstretch⟩ : ∃ n, n = high - low := ⟨_, rfl⟩
  induction stretch using Nat.strong_induction_on generalizing low high with
  | _ stretch ih =>
    have hmiddle : low < high →
        ((done ++ rest)[(low + high) / 2]?.any passes = true ↔ (low + high) / 2 < done.length) := by
      intro hlt
      by_cases hbefore : (low + high) / 2 < done.length
      · rw [List.getElem?_append_left hbefore, List.getElem?_eq_getElem hbefore, Option.any_some]
        exact ⟨fun _ => hbefore, fun _ => hdone _ (List.getElem_mem hbefore)⟩
      · rw [List.length_append] at hlength
        have hafter : (low + high) / 2 - done.length < rest.length := by omega
        rw [List.getElem?_append_right (by omega), List.getElem?_eq_getElem hafter,
          Option.any_some, hrest _ (List.getElem_mem hafter)]
        exact ⟨nofun, fun h => absurd h hbefore⟩
    unfold bisect
    by_cases hlt : low < high
    · rw [if_pos hlt]
      by_cases hbefore : (low + high) / 2 < done.length
      · rw [if_pos ((hmiddle hlt).mpr hbefore)]
        exact ih _ (by omega) (by omega) hhigh hlength rfl
      · rw [if_neg fun h => hbefore ((hmiddle hlt).mp h)]
        exact ih _ (by omega) hlow (by omega) (by omega) rfl
    · rw [if_neg hlt]
      omega

/-- Keys that ascend fall into those that pass a test and those that do not, if what is below
one that passes passes too; halving finds the place between them. -/
theorem exists_split (hsorted : keys.Pairwise (· < ·))
    (hpasses : ∀ a b, a < b → passes b = true → passes a = true) :
    ∃ done rest, keys = done ++ rest ∧ bisect passes keys 0 keys.length = done.length ∧
      (∀ key ∈ done, passes key = true) ∧ (∀ key ∈ rest, passes key = false) ∧
      rest = keys.dropWhile passes := by
  have hdone : ∀ key ∈ keys.takeWhile passes, passes key = true := fun key hkey =>
    List.all_eq_true.mp List.all_takeWhile key hkey
  have hrest : ∀ key ∈ keys.dropWhile passes, passes key = false := by
    intro key hkey
    rw [dropWhile_eq_filter hsorted hpasses] at hkey
    simpa using (List.mem_filter.mp hkey).2
  have hsplit := (List.takeWhile_append_dropWhile (p := passes) (l := keys)).symm
  have hfound := bisect_append hdone hrest (Nat.zero_le _)
    (List.takeWhile_sublist passes).length_le (Nat.le_of_eq (congrArg List.length hsplit))
  rw [← hsplit] at hfound
  exact ⟨_, _, hsplit, hfound, hdone, hrest, rfl⟩

/-- Behind the place that is found there are the keys that do not pass. -/
theorem drop_bisect (hsorted : keys.Pairwise (· < ·))
    (hpasses : ∀ a b, a < b → passes b = true → passes a = true) :
    keys.drop (bisect passes keys 0 keys.length) = keys.dropWhile passes := by
  obtain ⟨done, rest, hsplit, hfound, -, -, hrest⟩ := exists_split hsorted hpasses
  rw [hfound, ← hrest, hsplit, List.drop_left]

theorem insertIdx_append_length (as bs : List String) (a : String) :
    (as ++ bs).insertIdx as.length a = as ++ a :: bs := by
  induction as with
  | nil => rw [List.length_nil, List.insertIdx_zero, List.nil_append, List.nil_append]
  | cons x as ih =>
    rw [List.cons_append, List.length_cons, List.insertIdx_succ_cons, ih, List.cons_append]

theorem eraseIdx_append_length (as bs : List String) (a : String) :
    (as ++ a :: bs).eraseIdx as.length = as ++ bs := by
  rw [List.eraseIdx_append_of_length_le (Nat.le_refl _), Nat.sub_self, List.eraseIdx_cons_zero]

end Halving

/-! ## Maps -/

/-- A map after a change. -/
def Change.record (m : String → Option String) : Change → String → Option String
  | .put key value => Function.update m key (some value)
  | .delete key => Function.update m key none

/-- The values that keys have after changes, from none on. -/
def valuesAfter (changes : List Change) : String → Option String :=
  changes.foldl Change.record fun _ => none

/-- A store has the values that it was given last. -/
theorem Store.get?_foldl (s : Store) (changes : List Change) (key : String) :
    (changes.foldl Change.apply s).get? key = changes.foldl Change.record s.get? key := by
  induction changes generalizing s with
  | nil => rfl
  | cons change changes ih =>
    have hstep : (change.apply s).get? = change.record s.get? := by
      funext other
      cases change with
      | put key value =>
        rw [Change.apply, Change.record, Store.get?_put, Function.update_apply]
      | delete key =>
        rw [Change.apply, Change.record, Store.delete, Store.get?_erase, Function.update_apply]
    rw [List.foldl_cons, List.foldl_cons, ih, hstep]

/-- A store has the values after changes. -/
theorem exists_store (changes : List Change) : ∃ s : Store, s.get? = valuesAfter changes :=
  ⟨changes.foldl Change.apply Store.empty, funext (Store.get?_foldl Store.empty changes)⟩

namespace Register

variable {r : Register} {m : String → Option String}

/-! ## Changes -/

/-- The register has the values of a map, and in the list the keys that have one, in order. -/
structure Keeps (r : Register) (m : String → Option String) : Prop where
  get : ∀ key, r.get? key = m key
  sorted : r.keys.Pairwise (· < ·)
  mem : ∀ key, key ∈ r.keys ↔ m key ≠ none

theorem keeps_empty : empty.Keeps fun _ => none :=
  ⟨fun _ => rfl, List.Pairwise.nil, fun key => by simp [empty]⟩

theorem lt_down (s : String) :
    ∀ a b, a < b → decide (b < s) = true → decide (a < s) = true := fun _ _ hab hb =>
  decide_eq_true (String.lt_trans hab (of_decide_eq_true hb))

theorem not_gt_down (s : String) :
    ∀ a b, a < b → (! decide (s < b)) = true → (! decide (s < a)) = true := by
  intro a b hab hb
  rw [Bool.not_eq_true', decide_eq_false_iff_not] at hb ⊢
  exact fun ha => hb (String.lt_trans ha hab)

theorem Keeps.contains (h : r.Keeps m) (key : String) :
    r.texts.contains key = (m key).isSome := by
  rw [← h.get key]
  rfl

/-- The place of a new key is between the keys below it and those above it. -/
theorem exists_gap (h : r.Keeps m) {key : String} (hold : m key = none) :
    ∃ below above, r.keys = below ++ above ∧ r.placeAfter key = below.length ∧
      (∀ other ∈ below, other < key) ∧ ∀ other ∈ above, key < other := by
  obtain ⟨below, above, hsplit, hplace, hbelow, habove, -⟩ :=
    exists_split h.sorted (not_gt_down key)
  refine ⟨below, above, hsplit, hplace, fun other hother => ?_, fun other hother => ?_⟩
  · have hle := hbelow other hother
    rw [Bool.not_eq_true', decide_eq_false_iff_not] at hle
    refine Store.lt_of_ne_of_not_lt (fun heq => ?_) hle
    exact (h.mem key).mp (hsplit ▸ List.mem_append_left above (heq ▸ hother)) hold
  · simpa using habove other hother

/-- The place of a key is before the keys above it. -/
theorem exists_place (h : r.Keeps m) {key : String} (hold : m key ≠ none) :
    ∃ below above, r.keys = below ++ key :: above ∧ r.placeOf key = below.length ∧
      (∀ other ∈ below, other < key) ∧ ∀ other ∈ above, key < other := by
  obtain ⟨below, rest, hsplit, hplace, hbelow, hrest, -⟩ := exists_split h.sorted (lt_down key)
  have hsorted := h.sorted
  rw [hsplit] at hsorted
  have hlast := (List.pairwise_append.mp hsorted).2.1
  have hlt : ∀ other ∈ below, other < key := fun other hother =>
    of_decide_eq_true (hbelow other hother)
  -- the key is there, is not below itself, and is the first one that is not
  have hkey : key ∈ rest := by
    have hmem : key ∈ below ++ rest := hsplit ▸ (h.mem key).mpr hold
    exact (List.mem_append.mp hmem).resolve_left fun hmem => String.lt_irrefl key (hlt key hmem)
  cases rest with
  | nil => cases hkey
  | cons first above =>
    obtain ⟨hgt, -⟩ := List.pairwise_cons.mp hlast
    rcases List.mem_cons.mp hkey with rfl | hkey
    · exact ⟨below, above, hsplit, hplace, hlt, hgt⟩
    · have hnot := hrest first List.mem_cons_self
      rw [decide_eq_true (hgt key hkey)] at hnot
      cases hnot

theorem keeps_put (h : r.Keeps m) (key value : String) :
    (r.put key value).Keeps ((Change.put key value).record m) := by
  have hget : ∀ other, (r.put key value).get? other =
      Function.update m key (some value) other := by
    intro other
    rw [Function.update_apply]
    by_cases hother : other = key
    · rw [if_pos hother, hother]
      exact Table.get?_insert_self _ _ _
    · rw [if_neg hother, ← h.get other]
      exact Table.get?_insert_of_ne _ hother _
  have hkeys : (r.put key value).keys =
      if (m key).isSome = true then r.keys else r.keys.insertIdx (r.placeAfter key) key := by
    rw [← h.contains]
    rfl
  by_cases hold : m key = none
  · obtain ⟨below, above, hsplit, hplace, hlt, hgt⟩ := exists_gap h hold
    have hsorted := h.sorted
    rw [hsplit] at hsorted
    obtain ⟨hfirst, hlast, hacross⟩ := List.pairwise_append.mp hsorted
    rw [hold, if_neg nofun, hplace, hsplit, insertIdx_append_length] at hkeys
    refine ⟨hget, ?_, fun other => ?_⟩
    · rw [hkeys]
      refine List.pairwise_append.mpr ⟨hfirst, List.pairwise_cons.mpr ⟨hgt, hlast⟩, ?_⟩
      intro a ha b hb
      rcases List.mem_cons.mp hb with rfl | hb
      · exact hlt a ha
      · exact hacross a ha b hb
    · have hmem := h.mem other
      rw [hsplit, List.mem_append] at hmem
      rw [hkeys, List.mem_append, List.mem_cons, Change.record, Function.update_apply]
      by_cases hother : other = key
      · simp [hother]
      · rw [if_neg hother, ← hmem]
        simp [hother]
  · rw [if_pos (Option.isSome_iff_ne_none.mpr hold)] at hkeys
    refine ⟨hget, hkeys ▸ h.sorted, fun other => ?_⟩
    rw [hkeys, h.mem, Change.record, Function.update_apply]
    by_cases hother : other = key
    · simp [hother, hold]
    · rw [if_neg hother]

/-- Taking a key away does not fail, says whether the key was there, and keeps the two parts in
step. -/
theorem exists_delete (h : r.Keeps m) (key : String) :
    ∃ r', r.delete key = some ((m key).isSome, r') ∧ r'.Keeps ((Change.delete key).record m) := by
  by_cases hold : m key = none
  · refine ⟨r, ?_, ?_⟩
    · unfold delete
      rw [h.contains, hold]
      rfl
    · rw [Change.record, ← hold, Function.update_eq_self]
      exact h
  · obtain ⟨below, above, hsplit, hplace, hlt, hgt⟩ := exists_place h hold
    have hsorted := h.sorted
    rw [hsplit] at hsorted
    obtain ⟨hfirst, hlast, hacross⟩ := List.pairwise_append.mp hsorted
    refine ⟨⟨r.texts.erase key, below ++ above⟩, ?_, ?_, ?_, fun other => ?_⟩
    · have hinside : r.placeOf key < r.keys.length := by
        rw [hplace, hsplit, List.length_append, List.length_cons]
        omega
      have hkeys : r.keys.eraseIdx (r.placeOf key) = below ++ above := by
        rw [hplace, hsplit, eraseIdx_append_length]
      unfold delete
      rw [h.contains, Option.isSome_iff_ne_none.mpr hold, if_pos rfl, if_pos hinside, hkeys]
    · intro other
      show (r.texts.erase key).get? other = _
      rw [Table.get?_erase, Change.record, Function.update_apply]
      exact if_congr Iff.rfl rfl (h.get other)
    · refine List.pairwise_append.mpr ⟨hfirst, (List.pairwise_cons.mp hlast).2, fun a ha b hb => ?_⟩
      exact hacross a ha b (List.mem_cons_of_mem key hb)
    · have hmem := h.mem other
      rw [hsplit, List.mem_append, List.mem_cons] at hmem
      show other ∈ below ++ above ↔ _
      rw [List.mem_append, Change.record, Function.update_apply]
      by_cases hother : other = key
      · rw [if_pos hother, hother]
        refine ⟨fun hkey => ?_, fun hnone => absurd rfl hnone⟩
        rcases hkey with hkey | hkey
        · exact absurd (hlt key hkey) (String.lt_irrefl key)
        · exact absurd (hgt key hkey) (String.lt_irrefl key)
      · rw [if_neg hother, ← hmem]
        simp [hother]

/-- The register after a change. -/
def change (r : Register) : Change → Option Register
  | .put key value => some (r.put key value)
  | .delete key => (r.delete key).map Prod.snd

/-- The register after changes, one after another. -/
def changeAll (r : Register) (changes : List Change) : Option Register := changes.foldlM change r

theorem exists_change (h : r.Keeps m) (change : Change) :
    ∃ r', r.change change = some r' ∧ r'.Keeps (change.record m) := by
  cases change with
  | put key value => exact ⟨_, rfl, keeps_put h key value⟩
  | delete key =>
    obtain ⟨r', hdelete, hkeeps⟩ := exists_delete h key
    exact ⟨r', by rw [Register.change, hdelete, Option.map_some], hkeeps⟩

/-- After any changes the two parts are in step. -/
theorem exists_changeAll (h : r.Keeps m) (changes : List Change) :
    ∃ r', r.changeAll changes = some r' ∧ r'.Keeps (changes.foldl Change.record m) := by
  induction changes generalizing r m with
  | nil => exact ⟨r, rfl, h⟩
  | cons change changes ih =>
    obtain ⟨r₁, hchange, hkeeps⟩ := exists_change h change
    obtain ⟨r', hrest, hkeeps'⟩ := ih hkeeps
    refine ⟨r', ?_, hkeeps'⟩
    rw [changeAll, List.foldlM_cons, hchange]
    exact hrest

/-! ## Listings -/

/-- Filling a page is cutting off the keys with the start that come first, after those that are
on the page. -/
theorem fill_eq_cut {start : String} {limit : Int} {page keys : List String}
    (hroom : limit < 0 ∨ (page.length : Int) ≤ limit) :
    fill start limit page keys =
      Store.cut limit (page ++ keys.takeWhile (Store.startsWith start)) := by
  induction keys generalizing page with
  | nil => rw [List.takeWhile_nil, List.append_nil, fill, Store.cut, if_pos hroom]
  | cons key keys ih =>
    by_cases hkey : Store.startsWith start key = true
    · rw [List.takeWhile_cons_of_pos hkey, fill, if_pos hkey]
      by_cases hfull : (page.length : Int) = limit
      · rw [if_pos hfull, Store.cut, List.length_append, List.length_cons, if_neg (by omega),
          ← hfull, Int.toNat_natCast, List.take_left]
        cases page.getLast? <;> rfl
      · have hmore : limit < 0 ∨ ((page ++ [key]).length : Int) ≤ limit := by
          rw [List.length_append, List.length_singleton]
          omega
        rw [if_neg hfull, ih hmore, List.append_assoc, List.singleton_append]
    · rw [List.takeWhile_cons_of_neg hkey, List.append_nil, fill, if_neg hkey, Store.cut,
        if_pos hroom]

theorem firstPlace_some {start c : String} (hc : c ≠ "") :
    r.firstPlace start (some c) = r.placeAfter c := by
  unfold firstPlace
  split
  · rename_i heq
    cases heq
  · rename_i heq
    exact absurd (Option.some_inj.mp heq) hc
  · rename_i heq
    rw [Option.some_inj.mp heq]

/-- A listing is the page of the store that has the same keys. -/
theorem list_eq_page {s : Store} (hkeys : r.keys = s.keys) (start : String)
    (cursor : Option String) (limit : Int) :
    r.list start cursor limit = s.page start cursor limit := by
  have hsorted : r.keys.Pairwise (· < ·) := hkeys ▸ s.sorted_keys
  have hfrom : r.keys.drop (r.firstPlace start cursor) = s.keysFrom start cursor := by
    have hstart : r.keys.drop (r.placeOf start) = s.keys.dropWhile (· < start) := by
      rw [placeOf, drop_bisect hsorted (lt_down start), hkeys]
    have hafter : ∀ c, r.keys.drop (r.placeAfter c) = s.keys.dropWhile (· ≤ c) := by
      intro c
      rw [placeAfter, drop_bisect hsorted (not_gt_down c), hkeys]
      congr 1
      funext key
      rw [← decide_not]
      exact decide_eq_decide.mpr String.not_lt
    cases cursor with
    | none => exact hstart
    | some c =>
      by_cases hempty : c = ""
      · rw [hempty]
        exact hstart
      · rw [firstPlace_some hempty, Store.keysFrom_some hempty]
        exact hafter c
  have hnone : limit < 0 ∨ (([] : List String).length : Int) ≤ limit := by
    rw [List.length_nil]
    omega
  rw [list, hfrom, fill_eq_cut hnone, List.nil_append, Store.page]

/-- The keys of the register are those of a store with the same values. -/
theorem Keeps.keys_eq (h : r.Keeps m) {s : Store} (hs : s.get? = m) : r.keys = s.keys := by
  refine Storage.Ascends.eq (m := m) ⟨h.sorted, h.mem⟩ ⟨s.sorted_keys, fun key => ?_⟩
  rw [← hs]
  exact Store.mem_keys

/-! ## A sorted map -/

/-- All keys that have a value, start with a text and come after a cursor, ascending. -/
structure Finds (m : String → Option String) (start : String) (cursor : Option String)
    (found : List String) : Prop where
  sorted : found.Pairwise (· < ·)
  mem : ∀ key, key ∈ found ↔
    m key ≠ none ∧ start.toList <+: key.toList ∧ ∀ last ∈ cursor, last < key

/-- The register is a map with its keys in order, of which a listing gives the first. -/
structure IsSortedMap (r : Register) (m : String → Option String) : Prop where
  sorted : r.keys.Pairwise (· < ·)
  keys : ∀ key, key ∈ r.keys ↔ key ∈ r.texts.keys
  get : ∀ key, r.get? key = m key
  size : (r.size : ℕ∞) = {key | m key ≠ none}.encard
  delete : ∀ key, ∃ r', r.delete key = some ((m key).isSome, r')
  list : ∀ (start : String) (cursor : Option String) (limit : Nat), 0 < limit →
    (∀ c ∈ cursor, c ≠ "" ∧ start.toList <+: c.toList) →
    ∃ found page, Finds m start cursor found ∧ r.list start cursor limit = some page ∧
      page.keys = found.take limit ∧ (found.length ≤ limit → page.cursor = none) ∧
      (limit < found.length → ∃ last, page.keys.getLast? = some last ∧ page.cursor = some last)

theorem Keeps.mem_texts (h : r.Keeps m) (key : String) : key ∈ r.texts.keys ↔ m key ≠ none := by
  rw [Table.mem_keys, ← h.get key]
  rfl

theorem Keeps.size_eq (h : r.Keeps m) : (r.size : ℕ∞) = {key | m key ≠ none}.encard := by
  have hset : {key | m key ≠ none} = (r.texts.keys.toFinset : Set String) := by
    ext key
    rw [Set.mem_ofPred_eq, ← h.mem_texts key, Finset.mem_coe, List.mem_toFinset]
  rw [hset, Set.encard_coe_eq_coe_finsetCard, List.toFinset_card_of_nodup r.texts.nodup_keys,
    Table.keys, List.length_map]
  rfl

/-- What a store has ahead of a cursor is what is to be found. -/
theorem finds_ahead (s : Store) (start : String) (cursor : Option String) :
    Finds s.get? start cursor (s.ahead start cursor) := by
  refine ⟨s.sorted_ahead start cursor, fun key => ?_⟩
  rw [Store.mem_ahead, Store.listed, List.mem_filter, Store.mem_keys, startsWith_iff, and_assoc]

theorem Keeps.isSortedMap (h : r.Keeps m) {s : Store} (hs : s.get? = m) : r.IsSortedMap m := by
  refine ⟨h.sorted, fun key => (h.mem key).trans (h.mem_texts key).symm, h.get, h.size_eq,
    fun key => ?_, fun start cursor limit hlimit hcursor => ?_⟩
  · obtain ⟨r', hdelete, -⟩ := exists_delete h key
    exact ⟨r', hdelete⟩
  · have hne : cursor ≠ some "" := fun heq => (hcursor "" heq).1 rfl
    have hstart : ∀ c ∈ cursor, Store.startsWith start c = true := fun c hc =>
      startsWith_iff.mpr (hcursor c hc).2
    have hlist := (list_eq_page (h.keys_eq hs) start cursor limit).trans
      (Store.page_of_cursor hne hstart hlimit)
    refine ⟨s.ahead start cursor, _, hs ▸ finds_ahead s start cursor, hlist, rfl,
      fun hall => if_pos hall, fun hmore => ?_⟩
    have hlength : ((s.ahead start cursor).take limit).length ≠ 0 := by
      rw [List.length_take]
      omega
    obtain ⟨last, hlast⟩ := Option.ne_none_iff_exists'.mp fun hnone =>
      hlength (congrArg List.length (List.getLast?_eq_none_iff.mp hnone))
    exact ⟨last, hlast, (if_neg (Nat.not_le_of_lt hmore)).trans hlast⟩

/-- After any changes of an empty register it is the map that the changes give, and its keys are
in order. -/
theorem sorted_map_of_changes (changes : List Change) :
    ∃ r, empty.changeAll changes = some r ∧ r.IsSortedMap (valuesAfter changes) := by
  obtain ⟨r, hchanges, hkeeps⟩ := exists_changeAll keeps_empty changes
  obtain ⟨s, hs⟩ := exists_store changes
  exact ⟨r, hchanges, hkeeps.isSortedMap hs⟩

end Register

end Storyline.Kv
