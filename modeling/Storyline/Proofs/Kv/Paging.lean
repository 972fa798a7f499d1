import Storyline.Kv.Store

/-!
# Listings, page by page

In the order of the keys those with a common start lie together, so that a page that breaks
off at the first other key has missed none, and the pages of a listing are together the keys
with the start, each once.

* `startsWith_of_between`: what lies between texts with a start has it too;
* `Store.listed`: the keys with a start; `Store.ahead`: those after a cursor;
* `Store.page_of_cursor`: the page after a cursor, which may itself be gone;
* `Store.get?_put`, `Store.get?_erase`: the store is a map.
-/

namespace Storyline.Kv

open Store

/-! ## Texts with a start -/

/-- A character is not below itself. -/
theorem char_irrefl (c : Char) : ¬ c < c := Std.Irrefl.irrefl c

/-- A start is not above what it starts. -/
theorem not_append_lt (ps cs : List Char) : ¬ ps ++ cs < ps := by
  induction ps with
  | nil => exact List.not_lt_nil _
  | cons p ps ih =>
    rw [List.cons_append, List.cons_lt_cons_iff, not_or]
    exact ⟨char_irrefl p, fun h => ih h.2⟩

theorem append_lt_append_iff (ps as bs : List Char) : ps ++ as < ps ++ bs ↔ as < bs := by
  induction ps with
  | nil => rfl
  | cons p ps ih =>
    rw [List.cons_append, List.cons_append, List.cons_lt_cons_iff, ih]
    exact ⟨fun h => (h.resolve_left (char_irrefl p)).2, fun h => Or.inr ⟨rfl, h⟩⟩

/-- Between a start and a text with it there are texts with it alone. -/
theorem isPrefix_of_between {ps bs cs : List Char} (hlow : ¬ bs < ps) (hhigh : bs < ps ++ cs) :
    ps <+: bs := by
  induction ps generalizing bs with
  | nil => exact List.nil_prefix
  | cons p ps ih =>
    cases bs with
    | nil => exact absurd (List.nil_lt_cons p ps) hlow
    | cons b bs =>
      rw [List.cons_lt_cons_iff, not_or] at hlow
      rw [List.cons_append, List.cons_lt_cons_iff] at hhigh
      obtain ⟨rfl, hrest⟩ := hhigh.resolve_left hlow.1
      have hbelow := ih (fun h => hlow.2 ⟨rfl, h⟩) hrest
      exact List.cons_prefix_cons.mpr ⟨rfl, hbelow⟩

theorem startsWith_iff {start key : String} :
    startsWith start key = true ↔ start.toList <+: key.toList := List.isPrefixOf_iff_prefix

theorem not_lt_of_startsWith {start key : String} (h : startsWith start key = true) :
    ¬ key < start := by
  obtain ⟨rest, hrest⟩ := startsWith_iff.mp h
  rw [String.lt_iff, ← hrest]
  exact not_append_lt _ _

/-- What lies between a start and a text with it has the start too. -/
theorem startsWith_of_between {start a b : String} (hlow : ¬ a < start) (hab : a < b)
    (h : startsWith start b = true) : startsWith start a = true := by
  obtain ⟨rest, hrest⟩ := startsWith_iff.mp h
  rw [String.lt_iff] at hlow hab
  rw [← hrest] at hab
  exact startsWith_iff.mpr (isPrefix_of_between hlow hab)

/-! ## Keys in order -/

section

variable {start : String} {keys : List String}

/-- From a start on, the keys with it come first. -/
theorem takeWhile_eq_filter (hsorted : keys.Pairwise (· < ·)) (hlow : ∀ key ∈ keys, ¬ key < start) :
    keys.takeWhile (startsWith start) = keys.filter (startsWith start) := by
  induction keys with
  | nil => rfl
  | cons key keys ih =>
    obtain ⟨hfirst, hrest⟩ := List.pairwise_cons.mp hsorted
    by_cases hkey : startsWith start key = true
    · rw [List.takeWhile_cons_of_pos hkey, List.filter_cons_of_pos hkey,
        ih hrest fun k hk => hlow k (List.mem_cons_of_mem key hk)]
    · rw [List.takeWhile_cons_of_neg hkey, List.filter_cons_of_neg hkey]
      refine (List.filter_eq_nil_iff.mpr fun k hk hstarts => hkey ?_).symm
      exact startsWith_of_between (hlow key (List.mem_cons_self ..)) (hfirst k hk) hstarts

theorem dropWhile_eq_filter (hsorted : keys.Pairwise (· < ·)) {p : String → Bool}
    (hp : ∀ a b, a < b → p b = true → p a = true) :
    keys.dropWhile p = keys.filter fun key => ! p key := by
  induction keys with
  | nil => rfl
  | cons key keys ih =>
    obtain ⟨hfirst, hrest⟩ := List.pairwise_cons.mp hsorted
    by_cases hkey : p key = true
    · rw [List.dropWhile_cons_of_pos hkey, List.filter_cons_of_neg (by simp [hkey]), ih hrest]
    · rw [List.dropWhile_cons_of_neg hkey]
      refine (List.filter_eq_self.mpr fun k hk => ?_).symm
      rcases List.mem_cons.mp hk with rfl | hk
      · simp [hkey]
      · rw [Bool.not_eq_true']
        exact Bool.eq_false_iff.mpr fun h => hkey (hp key k (hfirst k hk) h)

end

/-- After the last of the keys that come first there are the others. -/
theorem filter_above_last {done rest : List String} {last : String}
    (hsorted : (done ++ rest).Pairwise (· < ·)) (hlast : done.getLast? = some last) :
    (done ++ rest).filter (fun key => decide (last < key)) = rest := by
  obtain ⟨hdone, -, hbelow⟩ := List.pairwise_append.mp hsorted
  obtain ⟨before, rfl⟩ := List.getLast?_eq_some_iff.mp hlast
  have hle : ∀ key ∈ before ++ [last], ¬ last < key := by
    intro key hkey
    rcases List.mem_append.mp hkey with hkey | hkey
    · exact String.lt_asymm
        ((List.pairwise_append.mp hdone).2.2 key hkey last (List.mem_singleton_self last))
    · obtain rfl := List.mem_singleton.mp hkey
      exact String.lt_irrefl key
  have hnone : (before ++ [last]).filter (fun key => decide (last < key)) = [] :=
    List.filter_eq_nil_iff.mpr fun key hkey => by simp [hle key hkey]
  have hall : rest.filter (fun key => decide (last < key)) = rest :=
    List.filter_eq_self.mpr fun key hkey => by simp [hbelow last (by simp) key hkey]
  rw [List.filter_append, hnone, hall, List.nil_append]

namespace Store

variable {s : Store} {start : String}

/-! ## The map -/

theorem find?_insertEntry (key value other : String) (es : List (String × String)) :
    ((insertEntry key value es).find? (·.1 = other)).map (·.2) =
      if other = key then some value else (es.find? (·.1 = other)).map (·.2) := by
  induction es with
  | nil =>
    by_cases h : other = key
    · simp [insertEntry, h]
    · simp [insertEntry, h, Ne.symm h]
  | cons e es ih =>
    unfold insertEntry
    by_cases hkey : e.1 = key
    · rw [if_pos hkey]
      by_cases h : other = key
      · simp [h]
      · have hne : ¬ e.1 = other := fun heq => h (heq.symm.trans hkey)
        simp [h, Ne.symm h, hne]
    · rw [if_neg hkey]
      split
      · by_cases h : other = key
        · simp [h]
        · simp [h, Ne.symm h]
      · by_cases h : e.1 = other
        · have hne : ¬ other = key := fun heq => hkey (h.trans heq)
          simp [h, hne]
        · rw [List.find?_cons_of_neg (by simpa using h), ih,
            List.find?_cons_of_neg (by simpa using h)]

theorem get?_put (s : Store) (key value other : String) :
    (s.put key value).get? other = if other = key then some value else s.get? other :=
  find?_insertEntry key value other s.entries

theorem get?_erase (s : Store) (key other : String) :
    (s.erase key).get? other = if other = key then none else s.get? other := by
  unfold get? erase
  rw [List.find?_filter]
  by_cases h : other = key
  · rw [if_pos h, h, Option.map_eq_none_iff, List.find?_eq_none]
    intro e _
    simp
  · rw [if_neg h]
    congr 2
    funext e
    by_cases he : e.1 = other
    · simp [he, h]
    · simp [he]

/-- The keys are those that have a value. -/
theorem mem_keys {key : String} : key ∈ s.keys ↔ s.get? key ≠ none := by
  unfold keys get?
  rw [List.mem_map, ne_eq, Option.map_eq_none_iff, List.find?_eq_none]
  simp

/-! ## Pages -/

theorem sorted_keys (s : Store) : s.keys.Pairwise (· < ·) := List.pairwise_map.mpr s.sorted

/-- The keys that start with a text. -/
def listed (s : Store) (start : String) : List String := s.keys.filter (startsWith start)

theorem sorted_listed (s : Store) (start : String) : (s.listed start).Pairwise (· < ·) :=
  (sorted_keys s).filter _

theorem startsWith_of_mem_listed {key : String} (h : key ∈ s.listed start) :
    startsWith start key = true := (List.mem_filter.mp h).2

/-- The keys with a start that come after a cursor. -/
def ahead (s : Store) (start : String) (cursor : Option String) : List String :=
  (s.listed start).filter fun key => cursor.all (decide <| · < key)

theorem ahead_none (s : Store) (start : String) : s.ahead start none = s.listed start :=
  List.filter_eq_self.mpr fun _ _ => rfl

theorem mem_ahead {cursor : Option String} {key : String} :
    key ∈ s.ahead start cursor ↔ key ∈ s.listed start ∧ ∀ last ∈ cursor, last < key := by
  rw [ahead, List.mem_filter]
  cases cursor <;> simp

theorem sorted_ahead (s : Store) (start : String) (cursor : Option String) :
    (s.ahead start cursor).Pairwise (· < ·) := (sorted_listed s start).filter _

/-- What comes after the keys that were listed before. -/
theorem ahead_of_listed {done rest : List String} (h : s.listed start = done ++ rest) :
    s.ahead start done.getLast? = rest := by
  cases hlast : done.getLast? with
  | none =>
    rw [List.getLast?_eq_none_iff.mp hlast, List.nil_append] at h
    rw [ahead_none, h]
  | some last =>
    have hsorted := sorted_listed s start
    rw [h] at hsorted
    rw [ahead, h]
    exact filter_above_last hsorted hlast

/-- Behind a cursor there is what is above it. -/
theorem keysFrom_some {last : String} (hlast : last ≠ "") :
    s.keysFrom start (some last) = s.keys.dropWhile (· ≤ last) := by
  unfold keysFrom
  split
  · rename_i heq
    cases heq
  · rename_i heq
    exact absurd (Option.some_inj.mp heq) hlast
  · rename_i heq
    rw [Option.some_inj.mp heq]

/-- From a cursor with the start on, the keys with the start come first, whether the store has
the cursor or not. -/
theorem takeWhile_keysFrom {cursor : Option String} (hne : cursor ≠ some "")
    (hcursor : ∀ last ∈ cursor, startsWith start last = true) :
    (s.keysFrom start cursor).takeWhile (startsWith start) = s.ahead start cursor := by
  have hsorted := sorted_keys s
  cases cursor with
  | none =>
    have hkeys : s.keysFrom start none = s.keys.filter fun key => ! decide (key < start) :=
      dropWhile_eq_filter hsorted fun a b hab hb =>
        decide_eq_true (String.lt_trans hab (of_decide_eq_true hb))
    have hfirst : ∀ key ∈ s.keys.filter fun key => ! decide (key < start), ¬ key < start := by
      intro key hkey
      simpa using (List.mem_filter.mp hkey).2
    rw [ahead_none, hkeys, takeWhile_eq_filter (hsorted.filter _) hfirst, List.filter_filter,
      listed]
    refine List.filter_congr fun key _ => ?_
    by_cases hkey : startsWith start key = true
    · simp [hkey, not_lt_of_startsWith hkey]
    · simp [hkey]
  | some last =>
    have hlow := not_lt_of_startsWith (hcursor last rfl)
    have hkeys : s.keysFrom start (some last) = s.keys.filter fun key => decide (last < key) := by
      rw [keysFrom_some fun hempty => hne (congrArg some hempty),
        dropWhile_eq_filter hsorted fun a b hab hb => decide_eq_true
          (String.le_trans (String.not_lt.mp (String.lt_asymm hab)) (of_decide_eq_true hb))]
      refine List.filter_congr fun key _ => Bool.eq_iff_iff.mpr ?_
      rw [Bool.not_eq_true', decide_eq_false_iff_not, decide_eq_true_eq, String.not_le]
    have hfirst : ∀ key ∈ s.keys.filter fun key => decide (last < key), ¬ key < start := by
      intro key hkey hlt
      have habove : last < key := by simpa using (List.mem_filter.mp hkey).2
      exact hlow (String.lt_trans habove hlt)
    rw [hkeys, takeWhile_eq_filter (hsorted.filter _) hfirst, ahead, listed, List.filter_filter,
      List.filter_filter]
    exact List.filter_congr fun key _ => Bool.and_comm _ _

/-- A cursor with a nonempty start is not empty. -/
theorem cursor_ne_empty (hstart : start ≠ "") {cursor : Option String}
    (hcursor : ∀ last ∈ cursor, startsWith start last = true) : cursor ≠ some "" := by
  rintro rfl
  have hnil := List.prefix_nil.mp (startsWith_iff.mp (hcursor "" rfl))
  exact hstart (String.toList_inj.mp hnil)

/-- The page after a cursor: the next keys, and the last of them as the cursor if there are
more. -/
theorem page_of_cursor {cursor : Option String} (hne : cursor ≠ some "")
    (hcursor : ∀ last ∈ cursor, startsWith start last = true) {n : Nat} (hn : 0 < n) :
    s.page start cursor n =
      some ⟨(s.ahead start cursor).take n, if (s.ahead start cursor).length ≤ n then none
        else ((s.ahead start cursor).take n).getLast?⟩ := by
  unfold page
  rw [takeWhile_keysFrom hne hcursor]
  generalize s.ahead start cursor = rest
  unfold cut
  by_cases hlength : rest.length ≤ n
  · have hlimit : (n : Int) < 0 ∨ (rest.length : Int) ≤ n := Or.inr (Int.ofNat_le.mpr hlength)
    rw [if_pos hlimit, if_pos hlength, List.take_of_length_le hlength]
  · have hlimit : ¬ ((n : Int) < 0 ∨ (rest.length : Int) ≤ n) := by omega
    rw [if_neg hlimit, if_neg hlength, Int.toNat_natCast]
    cases hlast : (rest.take n).getLast? with
    | none =>
      have hnil := List.getLast?_eq_none_iff.mp hlast
      have hzero : (rest.take n).length = 0 := by rw [hnil]; rfl
      rw [List.length_take] at hzero
      omega
    | some last => rfl

end Store

end Storyline.Kv
