/-!
# The key-value store

Texts under keys, kept in the order of the keys, so that the keys with a common
start lie together and a listing can be read page by page.

- `Store`: the entries, in strictly ascending order of their keys;
- `Store.get?`, `Store.put`, `Store.delete`: the map;
- `Store.page`: the keys with a start, after a cursor, up to a limit.

The cursor of a page is its last key.
-/

namespace Storyline.Kv

/-- Entries in strictly ascending order of their keys. -/
structure Store where
  entries : List (String × String)
  sorted : entries.Pairwise fun a b => a.1 < b.1

namespace Store

/-- Entries with a value for a key, in the place that the order gives it. -/
def insertEntry (key value : String) : List (String × String) → List (String × String)
  | [] => [(key, value)]
  | e :: es =>
    if e.1 = key then (key, value) :: es
    else if key < e.1 then (key, value) :: e :: es
    else e :: insertEntry key value es

theorem mem_insertEntry {key value : String} {e : String × String}
    {es : List (String × String)} (h : e ∈ insertEntry key value es) :
    e = (key, value) ∨ e ∈ es := by
  induction es with
  | nil => simpa [insertEntry] using h
  | cons d ds ih =>
    simp only [insertEntry] at h
    split at h
    · rcases List.mem_cons.1 h with rfl | h
      · exact .inl rfl
      · exact .inr (List.mem_cons_of_mem d h)
    · split at h
      · rcases List.mem_cons.1 h with rfl | h
        · exact .inl rfl
        · exact .inr h
      · rcases List.mem_cons.1 h with rfl | h
        · exact .inr List.mem_cons_self
        · exact (ih h).imp_right (List.mem_cons_of_mem d)

/-- Of two different keys one comes first. -/
theorem lt_of_ne_of_not_lt {a b : String} (hne : b ≠ a) (hlt : ¬ a < b) : b < a := by
  rcases Decidable.em (b < a) with h | h
  · exact h
  · exact absurd (String.le_antisymm (String.not_lt.1 hlt) (String.not_lt.1 h)) hne

theorem sorted_insertEntry (key value : String) {es : List (String × String)}
    (h : es.Pairwise fun a b => a.1 < b.1) :
    (insertEntry key value es).Pairwise fun a b => a.1 < b.1 := by
  induction es with
  | nil => simp [insertEntry]
  | cons d ds ih =>
    obtain ⟨hd, hs⟩ := List.pairwise_cons.1 h
    simp only [insertEntry]
    split
    · rename_i hk
      exact List.pairwise_cons.2 ⟨fun e he => hk ▸ hd e he, hs⟩
    · rename_i hk
      split
      · rename_i hlt
        refine List.pairwise_cons.2 ⟨?_, h⟩
        intro e he
        rcases List.mem_cons.1 he with rfl | he
        · exact hlt
        · exact String.lt_trans hlt (hd e he)
      · rename_i hlt
        refine List.pairwise_cons.2 ⟨?_, ih hs⟩
        intro e he
        rcases mem_insertEntry he with rfl | he
        · exact lt_of_ne_of_not_lt hk hlt
        · exact hd e he

/-- The store without entries. -/
def empty : Store := ⟨[], List.Pairwise.nil⟩

instance : Inhabited Store := ⟨empty⟩

/-- The value of a key. -/
def get? (s : Store) (key : String) : Option String :=
  (s.entries.find? (·.1 = key)).map (·.2)

/-- Give a key a value. -/
def put (s : Store) (key value : String) : Store :=
  ⟨insertEntry key value s.entries, sorted_insertEntry key value s.sorted⟩

/-- The store without a key. -/
def erase (s : Store) (key : String) : Store :=
  ⟨s.entries.filter (·.1 != key), s.sorted.filter _⟩

/-- Take a key away; the truth value says whether it was there. -/
def delete (s : Store) (key : String) : Bool × Store := ((s.get? key).isSome, s.erase key)

/-- The keys, ascending. -/
def keys (s : Store) : List String := s.entries.map Prod.fst

/-- The number of keys. -/
def size (s : Store) : Nat := s.entries.length

/-- The key starts with a text. -/
def startsWith (start key : String) : Bool := start.toList.isPrefixOf key.toList

/-- The keys after a cursor, or from a start on if there is none.  An empty cursor is
none. -/
def keysFrom (s : Store) (start : String) (cursor : Option String) : List String :=
  match cursor with
  | none | some "" => s.keys.dropWhile (· < start)
  | some c => s.keys.dropWhile (· ≤ c)

/-- Some keys, and the cursor of the next page if there is one. -/
structure Page where
  keys : List String
  cursor : Option String
  deriving DecidableEq, Repr

/-- Up to `limit` of some keys.  A page that may hold nothing has no last key to go
on from: it is no page unless there is nothing to hold.  A negative limit is
none. -/
def cut (limit : Int) (keys : List String) : Option Page :=
  if limit < 0 ∨ (keys.length : Int) ≤ limit then some ⟨keys, none⟩
  else
    match (keys.take limit.toNat).getLast? with
    | some last => some ⟨keys.take limit.toNat, some last⟩
    | none => none

/-- The next page of the keys that start with a text. -/
def page (s : Store) (start : String) (cursor : Option String) (limit : Int) : Option Page :=
  cut limit ((s.keysFrom start cursor).takeWhile (startsWith start))

end Store

end Storyline.Kv
