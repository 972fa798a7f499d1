/-!
# Ordered tables

A finite map from names to values that keeps the order in which names were first
added.  Flags, settings and the records of a content pack are tables.

- `Table.insert`: a new value for a name, in place if the name is there;
- `Table.get?`, `Table.keys`, `Table.values`: the views;
- `Table.ofList`: entries written one after another;
- `get?_insert_self`, `get?_insert_of_ne`, `keys_insert`: what an insertion does to
  the views.

That no name occurs twice is part of the type.
-/

namespace Storyline

/-- Entries with distinct names, in the order of their addition. -/
structure Table (α : Type) where
  entries : List (String × α)
  nodup : (entries.map Prod.fst).Nodup

namespace Table

variable {α : Type}

/-- The value of a name in a list of entries. -/
def lookup (name : String) : List (String × α) → Option α
  | [] => none
  | (k, v) :: es => if k = name then some v else lookup name es

/-- A list of entries with a new value for a name. -/
def update (name : String) (value : α) : List (String × α) → List (String × α)
  | [] => [(name, value)]
  | (k, v) :: es => if k = name then (k, value) :: es else (k, v) :: update name value es

theorem map_fst_update (name : String) (value : α) (es : List (String × α)) :
    (update name value es).map Prod.fst =
      if name ∈ es.map Prod.fst then es.map Prod.fst else es.map Prod.fst ++ [name] := by
  induction es with
  | nil => simp [update]
  | cons e es ih =>
    obtain ⟨k, v⟩ := e
    by_cases h : k = name
    · simp [update, h]
    · simp only [update, if_neg h, List.map_cons, ih, List.mem_cons, Ne.symm h, false_or]
      split <;> rfl

theorem nodup_update (name : String) (value : α) {es : List (String × α)}
    (h : (es.map Prod.fst).Nodup) : ((update name value es).map Prod.fst).Nodup := by
  rw [map_fst_update]
  split
  · exact h
  · rename_i hn
    rw [List.nodup_append]
    refine ⟨h, by simp, ?_⟩
    intro a ha b hb hab
    rw [List.mem_singleton] at hb
    exact hn (hb ▸ hab ▸ ha)

/-- The table without entries. -/
def empty : Table α := ⟨[], List.nodup_nil⟩

instance : EmptyCollection (Table α) := ⟨empty⟩

instance : Inhabited (Table α) := ⟨empty⟩

/-- The value of a name. -/
def get? (t : Table α) (name : String) : Option α := lookup name t.entries

/-- The name has a value. -/
def contains (t : Table α) (name : String) : Bool := (t.get? name).isSome

/-- Give a name a value: in place if it is there, at the end otherwise. -/
def insert (t : Table α) (name : String) (value : α) : Table α :=
  ⟨update name value t.entries, nodup_update name value t.nodup⟩

/-- Give a name a value unless it has one. -/
def insertIfNew (t : Table α) (name : String) (value : α) : Table α :=
  if t.contains name then t else t.insert name value

/-- Take a name and its value away. -/
def erase (t : Table α) (name : String) : Table α :=
  ⟨t.entries.filter (·.1 != name),
    List.Nodup.sublist (List.Sublist.map Prod.fst List.filter_sublist) t.nodup⟩

/-- The names, in order. -/
def keys (t : Table α) : List String := t.entries.map Prod.fst

/-- The values, in order. -/
def values (t : Table α) : List α := t.entries.map Prod.snd

/-- The number of entries. -/
def size (t : Table α) : Nat := t.entries.length

/-- Entries written one after another into an empty table. -/
def ofList (es : List (String × α)) : Table α :=
  es.foldl (fun t e => t.insert e.1 e.2) empty

@[ext] theorem ext {s t : Table α} (h : s.entries = t.entries) : s = t := by
  cases s; cases t; cases h; rfl

instance [DecidableEq α] : DecidableEq (Table α) := fun s t =>
  decidable_of_iff (s.entries = t.entries) ⟨ext, congrArg entries⟩

theorem lookup_update_self (name : String) (value : α) (es : List (String × α)) :
    lookup name (update name value es) = some value := by
  induction es with
  | nil => simp [update, lookup]
  | cons e es ih =>
    obtain ⟨k, v⟩ := e
    by_cases h : k = name <;> simp [update, lookup, h, ih]

theorem lookup_update_of_ne {name other : String} (h : other ≠ name) (value : α)
    (es : List (String × α)) : lookup other (update name value es) = lookup other es := by
  induction es with
  | nil => simp [update, lookup, h.symm]
  | cons e es ih =>
    obtain ⟨k, v⟩ := e
    by_cases hk : k = name
    · subst hk; simp [update, lookup, h.symm]
    · simp only [update, if_neg hk, lookup, ih]

@[simp] theorem get?_empty (name : String) : (empty : Table α).get? name = none := rfl

/-- What was inserted is found. -/
@[simp] theorem get?_insert_self (t : Table α) (name : String) (value : α) :
    (t.insert name value).get? name = some value :=
  lookup_update_self name value t.entries

/-- Inserting one name leaves the others. -/
theorem get?_insert_of_ne (t : Table α) {name other : String} (h : other ≠ name) (value : α) :
    (t.insert name value).get? other = t.get? other :=
  lookup_update_of_ne h value t.entries

/-- A new name goes to the end, an old one stays where it is. -/
theorem keys_insert (t : Table α) (name : String) (value : α) :
    (t.insert name value).keys = if name ∈ t.keys then t.keys else t.keys ++ [name] :=
  map_fst_update name value t.entries

theorem nodup_keys (t : Table α) : t.keys.Nodup := t.nodup

end Table

end Storyline
