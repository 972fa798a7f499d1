/-!
# JSON values

The value type shared by pack files, stored saves, settings and event payloads.
Integers and doubles are different kinds of number, and the members of an object
keep their order.

- `Json`: the values;
- `Json.Members`: the members of an object, with `get?`, `insert` and `ofList`;
- `Json.member?`: a member of a value that may be an object;
- `Json.depth`: how deeply a value is nested.

`insert` replaces the value of a member in place and adds a new one at the end,
so a member that is written twice has its last value at its first position.
-/

namespace Storyline

/-- A JSON value. -/
inductive Json where
  | null
  | bool (b : Bool)
  | int (n : Int)
  | float (x : Float)
  | str (s : String)
  | arr (items : List Json)
  | obj (members : List (String × Json))

namespace Json

instance : Inhabited Json := ⟨.null⟩

/-- The members of an object, in order. -/
abbrev Members := List (String × Json)

/-- The value of the first member of a name. -/
def Members.get? (name : String) : Members → Option Json
  | [] => none
  | (k, v) :: ms => if k = name then some v else Members.get? name ms

/-- Give a member a value: in place if the name is there, at the end otherwise. -/
def Members.insert (name : String) (value : Json) : Members → Members
  | [] => [(name, value)]
  | (k, v) :: ms =>
    if k = name then (k, value) :: ms else (k, v) :: Members.insert name value ms

/-- Members as they stand after being written one after another. -/
def Members.ofList (ms : List (String × Json)) : Members :=
  ms.foldl (fun acc m => acc.insert m.1 m.2) []

/-- The member of a name, if the value is an object that has it. -/
def member? (name : String) : Json → Option Json
  | .obj ms => Members.get? name ms
  | _ => none

mutual

/-- How deeply lists and objects are nested in a value. -/
def depth : Json → Nat
  | .arr xs => itemsDepth xs + 1
  | .obj ms => membersDepth ms + 1
  | _ => 0

/-- The greatest depth of the items. -/
def itemsDepth : List Json → Nat
  | [] => 0
  | x :: xs => max (depth x) (itemsDepth xs)

/-- The greatest depth of the members. -/
def membersDepth : List (String × Json) → Nat
  | [] => 0
  | (_, v) :: ms => max (depth v) (membersDepth ms)

end

/-- A text or null. -/
def ofOption : Option String → Json
  | none => .null
  | some s => .str s

/-- A list of texts. -/
def texts (ss : List String) : Json := .arr (ss.map .str)

@[simp] theorem Members.get?_nil (name : String) : Members.get? name [] = none := rfl

theorem Members.get?_cons (name k : String) (v : Json) (ms : Members) :
    Members.get? name ((k, v) :: ms) = if k = name then some v else Members.get? name ms := rfl

/-- What was inserted is found. -/
@[simp] theorem Members.get?_insert_self (name : String) (value : Json) (ms : Members) :
    (ms.insert name value).get? name = some value := by
  induction ms with
  | nil => simp [insert, get?]
  | cons m ms ih =>
    obtain ⟨k, v⟩ := m
    by_cases h : k = name <;> simp [insert, get?, h, ih]

/-- Inserting one member leaves the others. -/
theorem Members.get?_insert_of_ne {name other : String} (h : other ≠ name) (value : Json)
    (ms : Members) : (ms.insert name value).get? other = ms.get? other := by
  induction ms with
  | nil => simp [insert, get?, h.symm]
  | cons m ms ih =>
    obtain ⟨k, v⟩ := m
    by_cases hk : k = name
    · subst hk; simp [insert, get?, h.symm]
    · simp only [insert, if_neg hk, get?, ih]

end Json

end Storyline
