import Storyline.Kv.Store
import Storyline.Table

/-!
# A store in two parts

The texts lie in a table in the order in which they came, and the keys stand in order in a list
beside it.  A place in the list is found by halving, so that a change or a listing need not go
through all keys.  Nothing but the operations keeps the two parts in step.

- `bisect`: the place up to which keys pass a test;
- `Register.placeOf`, `Register.placeAfter`: the place of a key, and the place after it;
- `Register.get?`, `Register.put`, `Register.delete`: the map;
- `Register.list`: a page of the keys with a start.

It does what `Store` does, whose entries are one list.
-/

namespace Storyline.Kv

/-- The place in a stretch of keys up to which they pass a test: look at the key in the middle,
and go on in the half that is left. -/
def bisect (passes : String → Bool) (keys : List String) (low high : Nat) : Nat :=
  if low < high then
    if keys[(low + high) / 2]?.any passes then bisect passes keys ((low + high) / 2 + 1) high
    else bisect passes keys low ((low + high) / 2)
  else low
termination_by high - low

/-- Texts under keys, and the keys in order beside them. -/
structure Register where
  texts : Table String
  keys : List String

namespace Register

/-- The register without keys. -/
def empty : Register := ⟨∅, []⟩

/-- The place of the first key that is not below a text. -/
def placeOf (r : Register) (s : String) : Nat :=
  bisect (fun key => decide (key < s)) r.keys 0 r.keys.length

/-- The place of the first key above a text. -/
def placeAfter (r : Register) (s : String) : Nat :=
  bisect (fun key => ! decide (s < key)) r.keys 0 r.keys.length

/-- The value of a key. -/
def get? (r : Register) (key : String) : Option String := r.texts.get? key

/-- The number of keys. -/
def size (r : Register) : Nat := r.texts.size

/-- Give a key a value; a new key gets its place in the list. -/
def put (r : Register) (key value : String) : Register where
  texts := r.texts.insert key value
  keys := if r.texts.contains key then r.keys else r.keys.insertIdx (r.placeAfter key) key

/-- Take a key away; the truth value says whether it was there.  What stands at its place in the
list is taken away with it; if nothing stands there, this fails. -/
def delete (r : Register) (key : String) : Option (Bool × Register) :=
  if r.texts.contains key then
    if r.placeOf key < r.keys.length then
      some (true, ⟨r.texts.erase key, r.keys.eraseIdx (r.placeOf key)⟩)
    else none
  else some (false, r)

/-- Go on with a page over keys as long as they have a start.  A key for which there is no room
any more ends the page, and the last key on it is the cursor; if there is none, this fails. -/
def fill (start : String) (limit : Int) (page : List String) :
    List String → Option Store.Page
  | [] => some ⟨page, none⟩
  | key :: keys =>
    if Store.startsWith start key then
      if (page.length : Int) = limit then page.getLast?.map fun last => ⟨page, some last⟩
      else fill start limit (page ++ [key]) keys
    else some ⟨page, none⟩

/-- The place from which a page begins: after its cursor, or at the start if there is none.  An
empty cursor is none. -/
def firstPlace (r : Register) (start : String) (cursor : Option String) : Nat :=
  match cursor with
  | none | some "" => r.placeOf start
  | some c => r.placeAfter c

/-- The next page of the keys that start with a text. -/
def list (r : Register) (start : String) (cursor : Option String) (limit : Int) :
    Option Store.Page :=
  fill start limit [] (r.keys.drop (r.firstPlace start cursor))

end Register

end Storyline.Kv
