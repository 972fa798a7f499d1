import Storyline.Storage.Disk

/-!
# Written paths

A path as people write it: names with slashes between them.  Empty names and single
points say nothing and are left out, so that a path has one written form.  A path
that starts with a slash is a whole path; one that starts with exactly two is a whole
path of another kind and keeps them both.

- `Route.read`, `Route.written`: from and to text;
- `Route.join`: a path seen from another one;
- `Route.below`: names below a path.
-/

namespace Storyline.Storage

/-- A path: the slashes that it starts with, and its names. -/
structure Route where
  start : String
  names : Path
  deriving DecidableEq, Repr

namespace Route

/-- The names of a written path. -/
def namesOf (s : String) : Path := (s.splitOn "/").filter fun n => n != "" && n != "."

/-- The slashes that a path starts with. -/
def startOf : List Char → String
  | '/' :: '/' :: '/' :: _ => "/"
  | '/' :: '/' :: _ => "//"
  | '/' :: _ => "/"
  | _ => ""

/-- A path from its text. -/
def read (s : String) : Route := ⟨startOf s.toList, namesOf s⟩

/-- The text of a path; a path without names leads to where one is. -/
def written (r : Route) : String :=
  if r.start = "" ∧ r.names = [] then "." else r.start ++ "/".intercalate r.names

/-- A path seen from another one: a whole path stands for itself. -/
def join (r next : Route) : Route :=
  if next.start = "" then ⟨r.start, r.names ++ next.names⟩ else next

/-- The path to names below a path. -/
def below (r : Route) (names : Path) : Route := ⟨r.start, r.names ++ names⟩

/-- Every name of a written path says something. -/
theorem ne_of_mem_namesOf {s n : String} (h : n ∈ namesOf s) : n ≠ "" ∧ n ≠ "." := by
  rw [namesOf, List.mem_filter, Bool.and_eq_true, bne_iff_ne, bne_iff_ne] at h
  exact h.2

@[simp] theorem join_below (r : Route) (names : Path) : r.join ⟨"", names⟩ = r.below names := rfl

/-- Names below names below a path. -/
@[simp] theorem below_below (r : Route) (ns ms : Path) :
    (r.below ns).below ms = r.below (ns ++ ms) := by
  simp [below, List.append_assoc]

end Route

end Storyline.Storage
