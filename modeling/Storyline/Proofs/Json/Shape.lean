import Mathlib.Data.List.Basic
import Storyline.Json.Leaves

/-!
# The shape of a value

Facts about a value that speak of its leaves: the numbers in it, and the value with
its doubles replaced.

* `induct`: induction over values;
* `leaves_arr`, `doubles_arr`, `wholes_arr`, `fits_arr`, …: the leaves, the numbers and their
  limit, constructor by constructor;
* `withDoubles`: a value with something in place of each double, and what that leaves of it;
* `Distinct`: no object names a member twice.
-/

namespace Storyline.Json

/-- Induction over values, where all items and all members may be assumed. -/
@[elab_as_elim]
theorem induct {motive : Json → Prop} (null : motive .null) (bool : ∀ b, motive (.bool b))
    (int : ∀ n, motive (.int n)) (float : ∀ x, motive (.float x)) (str : ∀ s, motive (.str s))
    (arr : ∀ xs, (∀ x ∈ xs, motive x) → motive (.arr xs))
    (obj : ∀ ms, (∀ m ∈ ms, motive m.2) → motive (.obj ms)) (v : Json) : motive v :=
  match v with
  | .null => null
  | .bool b => bool b
  | .int n => int n
  | .float x => float x
  | .str s => str s
  | .arr xs => arr xs fun x _ => induct null bool int float str arr obj x
  | .obj ms => obj ms fun m _ => induct null bool int float str arr obj m.2
termination_by sizeOf v
decreasing_by
  · rename_i hx
    have hlt := List.sizeOf_lt_of_mem hx
    simp only [Json.arr.sizeOf_spec]
    omega
  · rename_i hm
    have hlt := List.sizeOf_lt_of_mem hm
    have hpair : sizeOf m = 1 + sizeOf m.1 + sizeOf m.2 := by
      cases m
      rfl
    simp only [Json.obj.sizeOf_spec]
    omega

theorem leaves_arr (xs : List Json) : (Json.arr xs).leaves = xs.flatMap leaves := by
  rw [leaves]
  induction xs with
  | nil => rfl
  | cons x xs ih => rw [itemLeaves, ih, List.flatMap_cons]

theorem leaves_obj (ms : Members) : (Json.obj ms).leaves = ms.flatMap (·.2.leaves) := by
  rw [leaves]
  induction ms with
  | nil => rfl
  | cons m ms ih => rw [memberLeaves, ih, List.flatMap_cons]

@[simp] theorem doubles_null : doubles .null = [] := rfl

@[simp] theorem doubles_bool (b : Bool) : doubles (.bool b) = [] := rfl

@[simp] theorem doubles_int (n : Int) : doubles (.int n) = [] := rfl

@[simp] theorem doubles_float (x : Float) : doubles (.float x) = [x] := rfl

@[simp] theorem doubles_str (s : String) : doubles (.str s) = [] := rfl

@[simp] theorem doubles_arr (xs : List Json) : (Json.arr xs).doubles = xs.flatMap doubles := by
  rw [doubles, leaves_arr, List.filterMap_flatMap]
  rfl

@[simp] theorem doubles_obj (ms : Members) : (Json.obj ms).doubles = ms.flatMap (·.2.doubles) := by
  rw [doubles, leaves_obj, List.filterMap_flatMap]
  rfl

@[simp] theorem wholes_null : wholes .null = [] := rfl

@[simp] theorem wholes_bool (b : Bool) : wholes (.bool b) = [] := rfl

@[simp] theorem wholes_int (n : Int) : wholes (.int n) = [n] := rfl

@[simp] theorem wholes_float (x : Float) : wholes (.float x) = [] := rfl

@[simp] theorem wholes_str (s : String) : wholes (.str s) = [] := rfl

@[simp] theorem wholes_arr (xs : List Json) : (Json.arr xs).wholes = xs.flatMap wholes := by
  rw [wholes, leaves_arr, List.filterMap_flatMap]
  rfl

@[simp] theorem wholes_obj (ms : Members) : (Json.obj ms).wholes = ms.flatMap (·.2.wholes) := by
  rw [wholes, leaves_obj, List.filterMap_flatMap]
  rfl

mutual

/-- A value with something in place of each double. -/
def withDoubles (f : Float → Json) : Json → Json
  | .float x => f x
  | .arr xs => .arr (itemsWithDoubles f xs)
  | .obj ms => .obj (membersWithDoubles f ms)
  | v => v

/-- Items with something in place of each double. -/
def itemsWithDoubles (f : Float → Json) : List Json → List Json
  | [] => []
  | x :: xs => withDoubles f x :: itemsWithDoubles f xs

/-- Members with something in place of each double. -/
def membersWithDoubles (f : Float → Json) : List (String × Json) → List (String × Json)
  | [] => []
  | (k, v) :: ms => (k, withDoubles f v) :: membersWithDoubles f ms

end

@[simp] theorem withDoubles_null (f : Float → Json) : withDoubles f .null = .null := rfl

@[simp] theorem withDoubles_bool (f : Float → Json) (b : Bool) :
    withDoubles f (.bool b) = .bool b := rfl

@[simp] theorem withDoubles_int (f : Float → Json) (n : Int) :
    withDoubles f (.int n) = .int n := rfl

@[simp] theorem withDoubles_float (f : Float → Json) (x : Float) :
    withDoubles f (.float x) = f x := rfl

@[simp] theorem withDoubles_str (f : Float → Json) (s : String) :
    withDoubles f (.str s) = .str s := rfl

@[simp] theorem withDoubles_arr (f : Float → Json) (xs : List Json) :
    withDoubles f (.arr xs) = .arr (xs.map (withDoubles f)) := by
  rw [withDoubles]
  congr 1
  induction xs with
  | nil => rfl
  | cons x xs ih => rw [itemsWithDoubles, ih, List.map_cons]

@[simp] theorem withDoubles_obj (f : Float → Json) (ms : Members) :
    withDoubles f (.obj ms) = .obj (ms.map fun m => (m.1, withDoubles f m.2)) := by
  rw [withDoubles]
  congr 1
  induction ms with
  | nil => rfl
  | cons m ms ih => rw [membersWithDoubles, ih, List.map_cons]

/-- Where doubles stand for themselves nothing is replaced. -/
theorem withDoubles_eq_self {f : Float → Json} {v : Json} (h : ∀ x ∈ v.doubles, f x = .float x) :
    v.withDoubles f = v := by
  induction v using induct with
  | null | bool | int | str => rfl
  | float x => exact h x (by simp)
  | arr xs ih =>
    rw [withDoubles_arr]
    congr 1
    have hid : xs.map (withDoubles f) = xs.map id := by
      refine List.map_congr_left fun x hx => ih x hx fun y hy => h y ?_
      rw [doubles_arr, List.mem_flatMap]
      exact ⟨x, hx, hy⟩
    rw [hid, List.map_id]
  | obj ms ih =>
    rw [withDoubles_obj]
    congr 1
    have hid : ms.map (fun m => (m.1, withDoubles f m.2)) = ms.map id := by
      refine List.map_congr_left fun m hm => ?_
      rw [ih m hm fun y hy => h y (by rw [doubles_obj, List.mem_flatMap]; exact ⟨m, hm, hy⟩)]
      rfl
    rw [hid, List.map_id]

@[simp] theorem fits_null (limit : Option Nat) : fits limit .null = true := rfl

@[simp] theorem fits_bool (limit : Option Nat) (b : Bool) : fits limit (.bool b) = true := rfl

@[simp] theorem fits_float (limit : Option Nat) (x : Float) : fits limit (.float x) = true := rfl

@[simp] theorem fits_str (limit : Option Nat) (s : String) : fits limit (.str s) = true := rfl

theorem fits_int (limit : Option Nat) (n : Int) :
    fits limit (.int n) = ! limit.any (· < Decimal.digitCount n.natAbs) := by
  simp [fits]

@[simp] theorem fits_arr (limit : Option Nat) (xs : List Json) :
    fits limit (.arr xs) = xs.all (fits limit) := by
  rw [fits, wholes_arr, List.all_flatMap]
  rfl

@[simp] theorem fits_obj (limit : Option Nat) (ms : Members) :
    fits limit (.obj ms) = ms.all fun m => m.2.fits limit := by
  rw [fits, wholes_obj, List.all_flatMap]
  rfl

/-- No object in the value names a member twice. -/
inductive Distinct : Json → Prop
  | null : Distinct .null
  | bool (b : Bool) : Distinct (.bool b)
  | int (n : Int) : Distinct (.int n)
  | float (x : Float) : Distinct (.float x)
  | str (s : String) : Distinct (.str s)
  | arr {xs : List Json} (items : ∀ x ∈ xs, Distinct x) : Distinct (.arr xs)
  | obj {ms : Members} (names : (ms.map Prod.fst).Nodup) (values : ∀ m ∈ ms, Distinct m.2) :
    Distinct (.obj ms)

/-! ## A value with something in place of its doubles -/

section

variable {f : Float → Json}

/-- The doubles are those of what stands in their place. -/
theorem doubles_withDoubles (f : Float → Json) (v : Json) :
    (v.withDoubles f).doubles = v.doubles.flatMap fun x => (f x).doubles := by
  induction v using induct with
  | null | bool | int | str => rfl
  | float x => simp
  | arr xs ih =>
    rw [withDoubles_arr, doubles_arr, doubles_arr, List.flatMap_map, List.flatMap_assoc]
    exact List.flatMap_congr ih
  | obj ms ih =>
    rw [withDoubles_obj, doubles_obj, doubles_obj, List.flatMap_map, List.flatMap_assoc]
    exact List.flatMap_congr ih

/-- The whole numbers stay, if none stand in place of doubles. -/
theorem wholes_withDoubles (hf : ∀ x, (f x).wholes = []) (v : Json) :
    (v.withDoubles f).wholes = v.wholes := by
  induction v using induct with
  | null | bool | int | str => rfl
  | float x => exact hf x
  | arr xs ih =>
    rw [withDoubles_arr, wholes_arr, wholes_arr, List.flatMap_map]
    exact List.flatMap_congr ih
  | obj ms ih =>
    rw [withDoubles_obj, wholes_obj, wholes_obj, List.flatMap_map]
    exact List.flatMap_congr ih

theorem fits_withDoubles (hf : ∀ x, (f x).wholes = []) (limit : Option Nat) (v : Json) :
    (v.withDoubles f).fits limit = v.fits limit := by
  rw [fits, wholes_withDoubles hf, fits]

theorem Distinct.withDoubles (hf : ∀ x, (f x).Distinct) {v : Json} (h : v.Distinct) :
    (v.withDoubles f).Distinct := by
  induction h with
  | null => exact .null
  | bool b => exact .bool b
  | int n => exact .int n
  | float x => exact hf x
  | str s => exact .str s
  | @arr xs _ ih =>
    rw [withDoubles_arr]
    refine .arr fun y hy => ?_
    obtain ⟨x, hx, rfl⟩ := List.mem_map.mp hy
    exact ih x hx
  | @obj ms names _ ih =>
    rw [withDoubles_obj]
    refine .obj ?_ fun n hn => ?_
    · rw [List.map_map]
      exact names
    · obtain ⟨m, hm, rfl⟩ := List.mem_map.mp hn
      exact ih m hm

/-- Nothing is replaced only where doubles stand for themselves. -/
theorem eq_float_of_withDoubles {v : Json} (h : v.withDoubles f = v) :
    ∀ x ∈ v.doubles, f x = .float x := by
  induction v using induct with
  | null | bool | int | str => exact nofun
  | float x =>
    intro y hy
    rw [List.mem_singleton.mp hy]
    exact h
  | arr xs ih =>
    rw [withDoubles_arr, Json.arr.injEq] at h
    intro y hy
    obtain ⟨x, hx, hy⟩ := List.mem_flatMap.mp ((doubles_arr xs) ▸ hy)
    exact ih x hx (List.map_inj_left.mp (h.trans xs.map_id.symm) x hx) y hy
  | obj ms ih =>
    rw [withDoubles_obj, Json.obj.injEq] at h
    intro y hy
    obtain ⟨m, hm, hy⟩ := List.mem_flatMap.mp ((doubles_obj ms) ▸ hy)
    have hsame := List.map_inj_left.mp (h.trans ms.map_id.symm) m hm
    exact ih m hm (Prod.ext_iff.mp hsame).2 y hy

end

/-- A new member goes to the end. -/
theorem Members.insert_of_not_mem {name : String} {ms : Members} (h : name ∉ ms.map Prod.fst)
    (value : Json) : ms.insert name value = ms ++ [(name, value)] := by
  induction ms with
  | nil => rfl
  | cons m ms ih =>
    rw [List.map_cons, List.mem_cons, not_or] at h
    rw [Members.insert, if_neg (Ne.symm h.1), ih h.2, List.cons_append]

/-- Members with distinct names stand as they were written. -/
theorem Members.ofList_of_nodup {ms : Members} (h : (ms.map Prod.fst).Nodup) :
    Members.ofList ms = ms := by
  have hfold : ∀ (ms acc : Members), ((acc ++ ms).map Prod.fst).Nodup →
      ms.foldl (fun acc m => Members.insert m.1 m.2 acc) acc = acc ++ ms := by
    intro ms
    induction ms with
    | nil => intro acc _; rw [List.foldl_nil, List.append_nil]
    | cons m ms ih =>
      intro acc hacc
      have hnew : m.1 ∉ acc.map Prod.fst := by
        rw [List.map_append, List.nodup_append] at hacc
        exact fun hmem => hacc.2.2 m.1 hmem m.1 (by simp) rfl
      rw [List.foldl_cons, Members.insert_of_not_mem hnew, ih, List.append_assoc]
      · rfl
      · rw [List.append_assoc]
        exact hacc
  exact hfold ms [] h

end Storyline.Json
