import Mathlib.Data.List.Forall2
import Storyline.Proofs.Json.Halves
import Storyline.Proofs.Storage.Act

/-!
# How far a bundle is kept

What was read of import data may still have no text: a save in which half of a surrogate pair
stands alone, and a setting whose key is so, whose value is no JSON or has a number that is too
long.  The import ends at the first of them, and what stands before it has been written by then.

* `upTo`: the items of a list up to the first one that fails, and its failure;
* `Oddities.save`, `Oddities.setting`: what is kept of a save and of a setting, or why nothing is;
* `Bundle.kept`, `Bundle.stop?`: what is kept of a bundle, and why no more is;
* `Bundle.stop?_eq_none_iff`: when nothing stops it; `Bundle.kept_of_stop?`: then all of it is kept;
* `Bundle.Ordinary`: a bundle in which nothing is odd; `Bundle.kept_of_ordinary`,
  `Bundle.stop?_of_ordinary`: all of it is kept.
-/

namespace Storyline.Storage

/-! ## Up to the first failure -/

section UpTo

variable {α β : Type}

/-- What becomes of the items up to the first one that fails, and its failure. -/
def upTo (f : α → Except Failure β) : List α → List β × Option Failure
  | [] => ([], none)
  | x :: xs =>
    match f x with
    | .error e => ([], some e)
    | .ok y => (y :: (upTo f xs).1, (upTo f xs).2)

variable {f : α → Except Failure β} {x : α} {xs : List α}

theorem upTo_cons_of_ok {y : β} (h : f x = .ok y) :
    upTo f (x :: xs) = (y :: (upTo f xs).1, (upTo f xs).2) := by
  rw [upTo, h]

theorem upTo_cons_of_error {e : Failure} (h : f x = .error e) :
    upTo f (x :: xs) = ([], some e) := by
  rw [upTo, h]

/-- Items that stand for themselves are all there. -/
theorem upTo_of_ok {f : α → Except Failure α} (h : ∀ x ∈ xs, f x = .ok x) :
    upTo f xs = (xs, none) := by
  induction xs with
  | nil => rfl
  | cons x xs ih =>
    obtain ⟨hx, hxs⟩ := List.forall_mem_cons.mp h
    rw [upTo_cons_of_ok hx, ih hxs]

/-- What is there is what became of some item. -/
theorem exists_of_mem_upTo {y : β} (hy : y ∈ (upTo f xs).1) : ∃ x ∈ xs, f x = .ok y := by
  induction xs with
  | nil => cases hy
  | cons x xs ih =>
    cases hx : f x with
    | error e =>
      rw [upTo_cons_of_error hx] at hy
      cases hy
    | ok z =>
      rw [upTo_cons_of_ok hx] at hy
      rcases List.mem_cons.mp hy with rfl | hy
      · exact ⟨x, List.mem_cons_self, hx⟩
      · obtain ⟨w, hw, hyw⟩ := ih hy
        exact ⟨w, List.mem_cons_of_mem x hw, hyw⟩

/-- What the items have in common with what becomes of them is a first part of what they have. -/
theorem upTo_prefix {γ : Type} {g : α → γ} {k : β → γ} (h : ∀ x y, f x = .ok y → k y = g x) :
    (upTo f xs).1.map k <+: xs.map g := by
  induction xs with
  | nil => exact List.prefix_rfl
  | cons x xs ih =>
    cases hx : f x with
    | error e =>
      rw [upTo_cons_of_error hx]
      exact List.nil_prefix
    | ok y =>
      rw [upTo_cons_of_ok hx, List.map_cons, List.map_cons, h x y hx, List.prefix_cons_inj]
      exact ih

/-- Without a failure something has become of every item. -/
theorem forall₂_of_upTo (h : (upTo f xs).2 = none) :
    List.Forall₂ (fun x y => f x = .ok y) xs (upTo f xs).1 := by
  induction xs with
  | nil => exact .nil
  | cons x xs ih =>
    cases hx : f x with
    | error e =>
      rw [upTo_cons_of_error hx] at h
      cases h
    | ok y =>
      rw [upTo_cons_of_ok hx] at h ⊢
      exact .cons hx (ih h)

/-- There is a failure exactly if some item fails. -/
theorem upTo_eq_none_iff : (upTo f xs).2 = none ↔ ∀ x ∈ xs, ∃ y, f x = .ok y := by
  induction xs with
  | nil => exact iff_of_true rfl (List.forall_mem_nil _)
  | cons x xs ih =>
    rw [List.forall_mem_cons, ← ih]
    cases hx : f x with
    | error e =>
      rw [upTo_cons_of_error hx]
      exact iff_of_false nofun fun h => by obtain ⟨⟨y, hy⟩, -⟩ := h; cases hy
    | ok y =>
      rw [upTo_cons_of_ok hx]
      exact ⟨fun h => ⟨⟨y, rfl⟩, h⟩, fun h => h.2⟩

end UpTo

/-! ## Saves and settings -/

namespace Oddities

variable {o : Oddities} {m : String × Json}

/-- The save that is kept, or why it is not. -/
def save (o : Oddities) (s : Save) : Except Failure Save :=
  if o.tears s.toJson then .error (.escape .halfInText) else .ok s

/-- The setting that is kept, or why it is not. -/
def setting (o : Oddities) (m : String × Json) : Except Failure (String × Json) :=
  match o.valueOf m with
  | none => .error (.fault (.unserialisable m.1))
  | some v =>
    if ! v.fits (some Json.maxDigits) then .error (.escape .numberTooLong)
    else if o.tears (.str m.1) then .error (.escape .halfInKey)
    else .ok (m.1, v)

theorem save_eq_ok {s t : Save} (h : o.save s = .ok t) : t = s ∧ o.tears s.toJson = false := by
  unfold save at h
  by_cases htears : o.tears s.toJson = true
  · rw [if_pos htears] at h
    cases h
  · rw [if_neg htears] at h
    exact ⟨(Except.ok.inj h).symm, Bool.eq_false_iff.mpr htears⟩

theorem setting_eq_ok {n : String × Json} (h : o.setting m = .ok n) :
    n.1 = m.1 ∧ o.valueOf m = some n.2 ∧ n.2.fits (some Json.maxDigits) = true ∧
      o.tears (.str m.1) = false := by
  unfold setting at h
  cases hvalue : o.valueOf m with
  | none =>
    rw [hvalue] at h
    cases h
  | some v =>
    rw [hvalue] at h
    dsimp only at h
    cases hfits : v.fits (some Json.maxDigits) with
    | false =>
      rw [hfits] at h
      cases h
    | true =>
      rw [hfits] at h
      cases htears : o.tears (.str m.1) with
      | true =>
        rw [htears] at h
        cases h
      | false =>
        rw [htears] at h
        cases h
        exact ⟨rfl, rfl, hfits, rfl⟩

theorem save_eq_ok_iff {s : Save} : (∃ t, o.save s = .ok t) ↔ o.tears s.toJson = false := by
  refine ⟨fun ⟨t, ht⟩ => (save_eq_ok ht).2, fun h => ⟨s, ?_⟩⟩
  rw [save, if_neg (Bool.eq_false_iff.mp h)]

theorem setting_eq_ok_iff : (∃ n, o.setting m = .ok n) ↔ o.tears (.str m.1) = false ∧
    ∃ v, o.valueOf m = some v ∧ v.fits (some Json.maxDigits) = true := by
  constructor
  · rintro ⟨n, hn⟩
    obtain ⟨-, hvalue, hfits, htears⟩ := setting_eq_ok hn
    exact ⟨htears, n.2, hvalue, hfits⟩
  · rintro ⟨htears, v, hvalue, hfits⟩
    refine ⟨(m.1, v), ?_⟩
    rw [setting, hvalue]
    dsimp only
    rw [hfits, htears]
    rfl

end Oddities

/-! ## Bundles -/

namespace Bundle

variable {o : Oddities} {b : Bundle}

/-- What is kept of the bundle. -/
def kept (o : Oddities) (b : Bundle) : Bundle :=
  { b with
    saves := (upTo o.save b.saves).1
    settings := if (upTo o.save b.saves).2.isSome then [] else (upTo o.setting b.settings).1 }

/-- Why no more is kept of the bundle. -/
def stop? (o : Oddities) (b : Bundle) : Option Failure :=
  (upTo o.save b.saves).2.or (upTo o.setting b.settings).2

/-- What is kept are saves of the bundle in which no half stands alone. -/
theorem mem_saves_of_kept {s : Save} (h : s ∈ (b.kept o).saves) :
    s ∈ b.saves ∧ o.tears s.toJson = false := by
  obtain ⟨t, ht, hs⟩ := exists_of_mem_upTo h
  obtain ⟨rfl, hwhole⟩ := Oddities.save_eq_ok hs
  exact ⟨ht, hwhole⟩

theorem mem_settings_of_kept {n : String × Json} (h : n ∈ (b.kept o).settings) :
    ∃ m ∈ b.settings, o.setting m = .ok n := by
  unfold kept at h
  dsimp only at h
  split at h
  · cases h
  · exact exists_of_mem_upTo h

/-- The keys that are kept are the first ones of the bundle. -/
theorem keys_of_kept : (b.kept o).settings.map Prod.fst <+: b.settings.map Prod.fst := by
  unfold kept
  dsimp only
  split
  · exact List.nil_prefix
  · exact upTo_prefix fun m n hn => (Oddities.setting_eq_ok hn).1

/-- The import of a bundle gets to its end exactly if no half stands alone in a save or a key and
each setting has a value that can be written. -/
theorem stop?_eq_none_iff : b.stop? o = none ↔
    (∀ s ∈ b.saves, o.tears s.toJson = false) ∧ ∀ m ∈ b.settings, o.tears (.str m.1) = false ∧
      ∃ v, o.valueOf m = some v ∧ v.fits (some Json.maxDigits) = true := by
  rw [stop?, Option.or_eq_none_iff, upTo_eq_none_iff, upTo_eq_none_iff]
  simp only [Oddities.save_eq_ok_iff, Oddities.setting_eq_ok_iff]

/-- Then all saves are kept, and each setting with its value. -/
theorem kept_of_stop? (h : b.stop? o = none) : (b.kept o).saves = b.saves ∧
    List.Forall₂ (fun m n => n.1 = m.1 ∧ o.valueOf m = some n.2) b.settings
      (b.kept o).settings := by
  obtain ⟨hsaves, hsettings⟩ := Option.or_eq_none_iff.mp h
  constructor
  · have hsame := (forall₂_of_upTo hsaves).imp fun s t ht => (Oddities.save_eq_ok ht).1.symm
    exact (List.forall₂_eq_eq_eq ▸ hsame).symm
  · rw [kept, hsaves]
    exact (forall₂_of_upTo hsettings).imp fun m n hn =>
      ⟨(Oddities.setting_eq_ok hn).1, (Oddities.setting_eq_ok hn).2.1⟩

/-- No half stands alone in a save or a key of the bundle, and its settings are JSON values without
a number that is too long. -/
structure Ordinary (o : Oddities) (b : Bundle) : Prop where
  saves : ∀ s ∈ b.saves, o.tears s.toJson = false
  keys : ∀ m ∈ b.settings, o.tears (.str m.1) = false
  settings : ∀ m ∈ b.settings, o.valueOf m = some m.2
  fits : ∀ m ∈ b.settings, m.2.fits (some Json.maxDigits) = true

variable (h : b.Ordinary o)

include h

theorem upTo_of_ordinary : upTo o.save b.saves = (b.saves, none) ∧
    upTo o.setting b.settings = (b.settings, none) := by
  refine ⟨upTo_of_ok fun s hs => ?_, upTo_of_ok fun m hm => ?_⟩
  · rw [Oddities.save, if_neg (Bool.eq_false_iff.mp (h.saves s hs))]
  · rw [Oddities.setting, h.settings m hm]
    dsimp only
    rw [h.fits m hm, h.keys m hm]
    rfl

/-- All of an ordinary bundle is kept. -/
theorem kept_of_ordinary : b.kept o = b := by
  obtain ⟨hsaves, hsettings⟩ := upTo_of_ordinary h
  rw [kept, hsaves, hsettings]
  rfl

theorem stop?_of_ordinary : b.stop? o = none := by
  obtain ⟨hsaves, hsettings⟩ := upTo_of_ordinary h
  rw [stop?, hsaves, hsettings]
  rfl

end Bundle

end Storyline.Storage
