import Storyline.Json.Halves
import Storyline.Proofs.Json.Shape
import Storyline.Proofs.Json.Strings

/-!
# Halves that stand alone, found again

A stretch of marks that is longer than a text can be in a string that was read from the text
for one reason only.

* `hasStretch_eq_true_iff`: a stretch among characters;
* `hasLone`: among code units a half stands alone;
* `hasStretch_readString_iff`: a string that was read has a stretch exactly if a half stands alone
  among its code units;
* `length_le_writeAt`: no string of a value is longer than a text of the value;
* `hasHalf_write`: no half stands alone in a value that is read from its own text.
-/

namespace Storyline.Json

/-! ## Stretches -/

variable {width : Nat} {cs : List Char}

theorem hasStretch_eq_true_iff :
    hasStretch width cs = true ↔ List.replicate width mark <:+: cs := by
  induction cs with
  | nil => simp [hasStretch]
  | cons c cs ih =>
    rw [hasStretch, Bool.or_eq_true, List.isPrefixOf_iff_prefix, ih, List.infix_cons_iff]

/-- Among fewer characters there is no stretch. -/
theorem hasStretch_eq_false_of_length_lt (h : cs.length < width) : hasStretch width cs = false := by
  refine Bool.eq_false_iff.mpr fun hstretch => ?_
  have hle := (hasStretch_eq_true_iff.mp hstretch).length_le
  rw [List.length_replicate] at hle
  omega

/-! ## Strings that are read -/

/-- Among the code units a half stands alone. -/
def hasLone : List Nat → Bool
  | [] => false
  | [n] => isHalf n
  | n :: m :: us =>
    if isHighHalf n && isLowHalf m then hasLone us else isHalf n || hasLone (m :: us)

theorem replicate_isInfix_standIn (n : Nat) (cs ds : List Char) :
    List.replicate width mark <:+: cs ++ (standIn width n ++ ds) :=
  ⟨cs, [Char.ofNat (0xf0000 + (n - 0xd800))] ++ ds, by simp [standIn]⟩

/-- Where a half stands alone there is a stretch. -/
theorem stretch_of_hasLone {us : List Nat} (h : hasLone us = true) :
    List.replicate width mark <:+: joinUnits width us := by
  induction us using hasLone.induct with
  | case1 => cases h
  | case2 n =>
    rw [hasLone] at h
    rw [joinUnits, if_pos h]
    exact (replicate_isInfix_standIn n [] []).trans (by simp)
  | case3 n m us hpair ih =>
    rw [hasLone, if_pos hpair] at h
    rw [joinUnits, if_pos hpair]
    exact List.infix_cons (ih h)
  | case4 n m us hpair ih =>
    rw [hasLone, if_neg hpair, Bool.or_eq_true] at h
    rw [joinUnits, if_neg hpair]
    by_cases hhalf : isHalf n = true
    · rw [if_pos hhalf]
      exact replicate_isInfix_standIn n [] _
    · rw [if_neg hhalf]
      exact List.infix_cons (ih (h.resolve_left hhalf))

/-- Where no half stands alone there are no more characters than code units. -/
theorem length_joinUnits_le {us : List Nat} (h : hasLone us = false) :
    (joinUnits width us).length ≤ us.length := by
  induction us using hasLone.induct with
  | case1 => exact Nat.le_refl 0
  | case2 n =>
    rw [hasLone] at h
    rw [joinUnits, if_neg (Bool.eq_false_iff.mp h)]
    exact Nat.le_refl 1
  | case3 n m us hpair ih =>
    rw [hasLone, if_pos hpair] at h
    rw [joinUnits, if_pos hpair, List.length_cons, List.length_cons, List.length_cons]
    have hle := ih h
    omega
  | case4 n m us hpair ih =>
    rw [hasLone, if_neg hpair, Bool.or_eq_false_iff] at h
    rw [joinUnits, if_neg hpair, if_neg (Bool.eq_false_iff.mp h.1), List.length_cons,
      List.length_cons]
    exact Nat.succ_le_succ (ih h.2)

/-- There are no more code units than characters. -/
theorem length_le_of_readUnits {us : List Nat} {rest : List Char}
    (h : readUnits cs = .ok (us, rest)) : us.length ≤ cs.length := by
  have hmap : ∀ {n : Nat} {ds : List Char} {us : List Nat} {rest : List Char},
      (∀ {us rest}, readUnits ds = .ok (us, rest) → us.length ≤ ds.length) →
      (readUnits ds).map (fun p => (n :: p.1, p.2)) = .ok (us, rest) →
        us.length ≤ ds.length + 1 := by
    intro n ds us rest ih h
    cases hread : readUnits ds with
    | error e =>
      rw [hread] at h
      cases h
    | ok p =>
      rw [hread] at h
      cases h
      exact Nat.succ_le_succ (ih hread)
  induction cs using readUnits.induct generalizing us rest with
  | case1 => cases h
  | case2 cs =>
    cases h
    exact Nat.zero_le _
  | case3 a b c d cs n hn ih =>
    rw [readUnits, hn] at h
    have hle := hmap ih h
    simp only [List.length_cons]
    omega
  | case4 a b c d cs hn =>
    rw [readUnits, hn] at h
    cases h
  | case5 c cs hc n hn ih =>
    rw [readUnits, hn] at h
    · have hle := hmap ih h
      simp only [List.length_cons]
      omega
    · exact hc
  | case6 c cs hc hn =>
    rw [readUnits, hn] at h
    · cases h
    · exact hc
  | case7 c cs hquote hlong hshort hlow =>
    rw [readUnits, if_pos hlow] at h
    · cases h
    all_goals assumption
  | case8 c cs hquote hlong hshort hlow ih =>
    rw [readUnits, if_neg hlow] at h
    · exact hmap ih h
    all_goals assumption

/-- A string that was read has a stretch exactly if a half stands alone among its code units. -/
theorem hasStretch_readString_iff {us : List Nat} {rest : List Char} (hcs : cs.length < width)
    (h : readUnits cs = .ok (us, rest)) :
    ∃ s, readString width cs = .ok (s, rest) ∧
      (hasStretch width s.toList = true ↔ hasLone us = true) := by
  refine ⟨String.ofList (joinUnits width us), by rw [readString, h]; rfl, ?_⟩
  rw [String.toList_ofList]
  constructor
  · intro hstretch
    by_contra hlone
    have hle : (joinUnits width us).length ≤ us.length :=
      length_joinUnits_le (Bool.eq_false_iff.mpr hlone)
    have hshort := length_le_of_readUnits h
    rw [hasStretch_eq_false_of_length_lt (by omega)] at hstretch
    cases hstretch
  · exact fun hlone => hasStretch_eq_true_iff.mpr (stretch_of_hasLone hlone)

example : readString 9 "a\\ud800\"".toList =
    .ok (String.ofList ('a' :: standIn 9 0xd800), []) := rfl

/-! ## Strings that are written -/

theorem strings_arr (xs : List Json) : (Json.arr xs).strings = xs.flatMap strings := by
  rw [strings]
  induction xs with
  | nil => rfl
  | cons x xs ih => rw [itemStrings, ih, List.flatMap_cons]

theorem strings_obj (ms : Members) :
    (Json.obj ms).strings = ms.flatMap fun m => m.1 :: m.2.strings := by
  rw [strings]
  induction ms with
  | nil => rfl
  | cons m ms ih => rw [memberStrings, ih, List.flatMap_cons, List.cons_append]

theorem length_pos_escapeChar (ascii : Bool) (c : Char) : 0 < (escapeChar ascii c).length := by
  unfold escapeChar
  repeat' split
  all_goals simp [longEscape]

theorem length_le_writeString (ascii : Bool) (s : String) :
    s.toList.length ≤ (writeString ascii s).length := by
  have hflat : ∀ cs : List Char, cs.length ≤ (cs.flatMap (escapeChar ascii)).length := by
    intro cs
    induction cs with
    | nil => exact Nat.le_refl 0
    | cons c cs ih =>
      have hpos := length_pos_escapeChar ascii c
      rw [List.flatMap_cons, List.length_append, List.length_cons]
      omega
  have hle := hflat s.toList
  simp only [writeString, List.length_append, List.length_cons]
  omega

variable (s : Style)

/-- Nothing is longer than the whole that it is part of. -/
theorem length_le_writeItems (level : Nat) {x : Json} {xs : List Json} (hx : x ∈ xs) :
    (writeAt s level x).length ≤ (writeItems s level xs).length := by
  induction xs with
  | nil => cases hx
  | cons y xs ih =>
    rw [writeItems]
    simp only [List.length_append]
    rcases List.mem_cons.mp hx with rfl | hx
    · omega
    · have hle := ih hx
      omega

theorem length_le_writeMembers (level : Nat) {m : String × Json} {ms : Members} (hm : m ∈ ms) :
    (writeString s.ascii m.1).length ≤ (writeMembers s level ms).length ∧
      (writeAt s level m.2).length ≤ (writeMembers s level ms).length := by
  induction ms with
  | nil => cases hm
  | cons n ms ih =>
    obtain ⟨k, v⟩ := n
    rw [writeMembers]
    simp only [List.length_append]
    rcases List.mem_cons.mp hm with rfl | hm
    · dsimp only
      omega
    · obtain ⟨hname, hvalue⟩ := ih hm
      omega

/-- No string of a value is longer than a text of the value. -/
theorem length_le_writeAt {v : Json} (level : Nat) {t : String} (ht : t ∈ v.strings) :
    t.toList.length ≤ (writeAt s level v).length := by
  induction v using induct generalizing level with
  | null | bool | int | float => cases ht
  | str u =>
    obtain rfl : t = u := List.mem_singleton.mp ht
    rw [writeAt]
    exact length_le_writeString s.ascii t
  | arr xs ih =>
    rw [strings_arr, List.mem_flatMap] at ht
    obtain ⟨x, hx, ht⟩ := ht
    have hle := ih x hx (level + 1) ht
    cases xs with
    | nil => cases hx
    | cons y xs =>
      rw [writeAt]
      simp only [List.length_append, List.length_cons]
      rcases List.mem_cons.mp hx with rfl | hx
      · omega
      · have hitems := length_le_writeItems s (level + 1) hx
        omega
  | obj ms ih =>
    rw [strings_obj, List.mem_flatMap] at ht
    obtain ⟨m, hm, ht⟩ := ht
    cases ms with
    | nil => cases hm
    | cons n ms =>
      obtain ⟨k, v⟩ := n
      rw [writeAt]
      simp only [List.length_append, List.length_cons]
      rcases List.mem_cons.mp ht with rfl | ht
      · have hname := length_le_writeString s.ascii m.1
        rcases List.mem_cons.mp hm with rfl | hm
        · dsimp only at hname ⊢
          omega
        · have hmembers := (length_le_writeMembers s (level + 1) hm).1
          omega
      · have hle := ih m hm (level + 1) ht
        rcases List.mem_cons.mp hm with rfl | hm
        · dsimp only at hle
          omega
        · have hmembers := (length_le_writeMembers s (level + 1) hm).2
          omega

/-- No half stands alone in a value whose strings are those of its text. -/
theorem hasHalf_write {v w : Json} (h : ∀ t ∈ w.strings, t ∈ v.strings) :
    w.hasHalf (markWidth (v.write s).toList) = false := by
  refine Bool.eq_false_iff.mpr fun hhalf => ?_
  obtain ⟨t, ht, hstretch⟩ := List.any_eq_true.mp hhalf
  have hle := length_le_writeAt s 0 (h t ht)
  have htext : (v.write s).toList = writeAt s 0 v := String.toList_ofList
  rw [hasStretch_eq_false_of_length_lt (by rw [htext, markWidth]; omega)] at hstretch
  cases hstretch

end Storyline.Json
