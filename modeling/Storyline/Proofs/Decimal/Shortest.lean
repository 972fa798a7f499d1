import Storyline.Proofs.Decimal.Nearest

/-!
# The shortest decimal is rounded to its double

What the search for the shortest decimal accepts lies between the two ends of an interval, and
the numbers there are those that are rounded to the double.  With seventeen digits the search
always finds something: two neighbours on that grid are closer than the ends are.

* `Interval.step_le_iff`, `Interval.le_step_iff`: what the search compares;
* `Interval.eq_of_onGrid`, `Interval.not_fits_of_onGrid`: what it finds;
* `Interval.rounds_of_onGrid`: that is rounded to the double;
* `Interval.onGrid_seventeen`: seventeen digits suffice;
* `pow_magnitude_le`: the place of the first digit;
* `rounds_shortest`: the shortest decimal is rounded to its double.
-/

namespace Storyline.Decimal

variable {m : Nat} {e : Int}

/-! ## Grids -/

/-- The scale on which a grid of decimals is compared with an interval. -/
def gridScale (k : Int) (count : Nat) : Nat := Nat.pow 10 ((count : Int) - k).toNat

namespace Interval

/-- The distance of two neighbours on the grid. -/
def step (i : Interval) (k : Int) (count : Nat) : Nat :=
  i.den * Nat.pow 10 (k - (count : Int)).toNat

/-- The greatest number on the grid that is not above the double. -/
def below (i : Interval) (k : Int) (count : Nat) : Nat :=
  i.value * gridScale k count / i.step k count

/-- The order that the ends of the interval keep. -/
def Fits (i : Interval) (a b : Nat) : Prop := if i.closed then a ≤ b else a < b

theorem Fits.le {i : Interval} {a b : Nat} (h : i.Fits a b) : a ≤ b := by
  unfold Fits at h
  split at h
  · exact h
  · exact Nat.le_of_lt h

theorem Fits.lt {i : Interval} {a b : Nat} (h : i.Fits a b) (hi : i.closed = false) : a < b := by
  rwa [Fits, hi, if_neg Bool.false_ne_true] at h

theorem le_of_not_fits {i : Interval} {a b : Nat} (h : ¬ i.Fits a b) : b ≤ a := by
  unfold Fits at h
  split at h <;> omega

theorem test_eq_true_iff {i : Interval} {a b : Nat} :
    (if i.closed then decide (a ≤ b) else decide (a < b)) = true ↔ i.Fits a b := by
  unfold Fits
  split <;> exact decide_eq_true_iff

theorem fits_of_test {i : Interval} {a b : Nat}
    (h : (if i.closed then decide (a ≤ b) else decide (a < b)) = true) : i.Fits a b :=
  test_eq_true_iff.mp h

theorem not_fits_of_test {i : Interval} {a b : Nat}
    (h : (if i.closed then decide (a ≤ b) else decide (a < b)) = false) : ¬ i.Fits a b :=
  fun hfits => Bool.false_ne_true (h.symm.trans (test_eq_true_iff.mpr hfits))

/-- What the search on a grid finds is one of the two neighbours, and fits. -/
theorem eq_of_onGrid {i : Interval} {k : Int} {count n : Nat} (h : i.onGrid? k count = some n) :
    n = i.below k count ∧ i.Fits (i.low * gridScale k count) (n * i.step k count) ∨
      n = i.below k count + 1 ∧ i.Fits (n * i.step k count) (i.high * gridScale k count) := by
  unfold onGrid? at h
  dsimp only at h
  split at h <;> rename_i hbelow habove
  · cases h
  · cases h
    exact Or.inl ⟨rfl, fits_of_test hbelow⟩
  · cases h
    exact Or.inr ⟨rfl, fits_of_test habove⟩
  · split at h
    · cases h
      exact Or.inl ⟨rfl, fits_of_test hbelow⟩
    · split at h
      · cases h
        exact Or.inr ⟨rfl, fits_of_test habove⟩
      · split at h
        · cases h
          exact Or.inl ⟨rfl, fits_of_test hbelow⟩
        · cases h
          exact Or.inr ⟨rfl, fits_of_test habove⟩

/-- Where the search finds nothing, neither neighbour fits. -/
theorem not_fits_of_onGrid {i : Interval} {k : Int} {count : Nat} (h : i.onGrid? k count = none) :
    ¬ i.Fits (i.low * gridScale k count) (i.below k count * i.step k count) ∧
      ¬ i.Fits ((i.below k count + 1) * i.step k count) (i.high * gridScale k count) := by
  unfold onGrid? at h
  dsimp only at h
  split at h <;> rename_i hbelow habove
  · exact ⟨not_fits_of_test hbelow, not_fits_of_test habove⟩
  · cases h
  · cases h
  · split at h
    · cases h
    · split at h
      · cases h
      · split at h <;> cases h

/-! ## The numbers that are compared -/

section Scale

variable (m : Nat) (e k : Int) (count : Nat)

/-- Numbers of an interval and of a grid are compared after they are multiplied by this. -/
def scale : Nat := (ofBinary m e).den * gridScale k count

theorem scale_pos : (0 : ℚ) < scale m e k count := by
  have hpos : 0 < scale m e k count :=
    Nat.mul_pos (Nat.pow_pos (by decide)) (Nat.pow_pos (by decide))
  exact_mod_cast hpos

theorem cast_mul_step (n : Nat) :
    ((n * (ofBinary m e).step k count : Nat) : ℚ) =
      n * 10 ^ (k - count) * scale m e k count := by
  have hten : (10 : ℚ) ^ (-(k - count)).toNat ≠ 0 := pow_ne_zero _ (by norm_num)
  have hscale : gridScale k count = 10 ^ (-(k - count)).toNat := by
    rw [neg_sub]
    rfl
  have hstep : (ofBinary m e).step k count = (ofBinary m e).den * 10 ^ (k - count).toNat := rfl
  rw [zpow_eq_div (by norm_num) (k - count), scale, hscale, hstep]
  push_cast
  field_simp

theorem cast_mul_unit (q : Nat) :
    ((q * Nat.pow 2 (e - 2).toNat * gridScale k count : Nat) : ℚ) =
      q * 2 ^ (e - 2) * scale m e k count := by
  have htwo : (2 : ℚ) ^ (-(e - 2)).toNat ≠ 0 := pow_ne_zero _ (by norm_num)
  have hden : (ofBinary m e).den = 2 ^ (-(e - 2)).toNat := by
    rw [neg_sub]
    rfl
  have hunit : Nat.pow 2 (e - 2).toNat = 2 ^ (e - 2).toNat := rfl
  rw [zpow_eq_div (by norm_num) (e - 2), scale, hden, hunit]
  push_cast
  field_simp

theorem step_le_iff (n q : Nat) :
    n * (ofBinary m e).step k count ≤ q * Nat.pow 2 (e - 2).toNat * gridScale k count ↔
      (n * 10 ^ (k - count) : ℚ) ≤ q * 2 ^ (e - 2) := by
  rw [← Nat.cast_le (α := ℚ), cast_mul_step, cast_mul_unit,
    mul_le_mul_iff_left₀ (scale_pos m e k count)]

theorem le_step_iff (n q : Nat) :
    q * Nat.pow 2 (e - 2).toNat * gridScale k count ≤ n * (ofBinary m e).step k count ↔
      (q * 2 ^ (e - 2) : ℚ) ≤ n * 10 ^ (k - count) := by
  rw [← Nat.cast_le (α := ℚ), cast_mul_step, cast_mul_unit,
    mul_le_mul_iff_left₀ (scale_pos m e k count)]

theorem step_lt_iff (n q : Nat) :
    n * (ofBinary m e).step k count < q * Nat.pow 2 (e - 2).toNat * gridScale k count ↔
      (n * 10 ^ (k - count) : ℚ) < q * 2 ^ (e - 2) := by
  rw [← not_le, le_step_iff, not_le]

theorem lt_step_iff (n q : Nat) :
    q * Nat.pow 2 (e - 2).toNat * gridScale k count < n * (ofBinary m e).step k count ↔
      (q * 2 ^ (e - 2) : ℚ) < n * 10 ^ (k - count) := by
  rw [← not_le, step_le_iff, not_le]

end Scale

/-- The double lies between its two neighbours on the grid. -/
theorem below_le (m : Nat) (e k : Int) (count : Nat) :
    ((ofBinary m e).below k count * 10 ^ (k - count) : ℚ) ≤ (4 * m : Nat) * 2 ^ (e - 2) :=
  (step_le_iff m e k count _ _).mp (Nat.div_mul_le_self _ _)

theorem lt_above (m : Nat) (e k : Int) (count : Nat) :
    ((4 * m : Nat) * 2 ^ (e - 2) : ℚ) <
      ((ofBinary m e).below k count + 1 : Nat) * 10 ^ (k - count) := by
  rw [← not_le, ← step_le_iff, not_le]
  have hstep : 0 < (ofBinary m e).step k count :=
    Nat.mul_pos (Nat.pow_pos (by decide)) (Nat.pow_pos (by decide))
  have hlt := Nat.lt_succ_self ((ofBinary m e).below k count)
  exact (Nat.div_lt_iff_lt_mul hstep).mp hlt

/-- The quarters of a unit that the lower end of the interval is away. -/
def gap (m : Nat) (e : Int) : Nat := if m = Nat.pow 2 52 ∧ -1074 < e then 1 else 2

theorem gap_le (m : Nat) (e : Int) : gap m e ≤ 2 := by
  unfold gap
  split <;> omega

theorem gap_le_of_canonical (hc : Canonical m e) : gap m e ≤ 4 * m := by
  have hpos := hc.pos
  have hle := gap_le m e
  omega

/-- The ends of the interval are given in quarters of a unit. -/
theorem quarter (e : Int) : (2 : ℚ) ^ e = 4 * 2 ^ (e - 2) := by
  have hadd := two_zpow_add 2 (e - 2)
  rw [Nat.cast_ofNat, add_sub_cancel] at hadd
  rw [hadd]
  norm_num

/-- The numbers between the ends of the interval are rounded to the double. -/
theorem rounds_of_between {m : Nat} {e : Int} {x : ℚ}
    (hlow : (4 * m - gap m e) * 2 ^ (e - 2) ≤ x) (hhigh : x ≤ (4 * m + 2) * 2 ^ (e - 2))
    (hodd : m % 2 = 1 → (4 * m - gap m e) * 2 ^ (e - 2) < x ∧ x < (4 * m + 2) * 2 ^ (e - 2)) :
    Rounds m e x := by
  have hpos := two_zpow_pos (e - 2)
  have hgap : (gap m e : ℚ) ≤ 2 := by exact_mod_cast gap_le m e
  refine ⟨?_, ?_, fun h => ⟨?_, ?_⟩, fun hm he => ?_⟩ <;> rw [quarter e]
  · nlinarith
  · linarith
  · have hlow' := (hodd h).1
    nlinarith
  · have hhigh' := (hodd h).2
    linarith
  · rw [gap, if_pos ⟨hm, he⟩, Nat.cast_one] at hlow
    linarith

/-- Whatever the search on a grid finds is rounded to the double. -/
theorem rounds_of_onGrid (hc : Canonical m e) {k : Int} {count n : Nat}
    (h : (ofBinary m e).onGrid? k count = some n) : Rounds m e (n * 10 ^ (k - count)) := by
  have hpos := two_zpow_pos (e - 2)
  have hgap : gap m e ≤ 4 * m := gap_le_of_canonical hc
  have hopen : m % 2 = 1 → (ofBinary m e).closed = false := by
    intro hodd
    show (m % 2 == 0) = false
    rw [hodd]
    rfl
  rcases eq_of_onGrid h with ⟨rfl, hfits⟩ | ⟨rfl, hfits⟩
  · have hupper := below_le m e k count
    have hlower := (le_step_iff m e k count _ (4 * m - gap m e)).mp hfits.le
    have hstrict : m % 2 = 1 → _ := fun hodd =>
      (lt_step_iff m e k count _ (4 * m - gap m e)).mp (hfits.lt (hopen hodd))
    push_cast [hgap] at hupper hlower hstrict
    have hless : ((4 * m : ℚ)) * 2 ^ (e - 2) < (4 * m + 2) * 2 ^ (e - 2) := by linarith
    exact rounds_of_between hlower (hupper.trans hless.le) fun hodd =>
      ⟨hstrict hodd, hupper.trans_lt hless⟩
  · have hlower := lt_above m e k count
    have hupper := (step_le_iff m e k count _ (4 * m + 2)).mp hfits.le
    have hstrict : m % 2 = 1 → _ := fun hodd =>
      (step_lt_iff m e k count _ (4 * m + 2)).mp (hfits.lt (hopen hodd))
    push_cast at hlower hupper hstrict ⊢
    have hless : ((4 * m - gap m e : ℚ)) * 2 ^ (e - 2) ≤ 4 * m * 2 ^ (e - 2) := by
      have hnonneg : (0 : ℚ) ≤ gap m e := Nat.cast_nonneg _
      nlinarith
    exact rounds_of_between (hless.trans hlower.le) hupper fun hodd =>
      ⟨hless.trans_lt hlower, hstrict hodd⟩

/-- Seventeen digits suffice: the grid of that many digits is finer than the interval. -/
theorem onGrid_seventeen (hc : Canonical m e) {k : Int} (hk : (10 : ℚ) ^ (k - 1) ≤ m * 2 ^ e) :
    (ofBinary m e).onGrid? k 17 ≠ none := by
  intro hnone
  obtain ⟨hbelow, habove⟩ := not_fits_of_onGrid hnone
  have hlower := (step_le_iff m e k 17 _ (4 * m - gap m e)).mp (le_of_not_fits hbelow)
  have hupper := (le_step_iff m e k 17 _ (4 * m + 2)).mp (le_of_not_fits habove)
  have hgap : gap m e ≤ 4 * m := gap_le_of_canonical hc
  push_cast [hgap] at hlower hupper
  have hpos := two_zpow_pos (e - 2)
  -- the distance of two neighbours on the grid is that of the ends of the interval at least
  have hwide : ((2 + gap m e) * 2 ^ (e - 2) : ℚ) ≤ 10 ^ (k - 17) := by linarith
  have hten : (10 : ℚ) ^ (k - 1) = 10 ^ 16 * 10 ^ (k - 17) := by
    rw [← zpow_natCast, ← zpow_add₀ (by norm_num)]
    congr 1
    omega
  rw [hten, quarter] at hk
  have hbound : ((10 ^ 16 * (2 + gap m e) : Nat) : ℚ) ≤ (4 * m : Nat) := by
    refine le_of_mul_le_mul_right ?_ hpos
    push_cast
    calc (10 ^ 16 * (2 + gap m e) * 2 ^ (e - 2) : ℚ)
        = 10 ^ 16 * ((2 + gap m e) * 2 ^ (e - 2)) := by ring
      _ ≤ 10 ^ 16 * 10 ^ (k - 17) := by gcongr
      _ ≤ m * (4 * 2 ^ (e - 2)) := hk
      _ = 4 * m * 2 ^ (e - 2) := by ring
  have hnat : 10 ^ 16 * (2 + gap m e) ≤ 4 * m := by exact_mod_cast hbound
  have hlt : m < 9007199254740992 := hc.lt
  unfold gap at hnat
  split at hnat
  · rename_i hnarrow
    have hm : m = 4503599627370496 := hnarrow.1
    omega
  · omega

end Interval

/-! ## The first digit -/

/-- Multiplying by ten often enough reaches the denominator. -/
theorem le_mul_tensBelow {fuel num den : Nat} (h : den ≤ num * 10 ^ fuel) :
    den ≤ num * 10 ^ tensBelow fuel num den := by
  induction fuel generalizing num with
  | zero => exact h
  | succ fuel ih =>
    rw [tensBelow]
    split
    · rename_i hle
      rwa [pow_zero, Nat.mul_one]
    · have hnext : den ≤ num * 10 * 10 ^ fuel := by rwa [Nat.mul_assoc, ← Nat.pow_succ']
      have hrest := ih hnext
      rwa [Nat.mul_assoc, ← Nat.pow_succ'] at hrest

/-- The first digit is in its place. -/
theorem pow_magnitude_le {num den : Nat} (hden : 0 < den) (h : den ≤ num * 10 ^ 400) :
    (10 : ℚ) ^ (magnitude num den - 1) ≤ num / den := by
  have hpos : (0 : ℚ) < den := by exact_mod_cast hden
  unfold magnitude
  split
  · rename_i hle
    have hquot : num / den ≠ 0 := (Nat.div_pos hle hden).ne'
    have hcount : 0 < digitCount (num / den) := Nat.length_toDigits_pos
    have hexp : (digitCount (num / den) : Int) - 1 = (digitCount (num / den) - 1 : Nat) := by omega
    rw [hexp, zpow_natCast, le_div_iff₀ hpos]
    have hnat : 10 ^ (digitCount (num / den) - 1) * den ≤ num :=
      (Nat.mul_le_mul_right den (pow_digitCount_le hquot)).trans (Nat.div_mul_le_self num den)
    exact_mod_cast hnat
  · have hle := le_mul_tensBelow h
    have hexp : 1 - (tensBelow 400 num den : Int) - 1 = -(tensBelow 400 num den : Int) := by omega
    have hten : (0 : ℚ) < 10 ^ tensBelow 400 num den := pow_pos (by norm_num) _
    rw [hexp, zpow_neg, zpow_natCast, le_div_iff₀ hpos, inv_mul_le_iff₀ hten, mul_comm]
    exact_mod_cast hle

/-! ## The digits that are found -/

/-- Zeros at the end of the digits can be left out. -/
theorem value_trimZeros (fuel : Nat) (d : Decimal) : (trimZeros fuel d).value = d.value := by
  induction fuel generalizing d with
  | zero => rfl
  | succ fuel ih =>
    rw [trimZeros]
    split
    · rename_i hzero
      rw [ih]
      have hdigits : (d.digits : ℚ) = (d.digits / 10 : Nat) * 10 := by
        have hnat : d.digits = d.digits / 10 * 10 := by omega
        exact_mod_cast hnat
      rw [value, value, hdigits, zpow_add_one₀ (by norm_num)]
      ring
    · rfl

theorem Interval.value_div_den (m : Nat) (e : Int) :
    ((ofBinary m e).value / (ofBinary m e).den : ℚ) = m * 2 ^ e := by
  have hvalue : (ofBinary m e).value = 4 * m * 2 ^ (e - 2).toNat := rfl
  have hden : (ofBinary m e).den = 2 ^ (-(e - 2)).toNat := by
    rw [neg_sub]
    rfl
  rw [quarter, zpow_eq_div (by norm_num) (e - 2), hvalue, hden]
  push_cast
  ring

/-- No double is so small that its first digit is not found. -/
theorem Interval.den_le (hc : Canonical m e) :
    (ofBinary m e).den ≤ (ofBinary m e).value * 10 ^ 400 := by
  have hleast := hc.least
  have hvalue : 0 < (ofBinary m e).value :=
    Nat.mul_pos (Nat.mul_pos (by decide) hc.pos) (Nat.pow_pos (by decide))
  have hden : (ofBinary m e).den = 2 ^ (2 - e).toNat := rfl
  generalize hfuel : 400 = fuel
  calc (ofBinary m e).den ≤ 2 ^ (3 * fuel) := by
        rw [hden]
        exact Nat.pow_le_pow_right (by decide) (by omega)
    _ = 8 ^ fuel := by rw [Nat.pow_mul]
    _ ≤ 10 ^ fuel := Nat.pow_le_pow_left (by decide) _
    _ ≤ (ofBinary m e).value * 10 ^ fuel := Nat.le_mul_of_pos_left _ hvalue

/-- **The shortest decimal** of a positive double is rounded to it. -/
theorem rounds_shortest (hc : Canonical m e) : Rounds m e (shortest m e).value := by
  have hden : 0 < (Interval.ofBinary m e).den := Nat.pow_pos (by decide)
  have hmagnitude := pow_magnitude_le hden (Interval.den_le hc)
  rw [Interval.value_div_den] at hmagnitude
  unfold shortest
  dsimp only
  generalize magnitude (Interval.ofBinary m e).value (Interval.ofBinary m e).den = k at hmagnitude ⊢
  cases hfound : (List.range' 1 17).findSome? fun count =>
      ((Interval.ofBinary m e).onGrid? k count).map
        fun n => trimZeros 18 ⟨n, k - (count : Int)⟩ with
  | none =>
    have hlast := List.findSome?_eq_none_iff.mp hfound 17 (by decide)
    exact absurd (Option.map_eq_none_iff.mp hlast) (Interval.onGrid_seventeen hc hmagnitude)
  | some d =>
    obtain ⟨count, -, hd⟩ := List.exists_of_findSome?_eq_some hfound
    obtain ⟨n, hn, rfl⟩ := Option.map_eq_some_iff.mp hd
    rw [Option.getD_some, value_trimZeros]
    exact Interval.rounds_of_onGrid hc hn

end Storyline.Decimal
