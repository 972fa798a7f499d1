import Mathlib.Algebra.Order.Field.Basic
import Mathlib.Algebra.Order.Field.Power
import Mathlib.Algebra.Order.Ring.Rat
import Mathlib.Tactic.Linarith
import Mathlib.Tactic.Ring
import Mathlib.Tactic.FieldSimp
import Storyline.Proofs.Decimal.Bits

/-!
# Rounding to a double

The rounding of the arithmetic of doubles, read in rational numbers: a mantissa with two
further bits stands for a number up to what those bits leave open, and shifting it to the right
halves the number.

`4503599627370496` is `2 ^ 52` and `9007199254740992` is `2 ^ 53`.

* `Approximates`: what an extended mantissa says about a number;
* `Approximates.rounded`: the natural number that it is rounded to;
* `Rounds`: the numbers that are rounded to a double;
* `Rounds.target_eq`: the exponent that such a number is shifted to;
* `Rounds.roundWithAccuracy`: it is rounded to the double.
-/

namespace Storyline.Decimal

open Float.Model
open UnpackedFloat (ExtendedMantissa Accuracy)

/-! ## Extended mantissas -/

/-- What an extended mantissa says about a number: its whole part, its first bit after
the point, and whether anything follows that bit. -/
structure Approximates (em : ExtendedMantissa) (q : ℚ) : Prop where
  low : (2 * em.mantissa + em.roundBit.toNat : ℚ) ≤ 2 * q
  high : 2 * q < 2 * em.mantissa + em.roundBit.toNat + 1
  sticky : em.stickyBit = false ↔ 2 * q = 2 * em.mantissa + em.roundBit.toNat

/-- The mantissa is the whole part of the number. -/
theorem Approximates.bounds {em : ExtendedMantissa} {q : ℚ} (h : Approximates em q) :
    (em.mantissa : ℚ) ≤ q ∧ q < em.mantissa + 1 := by
  obtain ⟨hlow, hhigh, -⟩ := h
  cases hr : em.roundBit <;> rw [hr] at hlow hhigh <;> simp at hlow hhigh <;>
    constructor <;> linarith

/-- Shifting by one bit halves the number. -/
theorem Approximates.shiftRightOne {em : ExtendedMantissa} {q : ℚ} (h : Approximates em q) :
    Approximates em.shiftRightOne (q / 2) := by
  obtain ⟨m, r, s⟩ := em
  obtain ⟨hlow, hhigh, hsticky⟩ := h
  have hm : (m : ℚ) = 2 * (m / 2 : Nat) + (m % 2 != 0).toNat := by
    have hdiv : m = 2 * (m / 2) + (m % 2 != 0).toNat := by
      rcases Nat.mod_two_eq_zero_or_one m with hmod | hmod <;> simp [hmod] <;> omega
    exact_mod_cast hdiv
  rw [ExtendedMantissa.shiftRightOne]
  dsimp only at hlow hhigh hsticky ⊢
  generalize (m / 2 : Nat) = a at hm ⊢
  generalize (m % 2 != 0) = b at hm ⊢
  cases r
  · simp only [Bool.toNat_false, Nat.cast_zero, add_zero, Bool.false_or] at hlow hhigh hsticky ⊢
    refine ⟨by linarith, by linarith, ?_⟩
    rw [hsticky]
    constructor <;> intro heq <;> linarith
  · simp only [Bool.toNat_true, Nat.cast_one, Bool.true_or] at hlow hhigh hsticky ⊢
    refine ⟨by linarith, by linarith, ?_⟩
    simp only [Bool.true_eq_false, false_iff]
    intro heq
    linarith

theorem Approximates.shiftRight {em : ExtendedMantissa} {q : ℚ} (h : Approximates em q)
    (n : Nat) : Approximates (em >>> n) (q / 2 ^ n) := by
  induction n with
  | zero =>
    rw [pow_zero, div_one]
    exact h
  | succ n ih =>
    have hdiv : q / 2 ^ (n + 1) = q / 2 ^ n / 2 := by rw [pow_succ, div_mul_eq_div_div]
    rw [hdiv]
    exact ih.shiftRightOne

/-- The number is rounded to `n`: it is within a half, and less than that if `n` is
odd. -/
theorem Approximates.rounded {em : ExtendedMantissa} {q : ℚ} (h : Approximates em q) {n : Nat}
    (hlow : (2 * n - 1 : ℚ) ≤ 2 * q) (hhigh : 2 * q ≤ 2 * n + 1)
    (hodd : n % 2 = 1 → (2 * n - 1 : ℚ) < 2 * q ∧ 2 * q < 2 * n + 1) : em.roundedMantissa = n := by
  obtain ⟨m, r, s⟩ := em
  obtain ⟨hmlow, hmhigh, hsticky⟩ := h
  dsimp only at hmlow hmhigh hsticky
  have hlt : ∀ {a b : Nat}, (a : ℚ) < b → a < b := fun hab => by exact_mod_cast hab
  cases r with
  | false =>
    have hround : ExtendedMantissa.roundedMantissa ⟨m, false, s⟩ = m := by cases s <;> rfl
    simp only [Bool.toNat_false, Nat.cast_zero, add_zero] at hmlow hmhigh
    have hle : m < n + 1 := hlt (by push_cast; linarith)
    have hge : n < m + 1 := hlt (by push_cast; linarith)
    rw [hround]
    omega
  | true =>
    simp only [Bool.toNat_true, Nat.cast_one] at hmlow hmhigh hsticky
    cases s with
    | false =>
      -- halfway between two natural numbers, so the even one of them is meant
      have hround : ExtendedMantissa.roundedMantissa ⟨m, true, false⟩ = m + m % 2 := rfl
      have hhalf := hsticky.mp rfl
      have hle : m < n + 1 := hlt (by push_cast; linarith)
      have hge : n < m + 2 := hlt (by push_cast; linarith)
      have heven : n % 2 ≠ 1 := by
        intro hn
        obtain ⟨hl, hh⟩ := hodd hn
        have hmore : m < n := hlt (by linarith)
        have hless : n < m + 1 := hlt (by push_cast; linarith)
        omega
      rw [hround]
      omega
    | true =>
      have hround : ExtendedMantissa.roundedMantissa ⟨m, true, true⟩ = m + 1 := rfl
      have hmore : (2 * m + 1 : ℚ) < 2 * q :=
        lt_of_le_of_ne hmlow fun heq => Bool.noConfusion (hsticky.mpr heq.symm)
      have hle : m < n := hlt (by linarith)
      have hge : n < m + 2 := hlt (by push_cast; linarith)
      rw [hround]
      omega

@[simp] theorem mantissa_ofMantissaAndAccuracy (m : Nat) (accuracy : Accuracy) :
    (ExtendedMantissa.ofMantissaAndAccuracy m accuracy).mantissa = m := by
  cases accuracy with
  | exact => rfl
  | inexact o => cases o <;> rfl

theorem approximates_exact (m : Nat) :
    Approximates (ExtendedMantissa.ofMantissaAndAccuracy m .exact) m := by
  refine ⟨?_, ?_, ?_⟩ <;> simp [ExtendedMantissa.ofMantissaAndAccuracy]

/-- A number between two natural ones is known from where it lies to their middle. -/
theorem approximates_inexact (a : Nat) {f : ℚ} {o : Ordering} (hpos : 0 < f) (hone : f < 1)
    (hless : o = .lt ↔ 2 * f < 1) (hmore : o = .gt ↔ 1 < 2 * f) :
    Approximates (ExtendedMantissa.ofMantissaAndAccuracy a (.inexact o)) (a + f) := by
  cases o with
  | lt =>
    have hhalf := hless.mp rfl
    refine ⟨?_, ?_, ?_⟩ <;> simp [ExtendedMantissa.ofMantissaAndAccuracy] <;> linarith
  | eq =>
    have hhalf : 2 * f = 1 :=
      le_antisymm (not_lt.mp fun h => Ordering.noConfusion (hmore.mpr h))
        (not_lt.mp fun h => Ordering.noConfusion (hless.mpr h))
    refine ⟨?_, ?_, ?_⟩ <;> simp [ExtendedMantissa.ofMantissaAndAccuracy] <;> linarith
  | gt =>
    have hhalf := hmore.mp rfl
    refine ⟨?_, ?_, ?_⟩ <;> simp [ExtendedMantissa.ofMantissaAndAccuracy] <;> linarith

/-- A quotient is known from the natural one and the remainder. -/
theorem approximates_div (n : Nat) {d : Nat} (hd : 0 < d) :
    Approximates
      (ExtendedMantissa.ofMantissaAndAccuracy (n / d) (UnpackedFloat.accuracyOfFraction (n % d) d))
      (n / d) := by
  have hpos : (0 : ℚ) < d := by exact_mod_cast hd
  have hq : (n / d : ℚ) = (n / d : Nat) + (n % d : Nat) / d := by
    have hsum : (d : ℚ) * (n / d : Nat) + (n % d : Nat) = n := by exact_mod_cast Nat.div_add_mod n d
    rw [← hsum]
    field_simp
  have hlt : n % d < d := Nat.mod_lt n hd
  rw [hq, UnpackedFloat.accuracyOfFraction]
  generalize (n / d : Nat) = a
  generalize n % d = r at hlt ⊢
  by_cases hzero : r = 0
  · rw [if_pos hzero, hzero, Nat.cast_zero, zero_div, add_zero]
    exact approximates_exact a
  · rw [if_neg hzero]
    have hr : (0 : ℚ) < r := by exact_mod_cast Nat.pos_of_ne_zero hzero
    refine approximates_inexact a (div_pos hr hpos) ?_ ?_ ?_
    · rw [div_lt_one hpos]
      exact_mod_cast hlt
    · rw [Nat.compare_eq_lt, ← mul_div_assoc, div_lt_one hpos]
      exact_mod_cast Iff.rfl
    · rw [Nat.compare_eq_gt, ← mul_div_assoc, one_lt_div hpos]
      exact_mod_cast Iff.rfl

/-! ## Numbers that are rounded to a double -/

/-- The number is rounded to the double: it is within half a unit of the last bit, and less
than that if the mantissa is odd; below a power of two the doubles lie twice as close. -/
structure Rounds (m : Nat) (e : Int) (v : ℚ) : Prop where
  low : (2 * m - 1) * 2 ^ e ≤ 2 * v
  high : 2 * v ≤ (2 * m + 1) * 2 ^ e
  odd : m % 2 = 1 → (2 * m - 1) * 2 ^ e < 2 * v ∧ 2 * v < (2 * m + 1) * 2 ^ e
  narrow : m = 4503599627370496 → -1074 < e → (4 * m - 1) * 2 ^ e ≤ 4 * v

theorem two_zpow_pos (e : Int) : (0 : ℚ) < 2 ^ e := zpow_pos (by norm_num) e

theorem two_zpow_add (n : Nat) (e : Int) : (2 : ℚ) ^ (n + e) = 2 ^ n * 2 ^ e := by
  rw [zpow_add₀ (by norm_num), zpow_natCast]

/-- A power with an integer exponent as a quotient of natural ones. -/
theorem zpow_eq_div {b : ℚ} (hb : b ≠ 0) (z : Int) : b ^ z = b ^ z.toNat / b ^ (-z).toNat := by
  rw [← zpow_natCast, ← zpow_natCast, ← zpow_sub₀ hb]
  congr 1
  omega

/-- A double is rounded to itself. -/
theorem rounds_self (m : Nat) (e : Int) : Rounds m e (m * 2 ^ e) := by
  have hpos := two_zpow_pos e
  refine ⟨?_, ?_, fun _ => ⟨?_, ?_⟩, fun _ _ => ?_⟩ <;> nlinarith

variable {m : Nat} {e : Int} {v : ℚ}

/-- A number that is rounded to a double is below the next power of two. -/
theorem Rounds.lt (h : Rounds m e v) (hc : Canonical m e) : v < 2 ^ (53 + e) := by
  have hpos := two_zpow_pos e
  have hm : (m : ℚ) ≤ 9007199254740991 := by
    have hlt : m < 9007199254740992 := hc.lt
    exact_mod_cast Nat.le_of_lt_succ hlt
  have hhigh := h.high
  have hadd := two_zpow_add 53 e
  rw [Nat.cast_ofNat] at hadd
  rw [hadd]
  nlinarith

/-- It is at least the greatest number below the double's first bit that is rounded up. -/
theorem Rounds.le (h : Rounds m e v) (hc : Canonical m e) (he : e ≠ -1074) :
    18014398509481983 * 2 ^ e ≤ 4 * v := by
  have hpos := two_zpow_pos e
  have hleast := hc.least
  have hfull : 4503599627370496 ≤ m := hc.full.resolve_right he
  by_cases hm : m = 4503599627370496
  · have hnarrow := h.narrow hm (by omega)
    rw [hm] at hnarrow
    norm_num at hnarrow
    linarith
  · have hlow := h.low
    have hm' : (4503599627370497 : ℚ) ≤ m := by
      have hlt : 4503599627370497 ≤ m := by omega
      exact_mod_cast hlt
    nlinarith

/-! ## Rounding -/

/-- The exponent that a mantissa and an exponent are shifted to. -/
def target (mantissa : Nat) (exponent : Int) : Int := max (mantissa.log2 + exponent - 52) (-1074)

theorem targetExponent_eq (mantissa : Nat) (exponent : Int) :
    Format.binary64.targetExponent (totalExponent mantissa exponent) =
      target mantissa exponent := by
  show max ((mantissa.log2 : Int) + 1 + exponent - 53) (-1074) = _
  rw [target]
  congr 1
  omega

/-- At its target exponent a number has no more than fifty-three bits before the point. -/
theorem lt_two_zpow_target {M : Nat} {E : Int} {q : ℚ} (hq : q < M + 1) :
    q * 2 ^ E < 2 ^ (53 + target M E) := by
  have hM : (M + 1 : ℚ) ≤ 2 ^ (M.log2 + 1) := by exact_mod_cast Nat.lt_log2_self
  have hle : (2 : ℚ) ^ ((M.log2 + 1 : Nat) + E) ≤ 2 ^ (53 + target M E) := by
    refine zpow_le_zpow_right₀ (by norm_num) ?_
    unfold target
    omega
  have hpos := two_zpow_pos E
  rw [two_zpow_add] at hle
  nlinarith

/-- At its target exponent a number has all fifty-three bits, unless that is the least one. -/
theorem two_zpow_target_le {M : Nat} {E : Int} {q : ℚ} (hq : M ≤ q) (hE : E ≤ target M E)
    (ht : target M E ≠ -1074) : 2 ^ (52 + target M E) ≤ q * 2 ^ E := by
  have htarget : target M E = M.log2 + E - 52 := by
    unfold target at ht ⊢
    omega
  have hM : M ≠ 0 := by
    rintro rfl
    rw [Nat.log2_zero] at htarget
    omega
  have hlog : (2 ^ M.log2 : ℚ) ≤ M := by exact_mod_cast Nat.log2_self_le hM
  have hexp : 52 + target M E = (M.log2 : Nat) + E := by omega
  have hpos := two_zpow_pos E
  rw [hexp, two_zpow_add]
  nlinarith

section Target

variable {M : Nat} {E : Int} {q : ℚ}

/-- A number that is rounded to a double is not shifted beyond its exponent. -/
theorem Rounds.target_le (h : Rounds m e v) (hc : Canonical m e) (hlow : M ≤ q)
    (hE : E ≤ target M E) (hv : q * 2 ^ E = v) : target M E ≤ e := by
  have hone : (1 : ℚ) < 2 := by norm_num
  have hleast := hc.least
  by_cases ht : target M E = -1074
  · omega
  · have hlower : 2 ^ (52 + target M E) ≤ v := hv ▸ two_zpow_target_le hlow hE ht
    have hexp := (zpow_lt_zpow_iff_right₀ hone).mp (hlower.trans_lt (h.lt hc))
    omega

/-- A number that is rounded to a double is shifted up to the exponent before it at least. -/
theorem Rounds.le_target (h : Rounds m e v) (hc : Canonical m e) (he : e ≠ -1074)
    (hupper : v < 2 ^ (53 + target M E)) : e - 1 ≤ target M E := by
  have hone : (1 : ℚ) < 2 := by norm_num
  have hpos := two_zpow_pos e
  have hfour := h.le hc he
  have hbefore := two_zpow_add 53 e
  have hafter := two_zpow_add 2 (53 + target M E)
  have hchain : (2 : ℚ) ^ ((53 : Nat) + e) < 2 ^ ((2 : Nat) + (53 + target M E)) := by
    rw [hbefore, hafter]
    nlinarith
  have hexp := (zpow_lt_zpow_iff_right₀ hone).mp hchain
  omega

/-- Only at a power of two there are numbers below it that are rounded up to it. -/
theorem Rounds.mantissa_eq (h : Rounds m e v) (hc : Canonical m e) (he : e ≠ -1074)
    (hlt : v < 2 ^ (52 + e)) : m = 4503599627370496 := by
  have hpos := two_zpow_pos e
  have hpow := two_zpow_add 52 e
  rw [Nat.cast_ofNat] at hpow
  rw [hpow] at hlt
  have hm : (m : ℚ) < 4503599627370497 := by
    have hlow := h.low
    nlinarith
  have hm' : m < 4503599627370497 := by exact_mod_cast hm
  have hfull : 4503599627370496 ≤ m := hc.full.resolve_right he
  omega

/-- Where a number that is rounded to a double is shifted first: to the exponent of the double,
or, below a power of two, to the one before it. -/
theorem Rounds.target_eq (h : Rounds m e v) (hc : Canonical m e) (hlow : M ≤ q)
    (hhigh : q < M + 1) (hE : E ≤ target M E) (hv : q * 2 ^ E = v) :
    target M E = e ∨ target M E = e - 1 ∧ m = 4503599627370496 ∧ -1074 < e := by
  have hupper : v < 2 ^ (53 + target M E) := hv ▸ lt_two_zpow_target hhigh
  have hmin : -1074 ≤ target M E := le_max_right _ _
  have hle := h.target_le hc hlow hE hv
  by_cases he : e = -1074
  · exact Or.inl (by omega)
  · have hge := h.le_target hc he hupper
    rcases eq_or_ne (target M E) e with heq | hne
    · exact Or.inl heq
    · have heq : target M E = e - 1 := by omega
      have hexp : 53 + target M E = 52 + e := by omega
      exact Or.inr ⟨heq, h.mantissa_eq hc he (hexp ▸ hupper), by omega⟩

end Target

theorem shiftToTargetExponent_eq {M : Nat} {E : Int} (accuracy : Accuracy) (hE : E ≤ target M E) :
    UnpackedFloat.shiftToTargetExponent Format.binary64 M E accuracy =
      (ExtendedMantissa.ofMantissaAndAccuracy M accuracy >>> (target M E - E).toNat,
        target M E) := by
  rw [UnpackedFloat.shiftToTargetExponent, UnpackedFloat.shiftToExponent, targetExponent_eq]
  congr 1
  omega

/-- A double is at its target exponent. -/
theorem target_of_canonical (hc : Canonical m e) : target m e = e := by
  obtain ⟨hpos, hlt, hleast, -, hfull⟩ := hc
  have hlow : 52 ≤ m.log2 ↔ 2 ^ 52 ≤ m := Nat.le_log2 hpos.ne'
  have hhigh : m.log2 < 53 ↔ m < 2 ^ 53 := Nat.log2_lt hpos.ne'
  have hlt' : m < 2 ^ 53 := hlt
  have hfull' : 2 ^ 52 ≤ m ∨ e = -1074 := hfull
  unfold target
  omega

/-- A mantissa that rounding has made one bit too long is shifted once more. -/
theorem target_of_carry (he : -1074 < e) : target 9007199254740992 (e - 1) = e := by
  have hlog : (9007199254740992 : Nat).log2 = 53 := by decide
  unfold target
  omega

theorem Rounds.roundedMantissa (h : Rounds m e v) {em : ExtendedMantissa} {q : ℚ}
    (hem : Approximates em q) (hv : q * 2 ^ e = v) : em.roundedMantissa = m := by
  have hpos := two_zpow_pos e
  obtain ⟨hlow, hhigh, hodd, -⟩ := h
  rw [← hv, ← mul_assoc] at hlow hhigh hodd
  refine hem.rounded (le_of_mul_le_mul_right hlow hpos) (le_of_mul_le_mul_right hhigh hpos)
    fun hm => ⟨lt_of_mul_lt_mul_right (hodd hm).1 hpos.le,
      lt_of_mul_lt_mul_right (hodd hm).2 hpos.le⟩

theorem Rounds.roundedMantissa_carry (h : Rounds m e v) (hm : m = 4503599627370496)
    (he : -1074 < e) {em : ExtendedMantissa} {q : ℚ} (hem : Approximates em q)
    (hv : q * 2 ^ (e - 1) = v) (hlt : q < 9007199254740992) :
    em.roundedMantissa = 9007199254740992 := by
  have hpos := two_zpow_pos (e - 1)
  have hdouble : (2 : ℚ) ^ e = 2 * 2 ^ (e - 1) := by
    have hadd := two_zpow_add 1 (e - 1)
    rw [Nat.cast_one, add_sub_cancel, pow_one] at hadd
    exact hadd
  have hnarrow := h.narrow hm he
  rw [hm, hdouble, ← hv] at hnarrow
  norm_num at hnarrow
  have hlow : (18014398509481983 : ℚ) ≤ 2 * q := by nlinarith
  refine hem.rounded ?_ ?_ fun hodd => absurd hodd (by decide)
  · norm_num
    exact hlow
  · norm_num
    linarith

/-- **Rounding**: a number that is rounded to a double, given with all the bits that the double
has, is rounded to it. -/
theorem Rounds.roundWithAccuracy (h : Rounds m e v) (hc : Canonical m e)
    (s : UnpackedFloat.Sign) {M : Nat} {E : Int} {accuracy : Accuracy} {q : ℚ}
    (hq : Approximates (ExtendedMantissa.ofMantissaAndAccuracy M accuracy) q)
    (hE : E ≤ target M E) (hv : q * 2 ^ E = v) :
    UnpackedFloat.roundWithAccuracy Format.binary64 s M E accuracy = .finite s m e hc.pos := by
  obtain ⟨hlow, hhigh⟩ := hq.bounds
  rw [mantissa_ofMantissaAndAccuracy] at hlow hhigh
  have htarget := h.target_eq hc hlow hhigh hE hv
  have hlt : v < 2 ^ (53 + target M E) := hv ▸ lt_two_zpow_target hhigh
  have hshift := hq.shiftRight (target M E - E).toNat
  have hexp : target M E = ((target M E - E).toNat : Int) + E := by omega
  have hw : q / 2 ^ (target M E - E).toNat * 2 ^ target M E = v := by
    have hpow := two_zpow_add (target M E - E).toNat E
    rw [← hexp] at hpow
    rw [hpow, ← hv]
    field_simp
  rw [UnpackedFloat.roundWithAccuracy, shiftToTargetExponent_eq accuracy hE]
  generalize ExtendedMantissa.ofMantissaAndAccuracy M accuracy >>> (target M E - E).toNat = em
    at hshift ⊢
  generalize q / 2 ^ (target M E - E).toNat = w at hshift hw
  generalize target M E = t at *
  dsimp only
  rcases htarget with rfl | ⟨rfl, hm, he⟩
  · have hround := h.roundedMantissa hshift hw
    have htarget := target_of_canonical hc
    rw [hround, shiftToTargetExponent_eq .exact htarget.ge, htarget, Int.sub_self]
    exact dif_neg hc.pos.ne'
  · have hw53 : w < 9007199254740992 := by
      have hpow := two_zpow_add 53 (e - 1)
      rw [Nat.cast_ofNat] at hpow
      rw [hpow, ← hw] at hlt
      have hlt' := lt_of_mul_lt_mul_right hlt (two_zpow_pos (e - 1)).le
      norm_num at hlt'
      exact hlt'
    have hround := h.roundedMantissa_carry hm he hshift hw hw53
    have htarget := target_of_carry he
    subst hm
    rw [hround, shiftToTargetExponent_eq .exact (by omega), htarget, sub_sub_cancel]
    rfl

end Storyline.Decimal
