import Storyline.Decimal.Reading
import Storyline.Proofs.Decimal.Rounding

/-!
# Decimals read as doubles

A decimal is read by a product or a quotient of exact numbers, with one rounding at the end.
Small decimals are computed from doubles that are exact, all others from natural numbers.

* `Rounds.mul`, `Rounds.div`: products and quotients of exact numbers;
* `Whole`: the natural number is a double; `Exact`: it is that double;
* `exact_toFloat`, `exact_powerOfTen`: the numbers of the fast path;
* `Rounds.ofScientific_up`, `Rounds.ofScientific_down`: both ways of reading;
* `value`: the number that a decimal stands for;
* `Rounds.toFloat`: a decimal that is rounded to a double is read as that double.
-/

namespace Storyline.Decimal

open Float.Model
open UnpackedFloat (ExtendedMantissa Accuracy)

variable {m : Nat} {e : Int} {v : ℚ}

/-- A mantissa with all its bits, or at the least exponent, needs no bits from below. -/
theorem le_target_of_full {M : Nat} {E : Int} (h : 4503599627370496 ≤ M ∨ E ≤ -1074) :
    E ≤ target M E := by
  have hlog : 4503599627370496 ≤ M → 52 ≤ M.log2 := fun hM =>
    (Nat.le_log2 (by omega)).mpr hM
  unfold target
  omega

/-- A product is exact, and is rounded once. -/
theorem Rounds.mul (h : Rounds m e v) (hc : Canonical m e) {m₁ m₂ : Nat} {e₁ e₂ : Int}
    (h₁ : 0 < m₁) (h₂ : 0 < m₂) (hfull : 4503599627370496 ≤ m₁ * m₂)
    (hv : (m₁ * 2 ^ e₁) * (m₂ * 2 ^ e₂) = v) :
    UnpackedFloat.mul Format.binary64 (.finite .positive m₁ e₁ h₁) (.finite .positive m₂ e₂ h₂) =
      .finite .positive m e hc.pos := by
  refine h.roundWithAccuracy hc .positive (approximates_exact (m₁ * m₂))
    (le_target_of_full (.inl hfull)) ?_
  rw [← hv, Nat.cast_mul, zpow_add₀ (by norm_num)]
  ring

/-- A quotient is formed with all the bits that a double has. -/
theorem le_target_div {m₁ m₂ : Nat} {d : Int} (h₁ : 0 < m₁) (h₂ : 0 < m₂) :
    min d (max ((m₁.log2 : Int) - m₂.log2 + d - 53) (-1074)) ≤
      target (m₁ <<< (d - min d (max ((m₁.log2 : Int) - m₂.log2 + d - 53) (-1074))).toNat / m₂)
        (min d (max ((m₁.log2 : Int) - m₂.log2 + d - 53) (-1074))) := by
  generalize hE : min d (max ((m₁.log2 : Int) - m₂.log2 + d - 53) (-1074)) = E
  refine le_target_of_full ?_
  by_cases hleast : E ≤ -1074
  · exact Or.inr hleast
  · left
    have hshift : m₂.log2 + 53 ≤ m₁.log2 + (d - E).toNat := by omega
    rw [Nat.le_div_iff_mul_le h₂, Nat.shiftLeft_eq]
    calc 4503599627370496 * m₂ ≤ 2 ^ 52 * 2 ^ (m₂.log2 + 1) :=
          Nat.mul_le_mul_left _ Nat.lt_log2_self.le
      _ = 2 ^ (m₂.log2 + 53) := by rw [← Nat.pow_add]; congr 1; omega
      _ ≤ 2 ^ (m₁.log2 + (d - E).toNat) := Nat.pow_le_pow_right (by decide) hshift
      _ = 2 ^ m₁.log2 * 2 ^ (d - E).toNat := Nat.pow_add ..
      _ ≤ m₁ * 2 ^ (d - E).toNat := Nat.mul_le_mul_right _ (Nat.log2_self_le h₁.ne')

theorem divCore_eq (m₁ m₂ : Nat) (e₁ e₂ : Int) {E : Int}
    (hE : min (e₁ - e₂) (max ((m₁.log2 : Int) - m₂.log2 + (e₁ - e₂) - 53) (-1074)) = E) :
    UnpackedFloat.divCore Format.binary64 m₁ e₁ m₂ e₂ =
      (m₁ <<< (e₁ - e₂ - E).toNat / m₂, E,
        UnpackedFloat.accuracyOfFraction (m₁ <<< (e₁ - e₂ - E).toNat % m₂) m₂) := by
  have htarget : min (e₁ - e₂) (Format.binary64.targetExponent
      (totalExponent m₁ e₁ - totalExponent m₂ e₂)) = E := by
    have hformat : Format.binary64.targetExponent (totalExponent m₁ e₁ - totalExponent m₂ e₂) =
        max ((m₁.log2 : Int) + 1 + e₁ - (m₂.log2 + 1 + e₂) - 53) (-1074) := rfl
    rw [hformat, ← hE]
    congr 2
    omega
  rw [UnpackedFloat.divCore, htarget]

/-- A quotient is rounded once. -/
theorem Rounds.div (h : Rounds m e v) (hc : Canonical m e) {m₁ m₂ : Nat} {e₁ e₂ : Int}
    (h₁ : 0 < m₁) (h₂ : 0 < m₂) (hv : (m₁ * 2 ^ e₁) / (m₂ * 2 ^ e₂) = v) :
    UnpackedFloat.div Format.binary64 (.finite .positive m₁ e₁ h₁) (.finite .positive m₂ e₂ h₂) =
      .finite .positive m e hc.pos := by
  have hle := le_target_div (d := e₁ - e₂) h₁ h₂
  generalize hE :
    min (e₁ - e₂) (max ((m₁.log2 : Int) - m₂.log2 + (e₁ - e₂) - 53) (-1074)) = E at hle
  have hmin : E ≤ e₁ - e₂ := by omega
  have hdiv : UnpackedFloat.div Format.binary64 (.finite .positive m₁ e₁ h₁)
      (.finite .positive m₂ e₂ h₂) =
        UnpackedFloat.roundWithAccuracy Format.binary64 .positive
          (UnpackedFloat.divCore Format.binary64 m₁ e₁ m₂ e₂).1
          (UnpackedFloat.divCore Format.binary64 m₁ e₁ m₂ e₂).2.1
          (UnpackedFloat.divCore Format.binary64 m₁ e₁ m₂ e₂).2.2 := rfl
  rw [hdiv, divCore_eq m₁ m₂ e₁ e₂ hE]
  refine h.roundWithAccuracy hc .positive (approximates_div _ h₂) hle ?_
  have hpow := two_zpow_add (e₁ - e₂ - E).toNat E
  have hexp : ((e₁ - e₂ - E).toNat : Int) + E = e₁ - e₂ := by omega
  rw [hexp, zpow_sub₀ (by norm_num)] at hpow
  have hshift : ((m₁ <<< (e₁ - e₂ - E).toNat : Nat) : ℚ) = m₁ * 2 ^ (e₁ - e₂ - E).toNat := by
    rw [Nat.shiftLeft_eq]
    push_cast
    rfl
  calc ((m₁ <<< (e₁ - e₂ - E).toNat : Nat) : ℚ) / m₂ * 2 ^ E
      = m₁ / m₂ * (2 ^ (e₁ - e₂ - E).toNat * 2 ^ E) := by rw [hshift]; ring
    _ = m₁ / m₂ * (2 ^ e₁ / 2 ^ e₂) := by rw [hpow]
    _ = v := by rw [← hv, mul_div_mul_comm]

/-! ## Natural numbers that are doubles -/

/-- The double is the natural number, and its first bit is set. -/
def Exact (x : Float) (n : Nat) : Prop :=
  ∃ m e, Binary.ofFloat x = .finite false m e ∧ Canonical m e ∧ 4503599627370496 ≤ m ∧
    (m * 2 ^ e : ℚ) = n

/-- Arithmetic sees the parts of a positive double. -/
theorem unpack_of_ofFloat {x : Float} (hc : Canonical m e)
    (h : Binary.ofFloat x = .finite false m e) :
    x.toModel.unpack = .finite .positive m e hc.pos := by
  rw [eq_of_ofFloat h (ofFloat_pack hc false)]
  exact unpack_pack hc false

/-- A natural number as a mantissa and an exponent, moved until its first bit is in place. -/
def normal (n : Nat) : Nat × Int :=
  (n * Nat.pow 2 (52 - n.log2) / Nat.pow 2 (n.log2 - 52), (n.log2 : Int) - 52)

/-- The natural number is a double: no bit is lost when it is moved. -/
def Whole (n : Nat) : Prop :=
  4503599627370496 ≤ (normal n).1 ∧ (normal n).1 < 9007199254740992 ∧ n.log2 < 100 ∧
    (normal n).1 * Nat.pow 2 (n.log2 - 52) = n * Nat.pow 2 (52 - n.log2)

instance (n : Nat) : Decidable (Whole n) := inferInstanceAs (Decidable (_ ∧ _))

theorem Whole.canonical {n : Nat} (h : Whole n) : Canonical (normal n).1 (normal n).2 := by
  obtain ⟨hfull, hless, hlog, -⟩ := h
  have hexponent : (normal n).2 = (n.log2 : Int) - 52 := rfl
  exact ⟨by omega, hless, by omega, by omega, .inl hfull⟩

theorem Whole.value_eq {n : Nat} (h : Whole n) : ((normal n).1 * 2 ^ (normal n).2 : ℚ) = n := by
  obtain ⟨-, -, -, heq⟩ := h
  have hcast : ((normal n).1 : ℚ) * 2 ^ (n.log2 - 52) = n * 2 ^ (52 - n.log2) := by
    exact_mod_cast heq
  have hexp : (2 : ℚ) ^ (normal n).2 = 2 ^ (n.log2 - 52) / 2 ^ (52 - n.log2) := by
    have hup : ((n.log2 : Int) - 52).toNat = n.log2 - 52 := by omega
    have hdown : (-((n.log2 : Int) - 52)).toNat = 52 - n.log2 := by omega
    rw [normal, zpow_eq_div (by norm_num), hup, hdown]
  rw [hexp, mul_div_assoc', hcast]
  field_simp

theorem Whole.exact {x : Float} {n : Nat} (h : Whole n)
    (hx : Binary.ofFloat x = .finite false (normal n).1 (normal n).2) : Exact x n :=
  ⟨_, _, hx, h.canonical, h.1, h.value_eq⟩

section Small

variable {n : Nat} (hpos : 0 < n) (hlt : n < 9007199254740992)

include hpos hlt

theorem normal_of_lt : normal n = (n <<< (52 - n.log2), (n.log2 : Int) - 52) := by
  have hlog : n.log2 < 53 := (Nat.log2_lt hpos.ne').mpr hlt
  have hzero : n.log2 - 52 = 0 := by omega
  rw [normal, hzero, Nat.shiftLeft_eq]
  exact congrArg (·, _) (Nat.div_one _)

/-- A natural number below `2 ^ 53` is a double. -/
theorem whole_of_lt : Whole n := by
  have hlow : 2 ^ n.log2 ≤ n := Nat.log2_self_le hpos.ne'
  have hhigh : n < 2 ^ (n.log2 + 1) := Nat.lt_log2_self
  have hlog : n.log2 < 53 := (Nat.log2_lt hpos.ne').mpr hlt
  have hzero : n.log2 - 52 = 0 := by omega
  rw [Whole, normal_of_lt hpos hlt, hzero, Nat.shiftLeft_eq]
  refine ⟨?_, ?_, by omega, Nat.mul_one _⟩
  · calc 4503599627370496 = 2 ^ n.log2 * 2 ^ (52 - n.log2) := by
          rw [← Nat.pow_add, Nat.add_sub_cancel' (by omega)]
      _ ≤ n * 2 ^ (52 - n.log2) := Nat.mul_le_mul_right _ hlow
  · calc n * 2 ^ (52 - n.log2) < 2 ^ (n.log2 + 1) * 2 ^ (52 - n.log2) :=
          Nat.mul_lt_mul_of_pos_right hhigh (Nat.two_pow_pos _)
      _ = 9007199254740992 := by
          rw [← Nat.pow_add, show n.log2 + 1 + (52 - n.log2) = 53 by omega]

/-- It is rounded to itself. -/
theorem round_of_lt (hm : 0 < (normal n).1) :
    UnpackedFloat.round Format.binary64 .positive n 0 =
      .finite .positive (normal n).1 (normal n).2 hm := by
  have hwhole := whole_of_lt hpos hlt
  have hfull := hwhole.1
  have hlog : n.log2 < 53 := (Nat.log2_lt hpos.ne').mpr hlt
  have htarget : target n 0 = (n.log2 : Int) - 52 := by
    unfold target
    omega
  have hamount : (0 - ((n.log2 : Int) - 52)).toNat = 52 - n.log2 := by omega
  have hexponent : (0 : Int) - ((52 - n.log2 : Nat) : Int) = (n.log2 : Int) - 52 := by omega
  have hmantissa : n <<< (52 - n.log2) = (normal n).1 := by rw [normal_of_lt hpos hlt]
  rw [UnpackedFloat.round, targetExponent_eq, htarget, UnpackedFloat.decreaseExponent]
  dsimp only
  rw [hamount, hexponent, hmantissa]
  exact (rounds_self _ _).roundWithAccuracy hwhole.canonical .positive (approximates_exact _)
    (le_target_of_full (.inl hfull)) rfl

theorem exact_toFloat : Exact n.toUInt64.toFloat n := by
  have hwhole := whole_of_lt hpos hlt
  have hnat : n.toUInt64.toNat = n := by
    show n % 2 ^ 64 = n
    omega
  have hcompare : compare (n : Int) 0 = .gt := Int.compare_eq_gt.mpr (by omega)
  have hmodel : n.toUInt64.toFloat =
      .ofModel (.pack (UnpackedFloat.normalize Format.binary64 n.toUInt64.toNat 0 .positive)) := rfl
  refine hwhole.exact ?_
  rw [hmodel, hnat, UnpackedFloat.normalize, hcompare]
  dsimp only
  rw [Int.toNat_natCast, round_of_lt hpos hlt hwhole.canonical.pos]
  exact ofFloat_pack hwhole.canonical false

end Small

/-- The powers of ten that the fast path multiplies with. -/
theorem normal_powerOfTen : ∀ k : Fin Float.exactlyRepresentablePowersOfTen.size,
    Binary.ofFloat Float.exactlyRepresentablePowersOfTen[k] =
        .finite false (normal (10 ^ k.val)).1 (normal (10 ^ k.val)).2 ∧ Whole (10 ^ k.val) := by
  decide +kernel

theorem exact_powerOfTen {k : Nat} (h : k < Float.exactlyRepresentablePowersOfTen.size) :
    Exact Float.exactlyRepresentablePowersOfTen[k] (10 ^ k) :=
  (normal_powerOfTen ⟨k, h⟩).2.exact (normal_powerOfTen ⟨k, h⟩).1

/-! ## Both ways of reading -/

theorem Exact.mul {x y : Float} {a b : Nat} (hx : Exact x a) (hy : Exact y b)
    (h : Rounds m e (a * b)) (hc : Canonical m e) : Binary.ofFloat (x * y) = .finite false m e := by
  obtain ⟨m₁, e₁, hx, hc₁, hfull, ha⟩ := hx
  obtain ⟨m₂, e₂, hy, hc₂, -, hb⟩ := hy
  have hmul : x * y =
      .ofModel (.pack (UnpackedFloat.mul Format.binary64 x.toModel.unpack y.toModel.unpack)) := rfl
  rw [hmul, unpack_of_ofFloat hc₁ hx, unpack_of_ofFloat hc₂ hy,
    h.mul hc hc₁.pos hc₂.pos (hfull.trans (Nat.le_mul_of_pos_right _ hc₂.pos)) (by rw [ha, hb])]
  exact ofFloat_pack hc false

theorem Exact.div {x y : Float} {a b : Nat} (hx : Exact x a) (hy : Exact y b)
    (h : Rounds m e (a / b)) (hc : Canonical m e) : Binary.ofFloat (x / y) = .finite false m e := by
  obtain ⟨m₁, e₁, hx, hc₁, -, ha⟩ := hx
  obtain ⟨m₂, e₂, hy, hc₂, -, hb⟩ := hy
  have hdiv : x / y =
      .ofModel (.pack (UnpackedFloat.div Format.binary64 x.toModel.unpack y.toModel.unpack)) := rfl
  rw [hdiv, unpack_of_ofFloat hc₁ hx, unpack_of_ofFloat hc₂ hy,
    h.div hc hc₁.pos hc₂.pos (by rw [ha, hb])]
  exact ofFloat_pack hc false

/-- The slow path: a decimal within its guards is rounded once. -/
theorem Rounds.ofScientific_unpacked {n : Nat} {k : Int} (h : Rounds m e (n * 10 ^ k))
    (hc : Canonical m e) (hn : n ≠ 0) (hgreatest : k ≤ 2048) (hleast : -(2048 + n.log2 : Int) ≤ k) :
    UnpackedFloat.ofScientific Format.binary64 n k = .finite .positive m e hc.pos := by
  have hbits : (2 : Int) ^ Format.binary64.exponentBits = 2048 := rfl
  rw [UnpackedFloat.ofScientific, dif_neg hn, hbits, if_neg (by omega), if_neg (by omega)]
  by_cases hk : 0 ≤ k
  · rw [if_pos hk]
    have hten : 0 < 10 ^ k.toNat := Nat.pow_pos (by decide)
    have hshift : n <<< Format.binary64.mantissaBits = n * 9007199254740992 := Nat.shiftLeft_eq ..
    refine h.mul hc _ hten ?_ ?_
    · rw [hshift]
      calc 4503599627370496 ≤ n * 9007199254740992 := by omega
        _ ≤ n * 9007199254740992 * 10 ^ k.toNat := Nat.le_mul_of_pos_right _ hten
    · have hbits : -(Format.binary64.mantissaBits : Int) = -53 := rfl
      have hpow : (10 : ℚ) ^ k = 10 ^ k.toNat := by
        rw [← zpow_natCast, Int.toNat_of_nonneg hk]
      rw [hshift, hbits, hpow]
      have hunit : (9007199254740992 : ℚ) * 2 ^ (-53 : Int) = 1 := by norm_num
      push_cast
      rw [mul_one, mul_assoc (n : ℚ), hunit, mul_one]
  · rw [if_neg hk]
    refine h.div hc _ _ ?_
    have hpow : (10 : ℚ) ^ k = (10 ^ (-k).toNat)⁻¹ := by
      rw [← zpow_natCast, Int.toNat_of_nonneg (by omega), zpow_neg, inv_inv]
    rw [hpow]
    push_cast
    rw [mul_one, mul_one, div_eq_mul_inv]

theorem Rounds.ofScientific_up {n k : Nat} (h : Rounds m e (n * 10 ^ k)) (hc : Canonical m e)
    (hn : n ≠ 0) (hk : k ≤ 2048) :
    Binary.ofFloat (Float.ofScientific n false k) = .finite false m e := by
  unfold Float.ofScientific
  split
  · rename_i hfast
    exact (exact_toFloat (Nat.pos_of_ne_zero hn) hfast.1).mul (exact_powerOfTen _)
      (by push_cast; exact h) hc
  · have hv : Rounds m e (n * 10 ^ (k : Int)) := by rwa [zpow_natCast]
    have hmodel := hv.ofScientific_unpacked hc hn (by omega) (by omega)
    have hslow : Binary.ofFloat (.ofModel (.pack
        (UnpackedFloat.ofScientific Format.binary64 n (k : Int)))) = .finite false m e := by
      rw [hmodel]
      exact ofFloat_pack hc false
    exact hslow

theorem Rounds.ofScientific_down {n k : Nat} (h : Rounds m e (n / 10 ^ k)) (hc : Canonical m e)
    (hn : n ≠ 0) (hk : k ≤ 2048 + n.log2) :
    Binary.ofFloat (Float.ofScientific n true k) = .finite false m e := by
  unfold Float.ofScientific
  split
  · rename_i hfast
    exact (exact_toFloat (Nat.pos_of_ne_zero hn) hfast.1).div (exact_powerOfTen _)
      (by push_cast; exact h) hc
  · have hv : Rounds m e (n * 10 ^ (-k : Int)) := by
      rwa [zpow_neg, zpow_natCast, ← div_eq_mul_inv]
    have hmodel := hv.ofScientific_unpacked hc hn (by omega) (by omega)
    have hslow : Binary.ofFloat (.ofModel (.pack
        (UnpackedFloat.ofScientific Format.binary64 n (Int.negOfNat k)))) = .finite false m e := by
      rw [Int.negOfNat_eq, Int.ofNat_eq_natCast, hmodel]
      exact ofFloat_pack hc false
    exact hslow

/-! ## Decimals -/

/-- The number that a decimal stands for. -/
def value (d : Decimal) : ℚ := d.digits * 10 ^ d.exponent

theorem lt_pow_digitCount (n : Nat) : n < 10 ^ digitCount n :=
  (Nat.length_toDigits_le_iff (by decide) (Nat.length_toDigits_pos)).mp (Nat.le_refl _)

theorem pow_digitCount_le {n : Nat} (hn : n ≠ 0) : 10 ^ (digitCount n - 1) ≤ n := by
  by_cases hone : digitCount n = 1
  · rw [hone]
    omega
  · have hpos : 0 < digitCount n := Nat.length_toDigits_pos
    refine Nat.le_of_not_lt fun hlt => ?_
    have hle : digitCount n ≤ digitCount n - 1 :=
      (Nat.length_toDigits_le_iff (by decide) (by omega)).mpr hlt
    omega

theorem digitCount_le_log2 (n : Nat) : digitCount n ≤ n.log2 + 1 :=
  (Nat.length_toDigits_le_iff (by decide) (by omega)).mpr
    (Nat.lt_log2_self.trans_le (Nat.pow_le_pow_left (by decide) _))

/-- A decimal lies below the power of ten at its first digit. -/
theorem value_lt (d : Decimal) : d.value < 10 ^ (d.exponent + digitCount d.digits) := by
  have hpos : (0 : ℚ) < 10 ^ d.exponent := zpow_pos (by norm_num) _
  have hlt : (d.digits : ℚ) < 10 ^ digitCount d.digits := by
    exact_mod_cast lt_pow_digitCount d.digits
  rw [zpow_add₀ (by norm_num), zpow_natCast, mul_comm, value]
  exact mul_lt_mul_of_pos_right hlt hpos

theorem le_value {d : Decimal} (h : d.digits ≠ 0) :
    10 ^ (d.exponent + digitCount d.digits - 1) ≤ d.value := by
  have hpos : (0 : ℚ) < 10 ^ d.exponent := zpow_pos (by norm_num) _
  have hcount : 0 < digitCount d.digits := Nat.length_toDigits_pos
  have hle : (10 ^ (digitCount d.digits - 1) : ℚ) ≤ d.digits := by
    exact_mod_cast pow_digitCount_le h
  have hexp : d.exponent + digitCount d.digits - 1 =
      (digitCount d.digits - 1 : Nat) + d.exponent := by
    omega
  rw [hexp, zpow_add₀ (by norm_num), zpow_natCast, value]
  exact mul_le_mul_of_nonneg_right hle hpos.le

/-- A power of ten is three powers of two at least. -/
theorem two_zpow_le_ten_zpow {a : Int} {b : Nat} (h : a ≤ 3 * b) :
    (2 : ℚ) ^ a ≤ 10 ^ (b : Int) := by
  calc (2 : ℚ) ^ a ≤ 2 ^ ((3 : Int) * b) := zpow_le_zpow_right₀ (by norm_num) h
    _ = 8 ^ (b : Int) := by rw [zpow_mul]; norm_num
    _ ≤ 10 ^ (b : Int) := zpow_le_zpow_left₀ (by omega) (by norm_num) (by norm_num)

/-- No number that is rounded to a positive double is far below it. -/
theorem Rounds.pos (h : Rounds m e v) (hc : Canonical m e) : (2 : ℚ) ^ (e - 1) ≤ v := by
  have hm : (1 : ℚ) ≤ m := by exact_mod_cast hc.pos
  have hpos := two_zpow_pos e
  have hlow := h.low
  rw [zpow_sub_one₀ (by norm_num)]
  nlinarith

theorem Rounds.digits_ne_zero {d : Decimal} (h : Rounds m e d.value) (hc : Canonical m e) :
    d.digits ≠ 0 := by
  intro hzero
  have hpos := (two_zpow_pos (e - 1)).trans_le (h.pos hc)
  rw [value, hzero, Nat.cast_zero, zero_mul] at hpos
  exact lt_irrefl _ hpos

/-- A decimal that is rounded to a double is not too large to be read. -/
theorem Rounds.top_le {d : Decimal} (h : Rounds m e d.value) (hc : Canonical m e) :
    d.exponent + digitCount d.digits ≤ 400 := by
  have hgreatest := hc.greatest
  have hten : (1 : ℚ) < 10 := by norm_num
  have hbelow : (2 : ℚ) ^ (53 + e) ≤ 10 ^ ((400 : Nat) : Int) := two_zpow_le_ten_zpow (by omega)
  have hlt := ((le_value (h.digits_ne_zero hc)).trans_lt (h.lt hc)).trans_le hbelow
  have hexp := (zpow_lt_zpow_iff_right₀ hten).mp hlt
  omega

/-- A decimal that is rounded to a double is not too small to be read. -/
theorem Rounds.le_top {d : Decimal} (h : Rounds m e d.value) (hc : Canonical m e) :
    -400 ≤ d.exponent + digitCount d.digits := by
  have hleast := hc.least
  have hten : (1 : ℚ) < 10 := by norm_num
  have habove : (10 : ℚ) ^ (-((400 : Nat) : Int)) ≤ 2 ^ (e - 1) := by
    have hinv : (2 : ℚ) ^ (1 - e) ≤ 10 ^ ((400 : Nat) : Int) := two_zpow_le_ten_zpow (by omega)
    have hflip : e - 1 = -(1 - e) := by omega
    rw [zpow_neg, hflip, zpow_neg]
    exact inv_anti₀ (two_zpow_pos _) hinv
  have hlt := (habove.trans (h.pos hc)).trans_lt (value_lt d)
  have hexp := (zpow_lt_zpow_iff_right₀ hten).mp hlt
  omega

/-- **Reading**: a decimal that is rounded to a double is read as that double. -/
theorem Rounds.toFloat {d : Decimal} (h : Rounds m e d.value) (hc : Canonical m e) :
    Binary.ofFloat d.toFloat = .finite false m e := by
  have hd := h.digits_ne_zero hc
  have htop := h.top_le hc
  have hbottom := h.le_top hc
  have hcount := digitCount_le_log2 d.digits
  unfold Decimal.toFloat
  dsimp only
  rw [if_neg hd, if_neg (by omega), if_neg (by omega)]
  by_cases hneg : d.exponent < 0
  · rw [if_pos hneg]
    refine Rounds.ofScientific_down ?_ hc hd (by omega)
    have hexp : d.exponent = -(d.exponent.natAbs : Int) := by omega
    rwa [value, hexp, zpow_neg, zpow_natCast, ← div_eq_mul_inv] at h
  · rw [if_neg hneg]
    refine Rounds.ofScientific_up ?_ hc hd (by omega)
    have hexp : d.exponent = (d.exponent.natAbs : Int) := by omega
    rwa [value, hexp, zpow_natCast] at h

end Storyline.Decimal
