import Storyline.Proofs.Decimal.Nearest

/-!
# The order of doubles

Doubles that are numbers are compared as the numbers that they are.  Arithmetic compares exponents
first and mantissas then, which agrees with the numbers because only one exponent is right for a
mantissa.  The infinities lie beyond all numbers, and what is no number is not compared.

* `Binary.unpacked`, `unpack_eq`: the form in which arithmetic takes a double;
* `Binary.number`, `Binary.rank`: the number that a double is, and its place in the order;
* `exists_compare`: how exact forms are compared;
* `le_iff_rank`, `lt_iff_rank`: how doubles are;
* `unpack_pack_ne`, `isNaN_mul`: packing and multiplying keep numbers;
* `toRat`, `le_iff_toRat`: finite doubles.
-/

namespace Storyline.Decimal

open Float.Model

/-! ## Exact forms -/

/-- The form in which arithmetic takes a double. -/
def Binary.unpacked : Binary → UnpackedFloat
  | .notANumber => .notANumber
  | .infinite negative => .infinity (signOf negative)
  | .finite negative m e =>
    if h : m = 0 then .zero (signOf negative)
    else .finite (signOf negative) m e (Nat.pos_of_ne_zero h)

theorem unpack_eq (x : Float) : x.toModel.unpack = (Binary.ofFloat x).unpacked := by
  cases h : Binary.ofFloat x with
  | notANumber =>
    rw [eq_of_notANumber h]
    rfl
  | infinite negative =>
    rw [eq_of_infinite h]
    cases negative <;> rfl
  | finite negative m e =>
    by_cases hm : m = 0
    · subst hm
      obtain rfl := exponent_of_zero h
      cases negative with
      | false =>
        rw [eq_of_ofFloat (y := 0.0) h (by decide)]
        rfl
      | true =>
        rw [eq_of_ofFloat (y := -0.0) h (by decide)]
        rfl
    · have hc := canonical_of_ofFloat h hm
      rw [eq_of_ofFloat h (ofFloat_pack hc negative), Binary.unpacked, dif_neg hm]
      exact unpack_pack hc negative

/-- The number that a finite double is. -/
def Binary.number : Binary → ℚ
  | .finite negative m e => if negative then -(m * 2 ^ e) else m * 2 ^ e
  | _ => 0

/-- The place of a double in the order of doubles: a number, or beyond all numbers. -/
def Binary.rank : Binary → WithBot (WithTop ℚ)
  | .infinite true => ⊥
  | .infinite false => ⊤
  | b => ((b.number : WithTop ℚ) : WithBot (WithTop ℚ))

theorem magnitude_lt {m₁ m₂ : Nat} {e₁ e₂ : Int} (h₁ : Canonical m₁ e₁) (h₂ : Canonical m₂ e₂)
    (he : e₁ < e₂) : (m₁ * 2 ^ e₁ : ℚ) < m₂ * 2 ^ e₂ := by
  have hfull : 4503599627370496 ≤ m₂ := h₂.full.resolve_right (by have := h₁.least; omega)
  have hlt : m₁ < 9007199254740992 := h₁.lt
  have hm₁ : (m₁ : ℚ) < 9007199254740992 := by exact_mod_cast hlt
  have hm₂ : (4503599627370496 : ℚ) ≤ m₂ := by exact_mod_cast hfull
  have hpow : (2 : ℚ) ^ (e₁ + 1) ≤ 2 ^ e₂ := zpow_le_zpow_right₀ (by norm_num) he
  calc (m₁ * 2 ^ e₁ : ℚ) < 9007199254740992 * 2 ^ e₁ :=
        mul_lt_mul_of_pos_right hm₁ (two_zpow_pos e₁)
    _ = 4503599627370496 * 2 ^ (e₁ + 1) := by rw [zpow_add_one₀ (by norm_num)]; ring
    _ ≤ m₂ * 2 ^ e₂ := mul_le_mul hm₂ hpow (two_zpow_pos _).le (by positivity)

theorem compares_magnitudes {m₁ m₂ : Nat} {e₁ e₂ : Int} (h₁ : Canonical m₁ e₁)
    (h₂ : Canonical m₂ e₂) :
    ((compare e₁ e₂).then (compare m₁ m₂)).Compares (m₁ * 2 ^ e₁ : ℚ) (m₂ * 2 ^ e₂) := by
  rcases lt_trichotomy e₁ e₂ with he | rfl | he
  · rw [compare_lt_iff_lt.mpr he]
    exact magnitude_lt h₁ h₂ he
  · rw [compare_eq_iff_eq.mpr rfl]
    show (compare m₁ m₂).Compares _ _
    have hpos := two_zpow_pos e₁
    rcases lt_trichotomy m₁ m₂ with hm | rfl | hm
    · rw [compare_lt_iff_lt.mpr hm]
      exact mul_lt_mul_of_pos_right (Nat.cast_lt.mpr hm) hpos
    · rw [compare_eq_iff_eq.mpr rfl]
      rfl
    · rw [compare_gt_iff_gt.mpr hm]
      exact mul_lt_mul_of_pos_right (Nat.cast_lt.mpr hm) hpos
  · rw [compare_gt_iff_gt.mpr he]
    exact magnitude_lt h₂ h₁ he

/-- The parts of a finite double. -/
def Binary.Formed : Binary → Prop
  | .finite _ m e => m ≠ 0 → Canonical m e
  | _ => True

theorem formed_ofFloat (x : Float) : (Binary.ofFloat x).Formed := by
  cases h : Binary.ofFloat x with
  | finite negative m e => exact canonical_of_ofFloat h
  | _ => trivial

theorem unpacked_of_ne {negative : Bool} {m : Nat} {e : Int} (hm : m ≠ 0) :
    (Binary.finite negative m e).unpacked =
      .finite (signOf negative) m e (Nat.pos_of_ne_zero hm) :=
  dif_neg hm

theorem number_zero (negative : Bool) (e : Int) : (Binary.finite negative 0 e).number = 0 := by
  cases negative <;> simp [Binary.number]

theorem number_pos {m : Nat} (e : Int) (hm : m ≠ 0) : (0 : ℚ) < (Binary.finite false m e).number :=
  mul_pos (Nat.cast_pos.mpr (Nat.pos_of_ne_zero hm)) (two_zpow_pos e)

theorem number_neg {m : Nat} (e : Int) (hm : m ≠ 0) : (Binary.finite true m e).number < 0 :=
  neg_neg_of_pos (number_pos e hm)

theorem compares_neg {o : Ordering} {p q : ℚ} (h : o.Compares p q) : o.swap.Compares (-p) (-q) := by
  rw [Ordering.compares_swap]
  cases o with
  | lt => exact neg_lt_neg h
  | eq => exact congrArg _ h.symm
  | gt => exact neg_lt_neg h

/-- Finite doubles are compared as numbers. -/
theorem compare_finite {n₁ n₂ : Bool} {m₁ m₂ : Nat} {e₁ e₂ : Int}
    (h₁ : (Binary.finite n₁ m₁ e₁).Formed) (h₂ : (Binary.finite n₂ m₂ e₂).Formed) :
    ∃ o, (Binary.finite n₁ m₁ e₁).unpacked.compare (Binary.finite n₂ m₂ e₂).unpacked = some o ∧
      o.Compares (Binary.finite n₁ m₁ e₁).number (Binary.finite n₂ m₂ e₂).number := by
  by_cases hm₁ : m₁ = 0 <;> by_cases hm₂ : m₂ = 0
  · subst hm₁ hm₂
    rw [number_zero, number_zero]
    exact ⟨.eq, rfl, rfl⟩
  · subst hm₁
    rw [number_zero, unpacked_of_ne hm₂]
    cases n₂ with
    | false => exact ⟨.lt, rfl, number_pos e₂ hm₂⟩
    | true => exact ⟨.gt, rfl, number_neg e₂ hm₂⟩
  · subst hm₂
    rw [number_zero, unpacked_of_ne hm₁]
    cases n₁ with
    | false => exact ⟨.gt, rfl, number_pos e₁ hm₁⟩
    | true => exact ⟨.lt, rfl, number_neg e₁ hm₁⟩
  · rw [unpacked_of_ne hm₁, unpacked_of_ne hm₂]
    have hmagnitudes := compares_magnitudes (h₁ hm₁) (h₂ hm₂)
    cases n₁ <;> cases n₂
    · exact ⟨_, rfl, hmagnitudes⟩
    · exact ⟨.gt, rfl, (number_neg e₂ hm₂).trans (number_pos e₁ hm₁)⟩
    · exact ⟨.lt, rfl, (number_neg e₁ hm₁).trans (number_pos e₂ hm₂)⟩
    · exact ⟨_, rfl, compares_neg hmagnitudes⟩

theorem compares_coe {o : Ordering} {p q : ℚ} (h : o.Compares p q) :
    o.Compares ((p : WithTop ℚ) : WithBot (WithTop ℚ)) ((q : WithTop ℚ) : WithBot (WithTop ℚ)) := by
  cases o with
  | lt => exact WithBot.coe_lt_coe.mpr (WithTop.coe_lt_coe.mpr h)
  | eq => exact congrArg _ (congrArg _ h)
  | gt => exact WithBot.coe_lt_coe.mpr (WithTop.coe_lt_coe.mpr h)

/-- Exact forms are compared by rank. -/
theorem exists_compare {b c : Binary} (hb : b.Formed) (hc : c.Formed) (hbn : b ≠ .notANumber)
    (hcn : c ≠ .notANumber) :
    ∃ o, b.unpacked.compare c.unpacked = some o ∧ o.Compares b.rank c.rank := by
  have hbot : ∀ q : ℚ, (⊥ : WithBot (WithTop ℚ)) < ((q : WithTop ℚ) : WithBot (WithTop ℚ)) :=
    fun q => WithBot.bot_lt_coe _
  have htop : ∀ q : ℚ, ((q : WithTop ℚ) : WithBot (WithTop ℚ)) < ⊤ :=
    fun q => WithBot.coe_lt_coe.mpr (WithTop.coe_lt_top q)
  cases b with
  | notANumber => exact absurd rfl hbn
  | infinite n₁ =>
    cases c with
    | notANumber => exact absurd rfl hcn
    | infinite n₂ =>
      cases n₁ <;> cases n₂
      · exact ⟨.eq, rfl, rfl⟩
      · exact ⟨.gt, rfl, WithBot.bot_lt_coe _⟩
      · exact ⟨.lt, rfl, WithBot.bot_lt_coe _⟩
      · exact ⟨.eq, rfl, rfl⟩
    | finite n₂ m₂ e₂ =>
      by_cases hm₂ : m₂ = 0
      · subst hm₂
        cases n₁
        · exact ⟨.gt, rfl, htop _⟩
        · exact ⟨.lt, rfl, hbot _⟩
      · rw [unpacked_of_ne hm₂]
        cases n₁
        · exact ⟨.gt, rfl, htop _⟩
        · exact ⟨.lt, rfl, hbot _⟩
  | finite n₁ m₁ e₁ =>
    cases c with
    | notANumber => exact absurd rfl hcn
    | infinite n₂ =>
      by_cases hm₁ : m₁ = 0
      · subst hm₁
        cases n₂
        · exact ⟨.lt, rfl, htop _⟩
        · exact ⟨.gt, rfl, hbot _⟩
      · rw [unpacked_of_ne hm₁]
        cases n₂
        · exact ⟨.lt, rfl, htop _⟩
        · exact ⟨.gt, rfl, hbot _⟩
    | finite n₂ m₂ e₂ =>
      obtain ⟨o, ho, hcompares⟩ := compare_finite hb hc
      exact ⟨o, ho, compares_coe hcompares⟩

/-! ## Comparing doubles -/

/-- The place of a double in the order of doubles. -/
def rank (x : Float) : WithBot (WithTop ℚ) := (Binary.ofFloat x).rank

/-- A number is not unpacked as something else. -/
theorem ne_of_isNaN {x : Float} (h : x.isNaN = false) : x.toModel.unpack ≠ .notANumber := by
  intro hx
  have hnan : x.isNaN = x.toModel.unpack.isNaN := rfl
  rw [hnan, hx] at h
  cases h

theorem ne_notANumber {x : Float} (h : x.isNaN = false) : Binary.ofFloat x ≠ .notANumber := by
  intro hx
  refine ne_of_isNaN h ?_
  rw [unpack_eq, hx]
  rfl

section Compare

variable {x y : Float}

theorem exists_compare_float (hx : x.isNaN = false) (hy : y.isNaN = false) :
    ∃ o, x.toModel.unpack.compare y.toModel.unpack = some o ∧ o.Compares (rank x) (rank y) := by
  rw [unpack_eq, unpack_eq]
  exact exists_compare (formed_ofFloat x) (formed_ofFloat y) (ne_notANumber hx) (ne_notANumber hy)

theorem le_iff_rank (hx : x.isNaN = false) (hy : y.isNaN = false) : x ≤ y ↔ rank x ≤ rank y := by
  obtain ⟨o, ho, hcompares⟩ := exists_compare_float hx hy
  have hle : x ≤ y ↔ (x.toModel.unpack.compare y.toModel.unpack).any (·.isLE) = true :=
    decide_eq_true_iff
  rw [hle, ho, Option.any_some, ← hcompares.ne_gt]
  cases o <;> decide

theorem lt_iff_rank (hx : x.isNaN = false) (hy : y.isNaN = false) : x < y ↔ rank x < rank y := by
  obtain ⟨o, ho, hcompares⟩ := exists_compare_float hx hy
  have hlt : x < y ↔ (x.toModel.unpack.compare y.toModel.unpack == some .lt) = true :=
    decide_eq_true_iff
  rw [hlt, ho, ← hcompares.eq_lt]
  cases o <;> decide

end Compare

/-! ## Doubles that are no numbers -/

theorem infinity_ne (s : UnpackedFloat.Sign) : UnpackedFloat.infinity s ≠ .notANumber :=
  UnpackedFloat.noConfusion

theorem zero_ne (s : UnpackedFloat.Sign) : UnpackedFloat.zero s ≠ .notANumber :=
  UnpackedFloat.noConfusion

theorem finite_ne (s : UnpackedFloat.Sign) (m : Nat) (e : Int) (hm : 0 < m) :
    UnpackedFloat.finite s m e hm ≠ .notANumber :=
  UnpackedFloat.noConfusion

theorem zero_or_finite_ne (s : UnpackedFloat.Sign) (m : Nat) (e : Int) :
    (if h : m = 0 then .zero s else .finite s m e (Nat.pos_of_ne_zero h)) ≠
      UnpackedFloat.notANumber := by
  by_cases hm : m = 0
  · rw [dif_pos hm]
    exact zero_ne s
  · rw [dif_neg hm]
    exact finite_ne s m e _

/-- Bits that are all set where the exponent is, and not all zero where the fraction is, are no
number, and no others. -/
theorem unpack_ne {bits : BitVec Format.binary64.numBits} {biased : BitVec 11}
    {fraction : BitVec 52} (hbiased : UnpackedFloat.unpackExponent bits = biased)
    (hfraction : UnpackedFloat.unpackMantissa bits = fraction)
    (h : biased ≠ -1#_ ∨ fraction = 0#_) :
    UnpackedFloat.unpack Format.binary64 bits ≠ .notANumber := by
  subst hbiased hfraction
  unfold UnpackedFloat.unpack
  dsimp only
  by_cases hall : UnpackedFloat.unpackExponent bits = -1#_
  · rw [if_pos hall, if_pos (h.resolve_left (not_not_intro hall))]
    exact infinity_ne _
  · rw [if_neg hall]
    by_cases hlow : UnpackedFloat.unpackExponent bits = 0#_
    · rw [if_pos hlow]
      by_cases hzero : UnpackedFloat.unpackMantissa bits = 0#_
      · rw [dif_pos hzero]
        exact zero_ne _
      · rw [dif_neg hzero]
        exact finite_ne _ _ _ _
    · rw [if_neg hlow]
      exact finite_ne _ _ _ _

theorem unpack_packComponents_ne {s : UnpackedFloat.Sign} {biased : BitVec 11}
    {fraction : BitVec 52} (h : biased ≠ -1#_ ∨ fraction = 0#_) :
    UnpackedFloat.unpack Format.binary64
      (UnpackedFloat.packComponents Format.binary64 s biased fraction) ≠ .notANumber :=
  unpack_ne UnpackedFloat.unpackExponent_packComponents UnpackedFloat.unpackMantissa_packComponents
    h

theorem unpack_pack_ne {u : UnpackedFloat} (h : u ≠ .notANumber) :
    (Float.Model.pack u).unpack ≠ .notANumber := by
  have hpack : (Float.Model.pack u).unpack =
      UnpackedFloat.unpack Format.binary64 (UnpackedFloat.pack Format.binary64 u) := rfl
  rw [hpack]
  cases u with
  | notANumber => exact absurd rfl h
  | infinity s => exact unpack_packComponents_ne (.inr rfl)
  | zero s => exact unpack_packComponents_ne (.inr rfl)
  | finite s m e hm =>
    unfold UnpackedFloat.pack
    dsimp only
    split
    · exact unpack_packComponents_ne (.inr rfl)
    · rename_i hlow
      split
      · refine unpack_packComponents_ne (.inl fun hall => ?_)
        have hnat := congrArg BitVec.toNat hall
        rw [BitVec.toNat_ofNat] at hnat
        have hneg : (-1#_ : BitVec 11).toNat = 2047 := rfl
        omega
      · exact unpack_packComponents_ne (.inl (by decide))

theorem isNaN_of_ne {x : Float} (h : x.toModel.unpack ≠ .notANumber) : x.isNaN = false := by
  show x.toModel.unpack.isNaN = false
  cases hx : x.toModel.unpack with
  | notANumber => exact absurd hx h
  | _ => rfl

/-- A number times a finite one other than zero is a number. -/
theorem isNaN_mul {x y : Float} (hx : x.isNaN = false) {s : UnpackedFloat.Sign} {m : Nat} {e : Int}
    {hm : 0 < m} (hy : y.toModel.unpack = .finite s m e hm) : (x * y).isNaN = false := by
  refine isNaN_of_ne (unpack_pack_ne ?_)
  rw [hy]
  cases h : x.toModel.unpack with
  | notANumber => exact absurd h (ne_of_isNaN hx)
  | infinity sign => exact infinity_ne _
  | zero sign => exact zero_ne _
  | finite sign mantissa exponent hpos => exact zero_or_finite_ne _ _ _

/-! ## Finite doubles -/

/-- The number that a finite double is. -/
def toRat (x : Float) : ℚ := (Binary.ofFloat x).number

section Finite

variable {x y : Float}

theorem isNaN_of_finite (h : isFinite x = true) : x.isNaN = false := by
  refine isNaN_of_ne ?_
  rw [unpack_eq]
  unfold isFinite at h
  cases hx : Binary.ofFloat x with
  | finite negative m e => exact zero_or_finite_ne _ m e
  | _ =>
    rw [hx] at h
    cases h

theorem rank_of_finite (h : isFinite x = true) :
    rank x = ((toRat x : WithTop ℚ) : WithBot (WithTop ℚ)) := by
  unfold isFinite at h
  unfold rank toRat
  cases hx : Binary.ofFloat x with
  | finite negative m e => rfl
  | _ =>
    rw [hx] at h
    cases h

theorem le_iff_toRat (hx : isFinite x = true) (hy : isFinite y = true) :
    x ≤ y ↔ toRat x ≤ toRat y := by
  rw [le_iff_rank (isNaN_of_finite hx) (isNaN_of_finite hy), rank_of_finite hx, rank_of_finite hy,
    WithBot.coe_le_coe, WithTop.coe_le_coe]

end Finite

end Storyline.Decimal
