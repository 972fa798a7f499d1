import Storyline.Decimal.Binary

/-!
# Doubles and their bits

The exact form of a double is read off its bits, and arithmetic packs a result into bits and
unpacks it again.  For positive doubles the two agree: what is packed is what is read off.

`4503599627370496` is `2 ^ 52`, the place of the first bit of a mantissa.

* `Canonical`: the mantissas and exponents of positive doubles;
* `eq_of_ofFloat`: a finite double is its sign, its mantissa and its exponent;
* `ofFloat_pack`, `unpack_pack`: packed doubles;
* `ofFloat_neg`: the opposite of a double;
* `eq_of_notANumber`, `eq_of_infinite`: the doubles that are not finite.
-/

namespace Storyline.Decimal

open Float.Model

/-- A double is its bits. -/
theorem ext_bits {x y : Float} (h : x.toBits.toNat = y.toBits.toNat) : x = y := by
  cases x with
  | ofModel m =>
    cases y with
    | ofModel n =>
      have hbits : m.toBits = n.toBits := UInt64.toNat_inj.mp h
      cases m
      cases n
      cases hbits
      rfl

/-- The exact value of a sign, eleven exponent bits and fifty-two fraction bits. -/
def Binary.ofParts (negative : Bool) (biased fraction : Nat) : Binary :=
  if biased = 2047 then
    if fraction = 0 then .infinite negative else .notANumber
  else if biased = 0 then .finite negative fraction (-1074)
  else .finite negative (Nat.pow 2 52 + fraction) ((biased : Int) - 1075)

theorem Binary.ofFloat_eq (x : Float) :
    Binary.ofFloat x =
      Binary.ofParts (decide (Nat.pow 2 63 ≤ x.toBits.toNat))
        (x.toBits.toNat / Nat.pow 2 52 % Nat.pow 2 11) (x.toBits.toNat % Nat.pow 2 52) := rfl

/-- The mantissa and the exponent of a positive double: at most fifty-three bits, the first of
them set unless the exponent is the least one. -/
structure Canonical (mantissa : Nat) (exponent : Int) : Prop where
  pos : 0 < mantissa
  lt : mantissa < Nat.pow 2 53
  least : -1074 ≤ exponent
  greatest : exponent ≤ 971
  full : Nat.pow 2 52 ≤ mantissa ∨ exponent = -1074

/-- What the parts of a finite double say about its bits. -/
theorem parts_of_ofFloat {x : Float} {negative : Bool} {m : Nat} {e : Int}
    (h : Binary.ofFloat x = .finite negative m e) :
    ∃ biased fraction : Nat, biased < 2047 ∧ fraction < 4503599627370496 ∧
      x.toBits.toNat =
        (if negative then 9223372036854775808 else 0) + biased * 4503599627370496 + fraction ∧
      (biased = 0 ∧ m = fraction ∧ e = -1074 ∨
        0 < biased ∧ m = 4503599627370496 + fraction ∧ e = biased - 1075) := by
  have hlt : x.toBits.toNat < 2 ^ 64 := x.toBits.toNat_lt
  have h63 : Nat.pow 2 63 = 9223372036854775808 := rfl
  have h52 : Nat.pow 2 52 = 4503599627370496 := rfl
  have h11 : Nat.pow 2 11 = 2048 := rfl
  rw [Binary.ofFloat_eq, h63, h52, h11] at h
  refine ⟨x.toBits.toNat / 4503599627370496 % 2048, x.toBits.toNat % 4503599627370496, ?_⟩
  have hsum : ∀ {b : Bool}, decide (9223372036854775808 ≤ x.toBits.toNat) = b →
      x.toBits.toNat = (if b then 9223372036854775808 else 0) +
        x.toBits.toNat / 4503599627370496 % 2048 * 4503599627370496 +
          x.toBits.toNat % 4503599627370496 := by
    rintro b rfl
    split <;> rename_i hsign <;> rw [decide_eq_true_eq] at hsign <;> omega
  unfold Binary.ofParts at h
  split at h
  · split at h <;> cases h
  · split at h
    · injection h with hnegative hmantissa hexponent
      exact ⟨by omega, by omega, hsum hnegative, Or.inl ⟨by omega, hmantissa.symm, hexponent.symm⟩⟩
    · injection h with hnegative hmantissa hexponent
      exact ⟨by omega, by omega, hsum hnegative, Or.inr ⟨by omega, by omega, by omega⟩⟩

/-- A finite double other than zero has a canonical mantissa and exponent. -/
theorem canonical_of_ofFloat {x : Float} {negative : Bool} {m : Nat} {e : Int}
    (h : Binary.ofFloat x = .finite negative m e) (hm : m ≠ 0) : Canonical m e := by
  have h52 : Nat.pow 2 52 = 4503599627370496 := rfl
  have h53 : Nat.pow 2 53 = 9007199254740992 := rfl
  obtain ⟨biased, fraction, hbiased, hfraction, -, hparts⟩ := parts_of_ofFloat h
  exact ⟨by omega, by omega, by omega, by omega, by omega⟩

/-- A zero has the least exponent. -/
theorem exponent_of_zero {x : Float} {negative : Bool} {e : Int}
    (h : Binary.ofFloat x = .finite negative 0 e) : e = -1074 := by
  obtain ⟨biased, fraction, -, -, -, hparts⟩ := parts_of_ofFloat h
  omega

/-- A finite double is its sign, its mantissa and its exponent. -/
theorem eq_of_ofFloat {x y : Float} {negative : Bool} {m : Nat} {e : Int}
    (hx : Binary.ofFloat x = .finite negative m e) (hy : Binary.ofFloat y = .finite negative m e) :
    x = y := by
  obtain ⟨biased, fraction, -, hfraction, hxbits, hxparts⟩ := parts_of_ofFloat hx
  obtain ⟨biased', fraction', -, hfraction', hybits, hyparts⟩ := parts_of_ofFloat hy
  refine ext_bits ?_
  rw [hxbits, hybits]
  omega

/-! ## Doubles that are not finite -/

/-- There is one double that is no number. -/
theorem eq_of_notANumber {x : Float} (h : Binary.ofFloat x = .notANumber) : x = 0.0 / 0.0 := by
  unfold Binary.ofFloat at h
  dsimp only at h
  split at h
  · rename_i hbiased
    split at h
    · cases h
    · rename_i hfraction
      have hexponent : @Float.Model.UnpackedFloat.unpackExponent Float.Model.Format.binary64
          x.toModel.toBits.toBitVec = -1#_ := by
        apply BitVec.eq_of_toNat_eq
        rw [Float.Model.UnpackedFloat.unpackExponent, BitVec.toNat_cast, BitVec.extractLsb_toNat,
          Nat.shiftRight_eq_div_pow]
        exact hbiased
      have hmantissa : @Float.Model.UnpackedFloat.unpackMantissa Float.Model.Format.binary64
          x.toModel.toBits.toBitVec ≠ 0#_ := by
        intro hzero
        have hnat := congrArg BitVec.toNat hzero
        rw [Float.Model.UnpackedFloat.unpackMantissa, BitVec.toNat_cast, BitVec.extractLsb_toNat,
          Nat.shiftRight_zero] at hnat
        exact hfraction hnat
      have hbits := congrArg BitVec.toNat (x.toModel.valid.eq_packedNaN hexponent hmantissa)
      refine ext_bits ?_
      have hnat : x.toBits.toNat =
          (Float.Model.UnpackedFloat.packedNaN Float.Model.Format.binary64).toNat := hbits
      rw [hnat]
      decide
  · split at h <;> cases h

/-- There are two infinities. -/
theorem eq_of_infinite {x : Float} {negative : Bool} (h : Binary.ofFloat x = .infinite negative) :
    x = if negative then -(1.0 / 0.0) else 1.0 / 0.0 := by
  unfold Binary.ofFloat at h
  dsimp only at h
  have hlt : x.toBits.toNat < 2 ^ 64 := x.toBits.toNat_lt
  split at h
  · rename_i hbiased
    split at h
    · rename_i hfraction
      injection h with hsign
      refine ext_bits ?_
      rw [← hsign]
      have hexponent : x.toBits.toNat / 4503599627370496 % 2048 = 2047 := hbiased
      have hmantissa : x.toBits.toNat % 4503599627370496 = 0 := hfraction
      by_cases hneg : Nat.pow 2 63 ≤ x.toBits.toNat
      · have hval : (-(1.0 / 0.0) : Float).toBits.toNat = 18442240474082181120 := by decide
        have hneg' : 9223372036854775808 ≤ x.toBits.toNat := hneg
        rw [if_pos (decide_eq_true hneg), hval]
        omega
      · have hval : (1.0 / 0.0 : Float).toBits.toNat = 9218868437227405312 := by decide
        have hneg' : ¬ 9223372036854775808 ≤ x.toBits.toNat := hneg
        rw [if_neg (by simpa using hneg), hval]
        omega
    · cases h
  · split at h <;> cases h

/-! ## Packed doubles -/

/-- The sign of a double. -/
def signOf (negative : Bool) : UnpackedFloat.Sign := if negative then .negative else .positive

/-- Packed components as a number. -/
theorem toNat_packComponents (negative : Bool) (biased : BitVec 11) (fraction : BitVec 52) :
    (UnpackedFloat.packComponents Format.binary64 (signOf negative) biased fraction).toNat =
      (if negative then Nat.pow 2 63 else 0) + biased.toNat * Nat.pow 2 52 + fraction.toNat := by
  have happend : ∀ {m n : Nat} (u : BitVec m) (w : BitVec n),
      (u ++ w).toNat = u.toNat * Nat.pow 2 n + w.toNat := by
    intro m n u w
    rw [BitVec.toNat_append, ← Nat.shiftLeft_add_eq_or_of_lt w.isLt, Nat.shiftLeft_eq]
    rfl
  rw [UnpackedFloat.packComponents, happend, happend, Nat.add_mul, Nat.mul_assoc]
  cases negative <;> rfl

theorem unpackSign_packComponents (negative : Bool) (biased : BitVec 11)
    (fraction : BitVec 52) :
    UnpackedFloat.Sign.ofBitVec (UnpackedFloat.unpackSign
      (UnpackedFloat.packComponents Format.binary64 (signOf negative) biased fraction)) =
        signOf negative := by
  have hbiased : biased.toNat < 2048 := biased.isLt
  have hfraction : fraction.toNat < 4503599627370496 := fraction.isLt
  have hbit : UnpackedFloat.unpackSign
      (UnpackedFloat.packComponents Format.binary64 (signOf negative) biased fraction) =
        (signOf negative).toBitVec := by
    apply BitVec.eq_of_toNat_eq
    unfold UnpackedFloat.unpackSign
    rw [BitVec.toNat_cast, BitVec.extractLsb_toNat, Nat.shiftRight_eq_div_pow,
      toNat_packComponents]
    have h63 : Nat.pow 2 63 = 9223372036854775808 := rfl
    have h52 : Nat.pow 2 52 = 4503599627370496 := rfl
    rw [h63, h52]
    cases negative
    · show (0 + biased.toNat * 4503599627370496 + fraction.toNat) / 9223372036854775808 % 2 = 0
      omega
    · show (9223372036854775808 + biased.toNat * 4503599627370496 + fraction.toNat) /
        9223372036854775808 % 2 = 1
      omega
  rw [hbit]
  cases negative <;> rfl

/-- The exact value of packed components. -/
theorem ofFloat_of_components {x : Float} {negative : Bool} {biased : BitVec 11}
    {fraction : BitVec 52}
    (h : x.toModel.toBits.toBitVec =
      UnpackedFloat.packComponents Format.binary64 (signOf negative) biased fraction) :
    Binary.ofFloat x = Binary.ofParts negative biased.toNat fraction.toNat := by
  have hbits : x.toBits.toNat =
      (if negative then 9223372036854775808 else 0) + biased.toNat * 4503599627370496 +
        fraction.toNat :=
    (congrArg BitVec.toNat h).trans (toNat_packComponents negative biased fraction)
  have hbiased : biased.toNat < 2048 := biased.isLt
  have hfraction : fraction.toNat < 4503599627370496 := fraction.isLt
  have h63 : Nat.pow 2 63 = 9223372036854775808 := rfl
  have h52 : Nat.pow 2 52 = 4503599627370496 := rfl
  have h11 : Nat.pow 2 11 = 2048 := rfl
  rw [Binary.ofFloat_eq, h63, h52, h11]
  congr 1
  · cases negative <;> simp at hbits ⊢ <;> omega
  · cases negative <;> simp at hbits ⊢ <;> omega
  · cases negative <;> simp at hbits ⊢ <;> omega

/-- What a packed positive double is made of. -/
theorem exists_components {m : Nat} {e : Int} (h : Canonical m e) (negative : Bool) :
    ∃ (biased : BitVec 11) (fraction : BitVec 52),
      UnpackedFloat.pack Format.binary64 (.finite (signOf negative) m e h.pos) =
        UnpackedFloat.packComponents Format.binary64 (signOf negative) biased fraction ∧
      (biased.toNat = (e + 1075).toNat ∧ m = 4503599627370496 + fraction.toNat ∨
        biased.toNat = 0 ∧ e = -1074 ∧ m = fraction.toNat) := by
  obtain ⟨hpos, hlt, hleast, hgreatest, hfull⟩ := h
  have h52 : Nat.pow 2 52 = 4503599627370496 := rfl
  have h53 : Nat.pow 2 53 = 9007199254740992 := rfl
  rw [h53] at hlt
  rw [h52] at hfull
  have hbiased :
      (e + (Format.binary64.exponentBias : Int) + (52 : Nat)).toNat = (e + 1075).toNat := by
    have hbias : Format.binary64.exponentBias = 1023 := rfl
    rw [hbias]
    omega
  have hrange : ¬ 2 ^ 11 ≤ (e + 1075).toNat + 1 := by omega
  have hlog : m.log2 + 1 = Format.binary64.mantissaBits ↔ 4503599627370496 ≤ m := by
    have hbits : Format.binary64.mantissaBits = 53 := rfl
    have hlow : 52 ≤ m.log2 ↔ 2 ^ 52 ≤ m := Nat.le_log2 (by omega)
    have hhigh : m.log2 < 53 ↔ m < 2 ^ 53 := Nat.log2_lt (by omega)
    rw [hbits]
    omega
  unfold UnpackedFloat.pack
  simp only [hbiased, if_neg hrange, hlog]
  by_cases hnormal : 4503599627370496 ≤ m
  · rw [if_pos hnormal]
    refine ⟨_, _, rfl, Or.inl ⟨?_, ?_⟩⟩
    · rw [BitVec.toNat_ofNat]
      omega
    · rw [BitVec.toNat_ofNat]
      omega
  · rw [if_neg hnormal]
    refine ⟨_, _, rfl, Or.inr ⟨rfl, by omega, ?_⟩⟩
    rw [BitVec.toNat_ofNat]
    omega

/-- A packed double has the parts that it was packed from. -/
theorem ofFloat_pack {m : Nat} {e : Int} (h : Canonical m e) (negative : Bool) :
    Binary.ofFloat (.ofModel (.pack (.finite (signOf negative) m e h.pos))) =
      .finite negative m e := by
  obtain ⟨biased, fraction, hpack, hparts⟩ := exists_components h negative
  have h52 : Nat.pow 2 52 = 4503599627370496 := rfl
  have hgreatest := h.greatest
  have hleast := h.least
  rw [ofFloat_of_components (x := .ofModel (.pack (.finite (signOf negative) m e h.pos))) hpack,
    Binary.ofParts, h52]
  rcases hparts with ⟨hbiased, hm⟩ | ⟨hbiased, he, hm⟩
  · rw [if_neg (by omega), if_neg (by omega), ← hm, hbiased]
    congr 1
    omega
  · rw [if_neg (by omega), if_pos hbiased, hm, he]

theorem finite_congr {s : UnpackedFloat.Sign} {m n : Nat} {e f : Int} {hm : 0 < m} {hn : 0 < n}
    (hmantissa : m = n) (hexponent : e = f) :
    UnpackedFloat.finite s m e hm = .finite s n f hn := by
  subst hmantissa hexponent
  rfl

section Unpack

variable {bits : BitVec Format.binary64.numBits} {s : UnpackedFloat.Sign} {biased : BitVec 11}
  {fraction : BitVec 52}
  (hsign : UnpackedFloat.Sign.ofBitVec (UnpackedFloat.unpackSign bits) = s)
  (hbiased : UnpackedFloat.unpackExponent bits = biased)
  (hfraction : UnpackedFloat.unpackMantissa bits = fraction)

include hsign hbiased hfraction

/-- The first bit of a mantissa is not packed. -/
theorem unpack_of_normal (hall : biased ≠ -1#_) (hzero : biased ≠ 0#_)
    (hpos : 0 < (1#1 ++ fraction).toNat) :
    UnpackedFloat.unpack Format.binary64 bits =
      .finite s (1#1 ++ fraction).toNat
        (biased.toNat - (Format.binary64.exponentBias + (52 : Nat))) hpos := by
  subst hsign hbiased hfraction
  unfold UnpackedFloat.unpack
  dsimp only
  rw [if_neg hall, if_neg hzero]

/-- At the least exponent the mantissa is packed as it is. -/
theorem unpack_of_subnormal (hzero : biased = 0#_) (hpos : 0 < fraction.toNat) :
    UnpackedFloat.unpack Format.binary64 bits =
      .finite s fraction.toNat
        (biased.toNat - (Format.binary64.exponentBias + (52 : Nat)) + 1) hpos := by
  have hall : biased ≠ -1#_ := by
    rw [hzero]
    decide
  have hne : fraction ≠ 0#_ := by
    intro heq
    have hnat : fraction.toNat = 0 := congrArg BitVec.toNat heq
    omega
  subst hsign hbiased hfraction
  unfold UnpackedFloat.unpack
  dsimp only
  rw [if_neg hall, if_pos hzero, dif_neg hne]

end Unpack

/-- Packing loses nothing. -/
theorem unpack_pack {m : Nat} {e : Int} (h : Canonical m e) (negative : Bool) :
    (Float.Model.pack (.finite (signOf negative) m e h.pos)).unpack =
      .finite (signOf negative) m e h.pos := by
  obtain ⟨biased, fraction, hpack, hparts⟩ := exists_components h negative
  have hgreatest := h.greatest
  have hleast := h.least
  have hpos := h.pos
  have hbias : Format.binary64.exponentBias = 1023 := rfl
  have hsign := unpackSign_packComponents negative biased fraction
  have hunpack : (Float.Model.pack (.finite (signOf negative) m e h.pos)).unpack =
      UnpackedFloat.unpack Format.binary64 (UnpackedFloat.packComponents Format.binary64
        (signOf negative) biased fraction) := congrArg (UnpackedFloat.unpack Format.binary64) hpack
  rw [hunpack]
  rcases hparts with ⟨hbiased, hm⟩ | ⟨hbiased, he, hm⟩
  · have hall : biased ≠ -1#_ := by
      intro heq
      have hnat : biased.toNat = 2047 := congrArg BitVec.toNat heq
      omega
    have hzero : biased ≠ 0#_ := by
      intro heq
      have hnat : biased.toNat = 0 := congrArg BitVec.toNat heq
      omega
    have hnat : (1#1 ++ fraction).toNat = m := by
      rw [BitVec.toNat_append, ← Nat.shiftLeft_add_eq_or_of_lt fraction.isLt, Nat.shiftLeft_eq, hm]
      rfl
    rw [unpack_of_normal hsign UnpackedFloat.unpackExponent_packComponents
      UnpackedFloat.unpackMantissa_packComponents hall hzero (by omega)]
    exact finite_congr hnat (by rw [hbias]; omega)
  · have hzero : biased = 0#_ := BitVec.eq_of_toNat_eq hbiased
    rw [unpack_of_subnormal hsign UnpackedFloat.unpackExponent_packComponents
      UnpackedFloat.unpackMantissa_packComponents hzero (by omega)]
    exact finite_congr hm.symm (by rw [hbias]; omega)

theorem neg_pack {m : Nat} {e : Int} (h : Canonical m e) :
    -(Float.ofModel (.pack (.finite (signOf false) m e h.pos))) =
      .ofModel (.pack (.finite (signOf true) m e h.pos)) := by
  have hneg : -(Float.ofModel (.pack (.finite (signOf false) m e h.pos))) =
      .ofModel (.pack (Float.Model.pack (.finite (signOf false) m e h.pos)).unpack.neg) := rfl
  rw [hneg, unpack_pack h]
  rfl

/-- The opposite of a positive double. -/
theorem ofFloat_neg {x : Float} {m : Nat} {e : Int} (h : Canonical m e)
    (hx : Binary.ofFloat x = .finite false m e) : Binary.ofFloat (-x) = .finite true m e := by
  rw [eq_of_ofFloat hx (ofFloat_pack h false), neg_pack h]
  exact ofFloat_pack h true

end Storyline.Decimal
