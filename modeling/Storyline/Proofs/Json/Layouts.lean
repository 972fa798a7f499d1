import Storyline.Proofs.Decimal.Shortest
import Storyline.Proofs.Json.Numbers

/-!
# Doubles written and read

A layout writes the shortest decimal of a double, with its point moved or with an exponent.
What is read has the same value as that decimal, so it is the double again.

* `Leads`, `exponentText`: the parts of a number that is written;
* `readNumber_point`, `readNumber_point_exponent`, `readNumber_exponent`: numbers of such parts;
* `ReadsAs`: a text is read as a decimal of the same value;
* `readsAs_renderDecimal`: positional and scientific notation;
* `keeps_of_finite`: the text of a finite double is read as that double.
-/

namespace Storyline

open Decimal

namespace Json

/-! ## The parts of a number that are written -/

/-- Digits that can stand before a point: a zero stands alone. -/
structure Leads (cs : List Char) : Prop where
  digits : ∀ c ∈ cs, isDigit c = true
  head : cs = ['0'] ∨ ∃ c ds, cs = c :: ds ∧ c ≠ '0'

theorem readWhole_of_leads {cs rest : List Char} (h : Leads cs) (hrest : EndsDigits rest) :
    readWhole (cs ++ rest) = some (cs, rest) := by
  rcases h.head with rfl | ⟨c, ds, rfl, hc⟩
  · rfl
  · rw [List.cons_append, readWhole_of_ne_zero hc, ← List.cons_append,
      splitDigits_of_digits h.digits hrest]

theorem readFraction_of_digits {ds rest : List Char} (hne : ds ≠ [])
    (hds : ∀ c ∈ ds, isDigit c = true) (hrest : EndsDigits rest) :
    readFraction ('.' :: (ds ++ rest)) = some (ds, rest) := by
  rw [readFraction, splitDigits_of_digits hds hrest]
  cases ds with
  | nil => exact absurd rfl hne
  | cons d ds => rfl

/-- The digits of an exponent, padded with zeros. -/
def exponentDigits (width : Nat) (exponent : Int) : List Char :=
  let power := Nat.toDigits 10 exponent.natAbs
  List.replicate (width - power.length) '0' ++ power

theorem isDigit_of_mem_exponentDigits {width : Nat} {exponent : Int} {c : Char}
    (h : c ∈ exponentDigits width exponent) : isDigit c = true := by
  rcases List.mem_append.mp h with h | h
  · exact isDigit_of_mem_zeros h
  · exact isDigit_of_mem_toDigits h

theorem exponentDigits_ne_nil (width : Nat) (exponent : Int) : exponentDigits width exponent ≠ [] :=
  List.append_ne_nil_of_right_ne_nil _ Nat.toDigits_ne_nil

theorem natOfDigits_exponentDigits (width : Nat) (exponent : Int) :
    natOfDigits (exponentDigits width exponent) = exponent.natAbs := by
  rw [exponentDigits, natOfDigits_zeros_append, natOfDigits_toDigits]

/-- The exponent of a number, as scientific notation writes it. -/
def exponentText (width : Nat) (exponent : Int) : List Char :=
  'e' :: (if exponent < 0 then '-' else '+') :: exponentDigits width exponent

/-- An exponent is read back, padded or not. -/
theorem readExponent_exponentText (width : Nat) (exponent : Int) :
    readExponent (exponentText width exponent) = some (exponent, []) := by
  have hdigits : ∀ c ∈ exponentDigits width exponent, isDigit c = true :=
    fun c hc => isDigit_of_mem_exponentDigits hc
  have hsplit := splitDigits_of_digits hdigits endsNumber_nil.endsDigits
  have hne := exponentDigits_ne_nil width exponent
  have hnat := natOfDigits_exponentDigits width exponent
  rw [List.append_nil] at hsplit
  rw [exponentText, readExponent_cons, if_pos (by decide)]
  generalize exponentDigits width exponent = ds at hne hsplit hnat
  obtain ⟨d, ds, rfl⟩ := List.exists_cons_of_ne_nil hne
  by_cases hneg : exponent < 0
  · have hsign : exponentSign ('-' :: d :: ds) = (true, d :: ds) := rfl
    have hexp : -(exponent.natAbs : Int) = exponent := by omega
    rw [if_pos hneg, hsign, hsplit]
    dsimp only
    rw [if_pos rfl, hnat, hexp]
  · have hsign : exponentSign ('+' :: d :: ds) = (false, d :: ds) := rfl
    have hexp : (exponent.natAbs : Int) = exponent := by omega
    rw [if_neg hneg, hsign, hsplit]
    dsimp only
    rw [if_neg Bool.false_ne_true, hnat, hexp]

theorem endsDigits_point (cs : List Char) : EndsDigits ('.' :: cs) := by
  intro c hc
  rw [← Option.mem_some_iff.mp hc]
  rfl

theorem endsDigits_exponent (width : Nat) (exponent : Int) :
    EndsDigits (exponentText width exponent) := by
  intro c hc
  rw [← Option.mem_some_iff.mp hc]
  rfl

variable {whole fraction : List Char} {negative : Bool}

/-- Digits with a point are read as a double. -/
theorem readNumber_point (hwhole : Leads whole) (hne : fraction ≠ [])
    (hfraction : ∀ c ∈ fraction, isDigit c = true) :
    readNumber none negative (whole ++ '.' :: fraction) =
      .ok (.float (floatOfParts negative whole fraction 0), []) := by
  have hread := readFraction_of_digits hne hfraction endsNumber_nil.endsDigits
  rw [List.append_nil] at hread
  rw [readNumber_of_whole (readWhole_of_leads hwhole (endsDigits_point fraction)), readAfterWhole,
    hread]
  rfl

/-- Digits with a point and an exponent are read as a double. -/
theorem readNumber_point_exponent (hwhole : Leads whole) (hne : fraction ≠ [])
    (hfraction : ∀ c ∈ fraction, isDigit c = true) (width : Nat) (exponent : Int) :
    readNumber none negative (whole ++ '.' :: (fraction ++ exponentText width exponent)) =
      .ok (.float (floatOfParts negative whole fraction exponent), []) := by
  have hread := readFraction_of_digits hne hfraction (endsDigits_exponent width exponent)
  rw [readNumber_of_whole (readWhole_of_leads hwhole (endsDigits_point _)), readAfterWhole, hread]
  dsimp only [Option.elim_some]
  rw [readExponent_exponentText]
  rfl

/-- Digits with an exponent are read as a double. -/
theorem readNumber_exponent (hwhole : Leads whole) (width : Nat) (exponent : Int) :
    readNumber none negative (whole ++ exponentText width exponent) =
      .ok (.float (floatOfParts negative whole [] exponent), []) := by
  have hread : readFraction (exponentText width exponent) = none := rfl
  rw [readNumber_of_whole (readWhole_of_leads hwhole (endsDigits_exponent width exponent)),
    readAfterWhole, hread]
  dsimp only [Option.elim_none]
  rw [readExponent_exponentText]
  rfl

/-! ## Decimals written and read -/

/-- The text is read as the double of a decimal with the value of `d`, with either sign. -/
def ReadsAs (cs : List Char) (d : Decimal) : Prop :=
  ∃ d' : Decimal, d'.value = d.value ∧ ∀ negative,
    readNumber none negative cs =
      .ok (.float (if negative then -d'.toFloat else d'.toFloat), [])

theorem leads_zero : Leads ['0'] :=
  ⟨fun _ hc => by rw [List.mem_singleton.mp hc]; rfl, Or.inl rfl⟩

theorem leads_toDigits {n : Nat} (hn : n ≠ 0) (zeros : Nat) :
    Leads (Nat.toDigits 10 n ++ List.replicate zeros '0') := by
  obtain ⟨c, cs, hcs, hc⟩ := toDigits_eq_cons hn
  refine ⟨fun d hd => ?_, Or.inr ⟨c, cs ++ List.replicate zeros '0', ?_, hc⟩⟩
  · rcases List.mem_append.mp hd with hd | hd
    · exact isDigit_of_mem_toDigits hd
    · exact isDigit_of_mem_zeros hd
  · rw [hcs, List.cons_append]

theorem readsAs_of_parts {cs whole fraction : List Char} {exponent : Int} {d : Decimal}
    (h : ∀ negative, readNumber none negative cs =
      .ok (.float (floatOfParts negative whole fraction exponent), []))
    (hd : value ⟨natOfDigits (whole ++ fraction), exponent - fraction.length⟩ = d.value) :
    ReadsAs cs d := ⟨_, hd, h⟩

/-- Parts with the digits and the exponent of the decimal itself. -/
theorem readsAs_of_digits {cs whole fraction : List Char} {exponent : Int} {d : Decimal}
    (h : ∀ negative, readNumber none negative cs =
      .ok (.float (floatOfParts negative whole fraction exponent), []))
    (hdigits : natOfDigits (whole ++ fraction) = d.digits)
    (hexponent : exponent - fraction.length = d.exponent) : ReadsAs cs d :=
  readsAs_of_parts h (by rw [hdigits, hexponent])

section Positional

variable {d : Decimal}

/-- The digits of a decimal below one come after zeros. -/
theorem readsAs_below_one {zeros : Nat} (h : d.exponent = -(zeros : Int) - digitCount d.digits) :
    ReadsAs ('0' :: '.' :: (List.replicate zeros '0' ++ Nat.toDigits 10 d.digits)) d := by
  have hfraction : ∀ c ∈ List.replicate zeros '0' ++ Nat.toDigits 10 d.digits,
      isDigit c = true := by
    intro c hc
    rcases List.mem_append.mp hc with hc | hc
    · exact isDigit_of_mem_zeros hc
    · exact isDigit_of_mem_toDigits hc
  refine readsAs_of_digits (fun negative => readNumber_point leads_zero
    (List.append_ne_nil_of_right_ne_nil _ Nat.toDigits_ne_nil) hfraction) ?_ ?_
  · have hnat := natOfDigits_zeros_append (zeros + 1) (Nat.toDigits 10 d.digits)
    rw [natOfDigits_toDigits] at hnat
    exact hnat
  · have hcount : (Nat.toDigits 10 d.digits).length = digitCount d.digits := rfl
    rw [List.length_append, List.length_replicate, hcount]
    omega

variable (hd : d.digits ≠ 0)

include hd

/-- A whole number is written with zeros after its digits. -/
theorem readsAs_whole {zeros : Nat} (h : d.exponent = zeros) :
    ReadsAs (Nat.toDigits 10 d.digits ++ List.replicate zeros '0' ++ ['.', '0']) d := by
  refine readsAs_of_parts (fun negative => readNumber_point (leads_toDigits hd zeros)
    (List.cons_ne_nil '0' []) leads_zero.digits) ?_
  have hnat := natOfDigits_append_zeros (Nat.toDigits 10 d.digits) (zeros + 1)
  rw [List.replicate_succ', ← List.append_assoc, natOfDigits_toDigits, Nat.pow_eq] at hnat
  rw [value, hnat, value, h]
  dsimp only
  push_cast
  rw [List.length_singleton, Nat.cast_one, pow_succ, zpow_natCast]
  norm_num
  ring

/-- Any other decimal has its point between its digits. -/
theorem readsAs_between {places : Nat} (hpos : 0 < places) (hlt : places < digitCount d.digits)
    (h : d.exponent = (places : Int) - digitCount d.digits) :
    ReadsAs ((Nat.toDigits 10 d.digits).take places ++
      '.' :: (Nat.toDigits 10 d.digits).drop places) d := by
  have hcount : (Nat.toDigits 10 d.digits).length = digitCount d.digits := rfl
  have hdigits : ∀ c ∈ Nat.toDigits 10 d.digits, isDigit c = true :=
    fun c hc => isDigit_of_mem_toDigits hc
  have hwhole : Leads ((Nat.toDigits 10 d.digits).take places) := by
    refine ⟨fun c hc => hdigits c (List.mem_of_mem_take hc), ?_⟩
    obtain ⟨c, cs, hcs, hc⟩ := toDigits_eq_cons hd
    refine Or.inr ⟨c, cs.take (places - 1), ?_, hc⟩
    rw [hcs, List.take_cons hpos]
  refine readsAs_of_digits (fun negative => readNumber_point hwhole ?_ ?_) ?_ ?_
  · intro hnil
    rw [List.drop_eq_nil_iff] at hnil
    omega
  · exact fun c hc => hdigits c (List.mem_of_mem_drop hc)
  · rw [List.take_append_drop, natOfDigits_toDigits]
  · rw [List.length_drop, hcount]
    omega

/-- A decimal in positional notation. -/
theorem readsAs_positional :
    ReadsAs (positional (Nat.toDigits 10 d.digits) (d.exponent + digitCount d.digits)) d := by
  have hcount : (Nat.toDigits 10 d.digits).length = digitCount d.digits := rfl
  unfold positional
  rw [hcount]
  by_cases hsmall : d.exponent + digitCount d.digits ≤ 0
  · rw [if_pos hsmall]
    exact readsAs_below_one (by omega)
  · rw [if_neg hsmall]
    by_cases hlong : (digitCount d.digits : Int) ≤ d.exponent + digitCount d.digits
    · rw [if_pos hlong]
      exact readsAs_whole hd (by omega)
    · rw [if_neg hlong]
      exact readsAs_between hd (by omega) (by omega) (by omega)

end Positional

/-- A decimal in scientific notation. -/
theorem readsAs_scientific {d : Decimal} (hd : d.digits ≠ 0) (width : Nat) :
    ReadsAs
      (scientific width (Nat.toDigits 10 d.digits) (d.exponent + digitCount d.digits - 1)) d := by
  have hdigits : ∀ c ∈ Nat.toDigits 10 d.digits, isDigit c = true :=
    fun c hc => isDigit_of_mem_toDigits hc
  have hcount : (Nat.toDigits 10 d.digits).length = digitCount d.digits := rfl
  have hnat := natOfDigits_toDigits d.digits
  obtain ⟨c, cs, hcs, hc⟩ := toDigits_eq_cons hd
  rw [hcs] at hdigits hcount hnat ⊢
  have hwhole : Leads [c] :=
    ⟨fun b hb => hdigits b (List.mem_singleton.mp hb ▸ List.mem_cons_self ..),
      Or.inr ⟨c, [], rfl, hc⟩⟩
  cases cs with
  | nil =>
    refine readsAs_of_digits (fun negative => readNumber_exponent hwhole width _) hnat ?_
    rw [← hcount]
    simp
  | cons b bs =>
    refine readsAs_of_digits (fun negative => readNumber_point_exponent hwhole
      (List.cons_ne_nil b bs) (fun a ha => hdigits a (List.mem_cons_of_mem c ha)) width _) hnat ?_
    rw [← hcount, List.length_cons, List.length_cons]
    omega

theorem readsAs_renderDecimal (l : Layout) {d : Decimal} (hd : d.digits ≠ 0) :
    ReadsAs (l.renderDecimal d) d := by
  unfold Layout.renderDecimal
  dsimp only
  split
  · exact readsAs_positional hd
  · exact readsAs_scientific hd l.exponentWidth

/-! ## Doubles written and read -/

/-- The magnitude of a finite double, read with its sign. -/
theorem readNumber_magnitude (l : Layout) {x : Float} {negative : Bool} {m : Nat} {e : Int}
    (hx : Binary.ofFloat x = .finite negative m e) :
    readNumber none negative
        (if m = 0 then ['0', '.', '0'] else l.renderDecimal (shortest m e)) =
      .ok (.float x, []) := by
  by_cases hm : m = 0
  · rw [if_pos hm]
    subst hm
    have he := exponent_of_zero hx
    subst he
    cases negative with
    | false => rw [eq_of_ofFloat (y := 0.0) hx (by decide)]; rfl
    | true => rw [eq_of_ofFloat (y := -0.0) hx (by decide)]; rfl
  · rw [if_neg hm]
    have hc := canonical_of_ofFloat hx hm
    have hrounds := rounds_shortest hc
    obtain ⟨d, hd, hread⟩ := readsAs_renderDecimal l (hrounds.digits_ne_zero hc)
    rw [← hd] at hrounds
    have hpositive := hrounds.toFloat hc
    rw [hread negative]
    cases negative with
    | false => rw [eq_of_ofFloat hx hpositive]; rfl
    | true => rw [eq_of_ofFloat hx (ofFloat_neg hc hpositive)]; rfl

/-- **Doubles read back**: the text of a finite double in any layout is read as that double. -/
theorem keeps_of_finite (l : Layout) {x : Float} (h : isFinite x = true) : l.Keeps x := by
  unfold Layout.Keeps Layout.render
  unfold isFinite at h
  cases hx : Binary.ofFloat x with
  | notANumber =>
    rw [hx] at h
    cases h
  | infinite negative =>
    rw [hx] at h
    cases h
  | finite negative m e =>
    have hread := readNumber_magnitude l hx
    dsimp only
    rw [String.toList_ofList]
    obtain ⟨c, cs, hcs, hc⟩ := head_of_readNumber hread
    rw [hcs] at hread ⊢
    cases negative with
    | false => exact (readScalar_digit hc none 0 cs).trans hread
    | true => exact (readScalar_minus hc none 0 cs).trans hread

end Json

end Storyline
