import Storyline.Decimal.Layout
import Storyline.Decimal.Reading

/-!
# Digits written and read

* `natOfDigits_toDigits`: a number is read back from its digits;
* `natOfDigits_zeros_append`, `natOfDigits_append_zeros`: zeros before and after them;
* `splitDigits_append`: digits end where something else follows.
-/

namespace Storyline.Decimal

/-- The number of a run of digits is the library's. -/
theorem natOfDigits_eq (cs : List Char) : natOfDigits cs = Nat.ofDigitChars 10 cs 0 := by
  have hfold : ∀ (cs : List Char) (m : Nat),
      cs.foldl (fun n c => n * 10 + (c.toNat - 0x30)) m = Nat.ofDigitChars 10 cs m := by
    intro cs
    induction cs with
    | nil => intro m; rw [Nat.ofDigitChars_nil, List.foldl_nil]
    | cons c cs ih =>
      intro m
      rw [List.foldl_cons, ih, Nat.ofDigitChars_cons, Nat.mul_comm m 10]
      rfl
  rw [natOfDigits, hfold]

/-- A number is read back from its digits. -/
theorem natOfDigits_toDigits (n : Nat) : natOfDigits (Nat.toDigits 10 n) = n := by
  rw [natOfDigits_eq, Nat.ofDigitChars_ten_toDigits]

/-- Zeros before the digits do not count. -/
theorem natOfDigits_zeros_append (k : Nat) (cs : List Char) :
    natOfDigits (List.replicate k '0' ++ cs) = natOfDigits cs := by
  rw [natOfDigits_eq, natOfDigits_eq, Nat.ofDigitChars_append, Nat.ofDigitChars_replicate_zero,
    Nat.mul_zero]

/-- Each zero after the digits multiplies by ten. -/
theorem natOfDigits_append_zeros (cs : List Char) (k : Nat) :
    natOfDigits (cs ++ List.replicate k '0') = natOfDigits cs * Nat.pow 10 k := by
  rw [natOfDigits_eq, natOfDigits_eq, Nat.ofDigitChars_append, Nat.ofDigitChars_replicate_zero,
    Nat.mul_comm]
  rfl

theorem isDigit_of_mem_toDigits {n : Nat} {c : Char} (h : c ∈ Nat.toDigits 10 n) :
    isDigit c = true :=
  Nat.isDigit_of_mem_toDigits (by omega) (by omega) h

theorem isDigit_of_mem_zeros {k : Nat} {c : Char} (h : c ∈ List.replicate k '0') :
    isDigit c = true := by
  rw [List.eq_of_mem_replicate h]
  rfl

/-- A power of ten has one digit more than it has tens. -/
theorem lt_digitCount_pow {k : Nat} (hk : 0 < k) : k < digitCount (Nat.pow 10 k) := by
  refine Nat.lt_of_not_le fun hle => ?_
  exact Nat.lt_irrefl _ ((Nat.length_toDigits_le_iff (by decide) hk).mp hle)

/-- The digits of a number start with a zero only if it is zero. -/
theorem toDigits_eq_cons {n : Nat} (hn : n ≠ 0) :
    ∃ c cs, Nat.toDigits 10 n = c :: cs ∧ c ≠ '0' := by
  induction n using Nat.strongRecOn with
  | ind n ih =>
    by_cases hlt : n < 10
    · refine ⟨n.digitChar, [], Nat.toDigits_of_lt_base hlt, ?_⟩
      have hall : ∀ m < 10, m ≠ 0 → m.digitChar ≠ '0' := by decide
      exact hall n hlt hn
    · obtain ⟨c, cs, hcs, hc⟩ := ih (n / 10) (by omega) (by omega)
      refine ⟨c, cs ++ [(n % 10).digitChar], ?_, hc⟩
      rw [Nat.toDigits_of_base_le (by omega) (by omega), hcs, List.cons_append]

/-- What follows a run of digits: nothing, or no digit. -/
def EndsDigits (rest : List Char) : Prop := ∀ c ∈ rest.head?, isDigit c = false

theorem splitDigits_of_endsDigits {rest : List Char} (h : EndsDigits rest) :
    splitDigits rest = ([], rest) := by
  cases rest with
  | nil => rfl
  | cons c cs =>
    have hc : isDigit c = false := h c rfl
    simp [splitDigits, hc]

/-- A run of digits ends where no digit follows. -/
theorem splitDigits_of_digits {ds rest : List Char} (hds : ∀ c ∈ ds, isDigit c = true)
    (hrest : EndsDigits rest) : splitDigits (ds ++ rest) = (ds, rest) := by
  induction ds with
  | nil => exact splitDigits_of_endsDigits hrest
  | cons d ds ih =>
    have hd : isDigit d = true := hds d (List.mem_cons_self ..)
    have htail := ih fun c hc => hds c (List.mem_cons_of_mem d hc)
    simp only [splitDigits, Prod.mk.injEq] at htail
    simp [splitDigits, hd, htail.1, htail.2]

/-- What follows a text does not change the digits at its start. -/
theorem splitDigits_append (cs : List Char) {rest : List Char} (hrest : EndsDigits rest) :
    splitDigits (cs ++ rest) = ((splitDigits cs).1, (splitDigits cs).2 ++ rest) := by
  induction cs with
  | nil => rw [List.nil_append, splitDigits_of_endsDigits hrest]; rfl
  | cons c cs ih =>
    simp only [splitDigits, Prod.mk.injEq] at ih
    by_cases hc : isDigit c = true
    · simp [splitDigits, hc, ih.1, ih.2]
    · simp [splitDigits, hc]

end Storyline.Decimal
