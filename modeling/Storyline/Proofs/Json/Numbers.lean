import Storyline.Json.Reader
import Storyline.Json.Writer
import Storyline.Proofs.Decimal.Digits

/-!
# Numbers written and read

A number ends where its text ends: what may follow a value in a list or an object
cannot be read as part of it.

* `EndsNumber`: what may follow a number;
* `readNumber_append`: a number is read whatever follows it;
* `readScalar_intChars`: whole numbers, up to the limit on digits;
* `Decimal.Layout.Keeps`: the text of a double reads back;
* `readScalar_render`: doubles.
-/

namespace Storyline

/-- The text of the double, read as a number, gives the double and leaves nothing. -/
def Decimal.Layout.Keeps (l : Layout) (x : Float) : Prop :=
  Json.readScalar none 0 (l.render x).toList = .ok (.float x, [])

namespace Json

open Decimal

/-- A character that a number can go on with. -/
def continuesNumber (c : Char) : Bool :=
  isDigit c || c = '.' || c = 'e' || c = 'E' || c = '+' || c = '-'

/-- What may follow a number: nothing, or a character that no number goes on with. -/
def EndsNumber (rest : List Char) : Prop := ∀ c ∈ rest.head?, continuesNumber c = false

theorem endsNumber_nil : EndsNumber [] := nofun

theorem endsNumber_cons {c : Char} (h : continuesNumber c = false) (cs : List Char) :
    EndsNumber (c :: cs) := by
  intro d hd
  rw [List.head?_cons, Option.mem_some_iff] at hd
  rw [← hd, h]

theorem EndsNumber.endsDigits {rest : List Char} (h : EndsNumber rest) : EndsDigits rest := by
  intro c hc
  have hall := h c hc
  simp only [continuesNumber, Bool.or_eq_false_iff] at hall
  exact hall.1.1.1.1.1

/-- What may follow a number does not start with a given character of numbers. -/
theorem EndsNumber.head_ne {c d : Char} {cs : List Char} (h : EndsNumber (c :: cs))
    (hd : continuesNumber d = true) : c ≠ d := by
  rintro rfl
  have hc := h c rfl
  rw [hd] at hc
  cases hc

/-! ## The parts of a number -/

theorem readWhole_of_ne_zero {c : Char} (hc : c ≠ '0') (cs : List Char) :
    readWhole (c :: cs) =
      match splitDigits (c :: cs) with
      | ([], _) => none
      | split => some split := by
  rw [readWhole.eq_def]
  split
  · rename_i h
    exact absurd (List.cons.inj h).1 hc
  · rfl

/-- The digits before the point start with a digit. -/
theorem head_of_readWhole {cs : List Char} {p : List Char × List Char}
    (h : readWhole cs = some p) : ∃ d ds, cs = d :: ds ∧ isDigit d = true := by
  cases cs with
  | nil => cases h
  | cons c cs =>
    refine ⟨c, cs, rfl, ?_⟩
    by_cases hc : c = '0'
    · rw [hc]
      decide
    · rw [readWhole_of_ne_zero hc] at h
      by_cases hd : isDigit c = true
      · exact hd
      · have hsplit : splitDigits (c :: cs) = ([], c :: cs) := by simp [splitDigits, hd]
        rw [hsplit] at h
        cases h

theorem readWhole_append {cs rest : List Char} {p : List Char × List Char}
    (h : readWhole cs = some p) (hrest : EndsDigits rest) :
    readWhole (cs ++ rest) = some (p.1, p.2 ++ rest) := by
  obtain ⟨c, ds, rfl, -⟩ := head_of_readWhole h
  rw [List.cons_append]
  by_cases hc : c = '0'
  · subst hc
    rw [readWhole] at h ⊢
    rw [← Option.some_inj.mp h]
  · rw [readWhole_of_ne_zero hc] at h ⊢
    rw [← List.cons_append, splitDigits_append _ hrest]
    cases hsplit : splitDigits (c :: ds) with
    | mk digits left =>
      rw [hsplit] at h
      cases digits with
      | nil => cases h
      | cons e es =>
        rw [← Option.some_inj.mp h]

theorem readFraction_append (cs : List Char) {rest : List Char} (hrest : EndsNumber rest) :
    readFraction (cs ++ rest) = (readFraction cs).map fun p => (p.1, p.2 ++ rest) := by
  have hother : ∀ {c : Char} {ds : List Char}, c ≠ '.' → readFraction (c :: ds) = none := by
    intro c ds hc
    rw [readFraction.eq_def]
    split
    · rename_i h
      exact absurd (List.cons.inj h).1 hc
    · rfl
  cases cs with
  | nil =>
    cases rest with
    | nil => rfl
    | cons c cs => rw [List.nil_append, hother (hrest.head_ne (by decide))]; rfl
  | cons c cs =>
    rw [List.cons_append]
    by_cases hc : c = '.'
    · subst hc
      rw [readFraction, readFraction, splitDigits_append _ hrest.endsDigits]
      cases splitDigits cs with
      | mk digits left => cases digits <;> rfl
    · rw [hother hc, hother hc]
      rfl

/-- The sign of an exponent, and what follows it. -/
def exponentSign (cs : List Char) : Bool × List Char :=
  match cs with
  | '-' :: r => (true, r)
  | '+' :: r => (false, r)
  | r => (false, r)

theorem exponentSign_cons {c : Char} (hminus : c ≠ '-') (hplus : c ≠ '+') (cs : List Char) :
    exponentSign (c :: cs) = (false, c :: cs) := by
  unfold exponentSign
  split
  · rename_i h
    exact absurd (List.cons.inj h).1 hminus
  · rename_i h
    exact absurd (List.cons.inj h).1 hplus
  · rfl

theorem exponentSign_append (cs : List Char) {rest : List Char} (hrest : EndsNumber rest) :
    exponentSign (cs ++ rest) = ((exponentSign cs).1, (exponentSign cs).2 ++ rest) := by
  cases cs with
  | nil =>
    cases rest with
    | nil => rfl
    | cons c cs =>
      rw [List.nil_append,
        exponentSign_cons (hrest.head_ne (by decide)) (hrest.head_ne (by decide))]
      rfl
  | cons c cs =>
    rw [List.cons_append]
    by_cases hminus : c = '-'
    · subst hminus
      rfl
    · by_cases hplus : c = '+'
      · subst hplus
        rfl
      · rw [exponentSign_cons hminus hplus, exponentSign_cons hminus hplus]
        rfl

theorem readExponent_cons (c : Char) (cs : List Char) :
    readExponent (c :: cs) =
      if c = 'e' || c = 'E' then
        match splitDigits (exponentSign cs).2 with
        | ([], _) => none
        | (ds, left) =>
          some (if (exponentSign cs).1 then -(natOfDigits ds : Int) else natOfDigits ds, left)
      else none := by
  rw [readExponent.eq_def]
  rfl

theorem readExponent_append (cs : List Char) {rest : List Char} (hrest : EndsNumber rest) :
    readExponent (cs ++ rest) = (readExponent cs).map fun p => (p.1, p.2 ++ rest) := by
  cases cs with
  | nil =>
    cases rest with
    | nil => rfl
    | cons c cs =>
      rw [List.nil_append, readExponent_cons, if_neg]
      · rfl
      · simp [hrest.head_ne (d := 'e') (by decide), hrest.head_ne (d := 'E') (by decide)]
  | cons c cs =>
    rw [List.cons_append, readExponent_cons, readExponent_cons]
    split
    · rw [exponentSign_append cs hrest, splitDigits_append _ hrest.endsDigits]
      cases splitDigits (exponentSign cs).2 with
      | mk digits left => cases digits <;> rfl
    · rfl

/-! ## Whole texts of numbers -/

/-- The number of parts that were read: digits, a fraction and an exponent. -/
def numberOf (limit : Option Nat) (negative : Bool) (whole : List Char)
    (fraction? : Option (List Char × List Char)) (exponent? : Option (Int × List Char))
    (left : List Char) : Except Fault (Json × List Char) :=
  match fraction?, exponent? with
  | none, none =>
    if limit.any (· < whole.length) then .error .numberTooLong
    else .ok (.int (if negative then -(natOfDigits whole : Int) else natOfDigits whole), left)
  | f, e =>
    .ok (.float (floatOfParts negative whole (f.elim [] (·.1)) (e.elim 0 (·.1))),
      e.elim left (·.2))

/-- What is read after the digits before the point. -/
def readAfterWhole (limit : Option Nat) (negative : Bool) (whole cs : List Char) :
    Except Fault (Json × List Char) :=
  numberOf limit negative whole (readFraction cs)
    (readExponent ((readFraction cs).elim cs (·.2))) ((readFraction cs).elim cs (·.2))

theorem readNumber_of_whole {limit : Option Nat} {negative : Bool} {cs : List Char}
    {p : List Char × List Char} (h : readWhole cs = some p) :
    readNumber limit negative cs = readAfterWhole limit negative p.1 p.2 := by
  unfold readNumber readAfterWhole
  rw [h]
  cases hf : readFraction p.2 with
  | none =>
    cases he : readExponent p.2 with
    | none =>
      simp only [Option.elim_some, pure_bind, hf, Option.elim_none, he, numberOf,
        Option.isNone_none, Bool.and_self, if_true]
      split <;> rfl
    | some e =>
      simp only [Option.elim_some, pure_bind, hf, Option.elim_none, he, numberOf,
        Option.isNone_some, Bool.and_false, Bool.false_eq_true, if_false]
      rfl
  | some f =>
    simp only [Option.elim_some, pure_bind, hf, Option.isNone_some, Bool.false_and,
      Bool.false_eq_true, if_false]
    cases readExponent f.2 <;> rfl

theorem readNumber_of_no_whole {limit : Option Nat} {negative : Bool} {cs : List Char}
    (h : readWhole cs = none) : readNumber limit negative cs = .error .malformed := by
  unfold readNumber
  rw [h]
  rfl

/-- A number that is read starts with a digit. -/
theorem head_of_readNumber {limit : Option Nat} {negative : Bool} {cs : List Char}
    {r : Json × List Char} (h : readNumber limit negative cs = .ok r) :
    ∃ d ds, cs = d :: ds ∧ isDigit d = true := by
  cases hw : readWhole cs with
  | none =>
    rw [readNumber_of_no_whole hw] at h
    cases h
  | some p => exact head_of_readWhole hw

theorem numberOf_append (limit : Option Nat) (negative : Bool) (whole : List Char)
    (fraction? : Option (List Char × List Char)) (exponent? : Option (Int × List Char))
    (left rest : List Char) :
    numberOf limit negative whole (fraction?.map fun p => (p.1, p.2 ++ rest))
        (exponent?.map fun p => (p.1, p.2 ++ rest)) (left ++ rest) =
      (numberOf limit negative whole fraction? exponent? left).map
        fun p => (p.1, p.2 ++ rest) := by
  cases fraction? with
  | some f => cases exponent? <;> rfl
  | none =>
    cases exponent? with
    | some e => rfl
    | none =>
      simp only [Option.map_none, numberOf]
      split <;> rfl

theorem readAfterWhole_append (limit : Option Nat) (negative : Bool) (whole cs : List Char)
    {rest : List Char} (hrest : EndsNumber rest) :
    readAfterWhole limit negative whole (cs ++ rest) =
      (readAfterWhole limit negative whole cs).map fun p => (p.1, p.2 ++ rest) := by
  have hleft : ((readFraction cs).map fun p => (p.1, p.2 ++ rest)).elim (cs ++ rest) (·.2) =
      (readFraction cs).elim cs (·.2) ++ rest := by
    cases readFraction cs <;> rfl
  unfold readAfterWhole
  rw [readFraction_append cs hrest, hleft, readExponent_append _ hrest, numberOf_append]

/-- A number is read whatever follows it. -/
theorem readNumber_append {limit : Option Nat} {negative : Bool} {cs rest : List Char}
    {v : Json} {left : List Char} (h : readNumber limit negative cs = .ok (v, left))
    (hrest : EndsNumber rest) :
    readNumber limit negative (cs ++ rest) = .ok (v, left ++ rest) := by
  cases hw : readWhole cs with
  | none =>
    rw [readNumber_of_no_whole hw] at h
    cases h
  | some p =>
    rw [readNumber_of_whole hw] at h
    rw [readNumber_of_whole (readWhole_append hw hrest.endsDigits),
      readAfterWhole_append _ _ _ _ hrest, h]
    rfl

/-- No limit on digits bears on a double. -/
theorem readNumber_float {limit : Option Nat} {negative : Bool} {cs left : List Char} {x : Float}
    (h : readNumber none negative cs = .ok (.float x, left)) :
    readNumber limit negative cs = .ok (.float x, left) := by
  cases hw : readWhole cs with
  | none =>
    rw [readNumber_of_no_whole hw] at h
    cases h
  | some p =>
    rw [readNumber_of_whole hw] at h ⊢
    unfold readAfterWhole numberOf at h ⊢
    split at h
    · split at h <;> cases h
    · exact h

/-- A number without a fraction and an exponent, up to the limit on its digits. -/
theorem readNumber_toDigits (limit : Option Nat) (negative : Bool) (n : Nat) {rest : List Char}
    (hrest : EndsNumber rest) :
    readNumber limit negative (Nat.toDigits 10 n ++ rest) =
      if limit.any (· < digitCount n) then .error .numberTooLong
      else .ok (.int (if negative then -(n : Int) else n), rest) := by
  have hwhole : readWhole (Nat.toDigits 10 n ++ rest) = some (Nat.toDigits 10 n, rest) := by
    by_cases hn : n = 0
    · subst hn
      rw [Nat.toDigits_zero]
      rfl
    · obtain ⟨c, cs, hcs, hc⟩ := toDigits_eq_cons hn
      rw [hcs, List.cons_append, readWhole_of_ne_zero hc, ← List.cons_append, ← hcs,
        splitDigits_of_digits (fun d hd => isDigit_of_mem_toDigits hd) hrest.endsDigits, hcs]
  have hfraction : readFraction rest = none := readFraction_append [] hrest
  have hexponent : readExponent rest = none := readExponent_append [] hrest
  rw [readNumber_of_whole hwhole, readAfterWhole, hfraction, Option.elim_none, hexponent, numberOf,
    natOfDigits_toDigits, digitCount]

/-! ## Scalars that are numbers -/

theorem readScalar_digit {d : Char} (hd : isDigit d = true) (limit : Option Nat) (width : Nat)
    (cs : List Char) : readScalar limit width (d :: cs) = readNumber limit false (d :: cs) := by
  rw [readScalar.eq_def]
  split
  case h_9 => rfl
  all_goals
    rename_i h
    obtain ⟨rfl, -⟩ := List.cons.inj h
    exact absurd hd (by decide)

theorem readScalar_minus {d : Char} (hd : isDigit d = true) (limit : Option Nat) (width : Nat)
    (cs : List Char) :
    readScalar limit width ('-' :: d :: cs) = readNumber limit true (d :: cs) := by
  rw [readScalar.eq_def]
  split
  case h_8 h =>
    rw [← (List.cons.inj h).2]
  case h_9 h => exact absurd rfl (h _)
  case h_7 h =>
    obtain ⟨rfl, -⟩ := List.cons.inj (List.cons.inj h).2
    exact absurd hd (by decide)
  all_goals
    rename_i h
    exact absurd (List.cons.inj h).1 (by decide)

theorem cons_of_toDigits (n : Nat) :
    ∃ d ds, Nat.toDigits 10 n = d :: ds ∧ isDigit d = true := by
  cases h : Nat.toDigits 10 n with
  | nil => exact absurd h Nat.toDigits_ne_nil
  | cons d ds =>
    refine ⟨d, ds, rfl, isDigit_of_mem_toDigits (n := n) ?_⟩
    rw [h]
    exact List.mem_cons_self ..

/-- A whole number is read back if it has no more digits than the limit allows. -/
theorem readScalar_intChars (limit : Option Nat) (width : Nat) (n : Int) {rest : List Char}
    (hrest : EndsNumber rest) :
    readScalar limit width (intChars n ++ rest) =
      if limit.any (· < digitCount n.natAbs) then .error .numberTooLong
      else .ok (.int n, rest) := by
  obtain ⟨d, ds, hcs, hd⟩ := cons_of_toDigits n.natAbs
  unfold intChars
  split
  · rw [hcs, List.cons_append, List.cons_append, readScalar_minus hd, ← List.cons_append, ← hcs,
      readNumber_toDigits limit true n.natAbs hrest]
    have hn : -(n.natAbs : Int) = n := by omega
    simp only [if_true, hn]
  · rw [hcs, List.cons_append, readScalar_digit hd, ← List.cons_append, ← hcs,
      readNumber_toDigits limit false n.natAbs hrest]
    have hn : (n.natAbs : Int) = n := by omega
    simp only [Bool.false_eq_true, if_false, hn]

/-- The text of a finite double that reads back is a number with or without a sign. -/
theorem number_of_keeps {l : Layout} {x : Float} (h : l.Keeps x) (hx : isFinite x = true) :
    ∃ d ds, isDigit d = true ∧
      (((l.render x).toList = d :: ds ∧ readNumber none false (d :: ds) = .ok (.float x, [])) ∨
        ((l.render x).toList = '-' :: d :: ds ∧
          readNumber none true (d :: ds) = .ok (.float x, []))) := by
  unfold Layout.Keeps at h
  have hspecial : ∀ {y : Float} {cs : List Char}, isFinite y = false →
      (Except.ok (Json.float y, cs) : Reading Json) ≠ .ok (.float x, []) := by
    intro y cs hy heq
    have hxy : y = x := by
      have hpair := Except.ok.inj heq
      exact Json.float.inj (congrArg Prod.fst hpair)
    rw [hxy, hx] at hy
    cases hy
  rw [readScalar.eq_def] at h
  split at h
  case h_8 cs heq =>
    obtain ⟨d, ds, rfl, hd⟩ := head_of_readNumber h
    exact ⟨d, ds, hd, Or.inr ⟨heq, h⟩⟩
  case h_9 =>
    obtain ⟨d, ds, hcs, hd⟩ := head_of_readNumber h
    rw [hcs] at h
    exact ⟨d, ds, hd, Or.inl ⟨hcs, h⟩⟩
  case h_1 cs _ =>
    cases hs : readString 0 cs with
    | error e =>
      rw [hs] at h
      cases h
    | ok p =>
      rw [hs] at h
      cases h
  case h_5 => exact absurd h (hspecial (by decide))
  case h_6 => exact absurd h (hspecial (by decide))
  case h_7 => exact absurd h (hspecial (by decide))
  all_goals cases h

/-- A finite double whose text reads back is read whatever follows it. -/
theorem readScalar_render {l : Layout} {x : Float} (h : l.Keeps x) (hx : isFinite x = true)
    (limit : Option Nat) (width : Nat) {rest : List Char} (hrest : EndsNumber rest) :
    readScalar limit width ((l.render x).toList ++ rest) = .ok (.float x, rest) := by
  obtain ⟨d, ds, hd, ⟨htext, hread⟩ | ⟨htext, hread⟩⟩ := number_of_keeps h hx
  · rw [htext, List.cons_append, readScalar_digit hd]
    exact readNumber_append (readNumber_float hread) hrest
  · rw [htext, List.cons_append, List.cons_append, readScalar_minus hd]
    exact readNumber_append (readNumber_float hread) hrest

end Json

end Storyline
