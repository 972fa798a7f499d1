import Storyline.Json.Reader
import Storyline.Json.Writer

/-!
# Strings written and read

A string is read back from its escaped form, whether characters beyond ASCII are
escaped or not.  A character is one code unit on its way, or a surrogate pair.

* `unitsOf`: the code units of a character;
* `readUnits_escapeChar`: one character read;
* `joinUnits_unitsOf`: characters joined from their units;
* `readString_writeString`: a whole string.
-/

namespace Storyline

namespace Text

/-- The four digits of a number below the bound are read back. -/
theorem hex4?_hexDigits {n : Nat} (hn : n < 0x10000) :
    ∃ a b c d, hexDigits 4 n = [a, b, c, d] ∧ Json.hex4? a b c d = some n := by
  refine ⟨_, _, _, _, rfl, ?_⟩
  rw [Json.hex4?, hexValue?_hexDigit (Nat.mod_lt _ (by omega)),
    hexValue?_hexDigit (Nat.mod_lt _ (by omega)), hexValue?_hexDigit (Nat.mod_lt _ (by omega)),
    hexValue?_hexDigit (Nat.mod_lt _ (by omega))]
  have hsum : ((n / 16 / 16 / 16 % 16 * 16 + n / 16 / 16 % 16) * 16 + n / 16 % 16) * 16 + n % 16
      = n := by omega
  exact congrArg some hsum

end Text

namespace Json

/-- The code units of a character. -/
def unitsOf (ascii : Bool) (c : Char) : List Nat :=
  if ascii && 0x10000 ≤ c.toNat then
    [0xd800 + (c.toNat - 0x10000) / 0x400, 0xdc00 + (c.toNat - 0x10000) % 0x400]
  else [c.toNat]

/-- Units read before further ones. -/
def prepend (us : List Nat) (r : Reading (List Nat)) : Reading (List Nat) :=
  r.map fun p => (us ++ p.1, p.2)

theorem prepend_prepend (us vs : List Nat) (r : Reading (List Nat)) :
    prepend us (prepend vs r) = prepend (us ++ vs) r := by
  cases r with
  | error e => rfl
  | ok p => simp [prepend, Except.map]

/-- A long escape is read as its unit. -/
theorem readUnits_longEscape {n : Nat} (hn : n < 0x10000) (cs : List Char) :
    readUnits (longEscape n ++ cs) = prepend [n] (readUnits cs) := by
  obtain ⟨a, b, c, d, hdigits, hvalue⟩ := Text.hex4?_hexDigits hn
  rw [longEscape, hdigits]
  show readUnits ('\\' :: 'u' :: a :: b :: c :: d :: cs) = _
  rw [readUnits, hvalue]
  rfl

/-- A character that is not escaped is read as its code point. -/
theorem readUnits_plain {c : Char} (hquote : c ≠ '"') (hslash : c ≠ '\\') (hlow : 0x20 ≤ c.toNat)
    (cs : List Char) : readUnits (c :: cs) = prepend [c.toNat] (readUnits cs) := by
  rw [readUnits.eq_def]
  split
  · contradiction
  · rename_i h
    exact absurd (List.cons.inj h).1 hquote
  · rename_i h
    exact absurd (List.cons.inj h).1 hslash
  · rename_i h
    exact absurd (List.cons.inj h).1 hslash
  · rename_i d ds _ _ _ h
    obtain ⟨rfl, rfl⟩ := List.cons.inj h
    rw [if_neg (by simp [hslash]; omega)]
    rfl

theorem toNat_lt (c : Char) : c.toNat < 0x110000 := by
  rcases c.valid with h | h
  · exact Nat.lt_trans h (by decide)
  · exact h.2

/-- A character is read as its units. -/
theorem readUnits_escapeChar (ascii : Bool) (c : Char) (cs : List Char) :
    readUnits (escapeChar ascii c ++ cs) = prepend (unitsOf ascii c) (readUnits cs) := by
  have hunit : c.toNat < 0x10000 → unitsOf ascii c = [c.toNat] := by
    intro h
    rw [unitsOf, if_neg (by simp; omega)]
  unfold escapeChar
  split
  · subst_vars; rw [hunit (by decide)]; rfl
  split
  · subst_vars; rw [hunit (by decide)]; rfl
  split
  · subst_vars; rw [hunit (by decide)]; rfl
  split
  · subst_vars; rw [hunit (by decide)]; rfl
  split
  · subst_vars; rw [hunit (by decide)]; rfl
  split
  · rename_i h; rw [hunit (by omega), h]; rfl
  split
  · rename_i h; rw [hunit (by omega), h]; rfl
  split
  · rename_i h
    rw [hunit (by omega), readUnits_longEscape (by omega)]
  split
  · split
    · rename_i h
      rw [hunit h, readUnits_longEscape h]
    · rename_i hascii h
      have hc := toNat_lt c
      have hpair : unitsOf ascii c = [0xd800 + (c.toNat - 0x10000) / 0x400] ++
          [0xdc00 + (c.toNat - 0x10000) % 0x400] := by
        rw [unitsOf, if_pos]
        · rfl
        · simp only [Bool.and_eq_true, decide_eq_true_eq] at hascii ⊢
          exact ⟨hascii.1, by omega⟩
      rw [List.append_assoc, readUnits_longEscape (by omega), readUnits_longEscape (by omega),
        prepend_prepend, hpair]
  · rename_i hquote hslash _ _ _ _ _ hlow hascii
    have hone : unitsOf ascii c = [c.toNat] := by
      rw [unitsOf, if_neg]
      simp only [Bool.and_eq_true, decide_eq_true_eq] at hascii ⊢
      exact fun h => hascii ⟨h.1, by omega⟩
    rw [hone]
    exact readUnits_plain hquote hslash (by omega) cs

variable {width : Nat}

/-- A unit that is no half of a pair is a character. -/
theorem joinUnits_plain {n : Nat} (hhigh : isHighHalf n = false) (hlow : isLowHalf n = false)
    (us : List Nat) : joinUnits width (n :: us) = Char.ofNat n :: joinUnits width us := by
  cases us with
  | nil => simp [joinUnits, isHalf, hhigh, hlow]
  | cons m us => rw [joinUnits, isHalf, hhigh, hlow]; rfl

/-- Two halves in order are one character. -/
theorem joinUnits_pair {n m : Nat} (hhigh : isHighHalf n = true) (hlow : isLowHalf m = true)
    (us : List Nat) :
    joinUnits width (n :: m :: us) =
      Char.ofNat (0x10000 + (n - 0xd800) * 0x400 + (m - 0xdc00)) :: joinUnits width us := by
  rw [joinUnits, hhigh, hlow]
  rfl

/-- No character is half of a surrogate pair. -/
theorem not_half (c : Char) : isHighHalf c.toNat = false ∧ isLowHalf c.toNat = false := by
  have hvalid : c.toNat < 0xd800 ∨ (0xdfff < c.toNat ∧ c.toNat < 0x110000) := c.valid
  simp only [isHighHalf, isLowHalf, Bool.and_eq_false_iff, decide_eq_false_iff_not]
  omega

/-- A character is joined from its units. -/
theorem joinUnits_unitsOf (ascii : Bool) (c : Char) (us : List Nat) :
    joinUnits width (unitsOf ascii c ++ us) = c :: joinUnits width us := by
  unfold unitsOf
  split
  · rename_i h
    simp only [Bool.and_eq_true, decide_eq_true_eq] at h
    have hc := toNat_lt c
    have hhigh : isHighHalf (0xd800 + (c.toNat - 0x10000) / 0x400) = true := by
      simp only [isHighHalf, Bool.and_eq_true, decide_eq_true_eq]
      omega
    have hlow : isLowHalf (0xdc00 + (c.toNat - 0x10000) % 0x400) = true := by
      simp only [isLowHalf, Bool.and_eq_true, decide_eq_true_eq]
      omega
    show joinUnits width (_ :: _ :: us) = c :: joinUnits width us
    rw [joinUnits_pair hhigh hlow]
    have hsum : 0x10000 + (0xd800 + (c.toNat - 0x10000) / 0x400 - 0xd800) * 0x400 +
        (0xdc00 + (c.toNat - 0x10000) % 0x400 - 0xdc00) = c.toNat := by omega
    rw [hsum, Char.ofNat_toNat]
  · show joinUnits width (c.toNat :: us) = c :: joinUnits width us
    rw [joinUnits_plain (not_half c).1 (not_half c).2, Char.ofNat_toNat]

/-- The units of a string are read up to its closing mark. -/
theorem readUnits_flatMap (ascii : Bool) (cs rest : List Char) :
    readUnits (cs.flatMap (escapeChar ascii) ++ '"' :: rest) =
      .ok (cs.flatMap (unitsOf ascii), rest) := by
  induction cs with
  | nil => rw [List.flatMap_nil, List.nil_append, readUnits]; rfl
  | cons c cs ih =>
    rw [List.flatMap_cons, List.flatMap_cons, List.append_assoc, readUnits_escapeChar, ih]
    rfl

theorem joinUnits_flatMap (ascii : Bool) (cs : List Char) :
    joinUnits width (cs.flatMap (unitsOf ascii)) = cs := by
  induction cs with
  | nil => rfl
  | cons c cs ih => rw [List.flatMap_cons, joinUnits_unitsOf, ih]

/-- A string is read back from its written form, its opening mark taken away. -/
theorem readString_write (ascii : Bool) (s : String) (rest : List Char) :
    readString width (s.toList.flatMap (escapeChar ascii) ++ '"' :: rest) = .ok (s, rest) := by
  rw [readString, readUnits_flatMap]
  show Except.ok (String.ofList (joinUnits width (s.toList.flatMap (unitsOf ascii))), rest) =
    .ok (s, rest)
  rw [joinUnits_flatMap, String.ofList_toList]

theorem writeString_append (ascii : Bool) (s : String) (rest : List Char) :
    writeString ascii s ++ rest = '"' :: (s.toList.flatMap (escapeChar ascii) ++ '"' :: rest) := by
  simp [writeString]

end Json

end Storyline
