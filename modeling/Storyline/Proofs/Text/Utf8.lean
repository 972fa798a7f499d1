import Storyline.Text.Utf8

/-!
# Characters read from their octets

The octets of a text are read as that text, and no other octets are read as a text.

* `readHead_encodeChar`: a character at the start of octets;
* `decode_encode`, `decodeLossy_encode`: a text;
* `lead?_cases`, `encodeChar_of_readHead`: what a character can be read from;
* `decodeStrict?_eq_some_iff`, `decodeStrict?_eq_none_iff`: octets that have a text.
-/

namespace Storyline.Text.Utf8

/-- The code points of characters leave out the halves of pairs. -/
theorem toNat_valid (c : Char) :
    c.toNat < 0xd800 ∨ (0xdfff < c.toNat ∧ c.toNat < 0x110000) := c.valid

/-- Following octets, one at a time. -/
theorem readTails_succ {low high b : Nat} (hlow : low ≤ b) (hhigh : b ≤ high) (k bits : Nat)
    (rest : List Nat) :
    readTails (k + 1) low high bits (b :: rest) =
      readTails k 0x80 0xbf (bits * 64 + (b - 0x80)) rest := by
  rw [readTails, if_pos ⟨hlow, hhigh⟩]

theorem readHead_of_lead {b : Nat} {l : Lead} {octets rest : List Nat} {c : Char}
    (hlead : lead? b = some l)
    (htails : readTails l.tails l.low l.high l.bits octets = (some c.toNat, rest)) :
    readHead b octets = (some c, rest) := by
  unfold readHead
  rw [hlead]
  dsimp only
  rw [htails]
  dsimp only
  rw [Char.ofNat_toNat]

theorem lead?_two {n : Nat} (h : 0x80 ≤ n) (hlt : n < 0x800) :
    lead? (0xc0 + n / 64) = some ⟨1, 0x80, 0xbf, n / 64⟩ := by
  have hbits : 0xc0 + n / 64 - 0xc0 = n / 64 := by omega
  unfold lead?
  rw [if_neg (by omega), if_neg (by omega), if_pos (by omega), hbits]

/-- The announcement of a character of three octets: the first one holds four bits, and
the range of the second one depends on it. -/
theorem lead?_three {n : Nat} (h : 0x800 ≤ n) (hlt : n < 0x10000)
    (hhalf : n < 0xd800 ∨ 0xdfff < n) :
    ∃ low high, lead? (0xe0 + n / 4096) = some ⟨2, low, high, n / 4096⟩ ∧
      low ≤ 0x80 + n / 64 % 64 ∧ 0x80 + n / 64 % 64 ≤ high := by
  unfold lead?
  rw [if_neg (by omega), if_neg (by omega), if_neg (by omega)]
  by_cases hfirst : n / 4096 = 0
  · rw [hfirst, if_pos rfl]
    exact ⟨_, _, rfl, by omega, by omega⟩
  · rw [if_neg (by omega)]
    by_cases hbefore : n / 4096 = 13
    · rw [hbefore, if_pos rfl]
      exact ⟨_, _, rfl, by omega, by omega⟩
    · rw [if_neg (by omega), if_pos (by omega)]
      have hbits : 0xe0 + n / 4096 - 0xe0 = n / 4096 := by omega
      rw [hbits]
      exact ⟨0x80, 0xbf, rfl, by omega, by omega⟩

/-- The announcement of a character of four octets. -/
theorem lead?_four {n : Nat} (h : 0x10000 ≤ n) (hlt : n < 0x110000) :
    ∃ low high, lead? (0xf0 + n / 262144) = some ⟨3, low, high, n / 262144⟩ ∧
      low ≤ 0x80 + n / 4096 % 64 ∧ 0x80 + n / 4096 % 64 ≤ high := by
  unfold lead?
  rw [if_neg (by omega), if_neg (by omega), if_neg (by omega), if_neg (by omega),
    if_neg (by omega), if_neg (by omega)]
  by_cases hfirst : n / 262144 = 0
  · rw [hfirst, if_pos rfl]
    exact ⟨_, _, rfl, by omega, by omega⟩
  · rw [if_neg (by omega)]
    by_cases hlast : n / 262144 = 4
    · rw [hlast, if_neg (by omega), if_pos rfl]
      exact ⟨_, _, rfl, by omega, by omega⟩
    · rw [if_pos (by omega)]
      have hbits : 0xf0 + n / 262144 - 0xf0 = n / 262144 := by omega
      rw [hbits]
      exact ⟨0x80, 0xbf, rfl, by omega, by omega⟩

/-- A character is read from its octets, whatever follows. -/
theorem readHead_encodeChar (c : Char) (rest : List Nat) :
    ∃ b octets, encodeChar c = b :: octets ∧ readHead b (octets ++ rest) = (some c, rest) := by
  have hvalid := toNat_valid c
  unfold encodeChar
  dsimp only
  split
  · rename_i h
    refine ⟨_, [], rfl, readHead_of_lead (l := ⟨0, 0x80, 0xbf, c.toNat⟩) ?_ rfl⟩
    rw [lead?, if_pos h]
  · split
    · refine ⟨_, _, rfl, readHead_of_lead (lead?_two (by omega) (by assumption)) ?_⟩
      have hbits : c.toNat / 64 * 64 + (0x80 + c.toNat % 64 - 0x80) = c.toNat := by omega
      dsimp only
      rw [List.cons_append, readTails_succ (by omega) (by omega), readTails, hbits,
        List.nil_append]
    · split
      · obtain ⟨low, high, hlead, hlow, hhigh⟩ :=
          lead?_three (n := c.toNat) (by omega) (by assumption) (by omega)
        have hbits : (c.toNat / 4096 * 64 + (0x80 + c.toNat / 64 % 64 - 0x80)) * 64 +
            (0x80 + c.toNat % 64 - 0x80) = c.toNat := by omega
        refine ⟨_, _, rfl, readHead_of_lead hlead ?_⟩
        dsimp only
        rw [List.cons_append, readTails_succ hlow hhigh, List.cons_append,
          readTails_succ (by omega) (by omega), readTails, hbits, List.nil_append]
      · obtain ⟨low, high, hlead, hlow, hhigh⟩ :=
          lead?_four (n := c.toNat) (by omega) (by omega)
        have hbits : ((c.toNat / 262144 * 64 + (0x80 + c.toNat / 4096 % 64 - 0x80)) * 64 +
            (0x80 + c.toNat / 64 % 64 - 0x80)) * 64 + (0x80 + c.toNat % 64 - 0x80) =
              c.toNat := by omega
        refine ⟨_, _, rfl, readHead_of_lead hlead ?_⟩
        dsimp only
        rw [List.cons_append, readTails_succ hlow hhigh, List.cons_append,
          readTails_succ (by omega) (by omega), List.cons_append,
          readTails_succ (by omega) (by omega), readTails, hbits, List.nil_append]

theorem encode_cons (c : Char) (cs : List Char) :
    encode (c :: cs) = encodeChar c ++ encode cs := List.flatMap_cons

/-- The octets of a text are read as that text. -/
theorem decode_encode (cs : List Char) : decode (encode cs) = cs.map some := by
  induction cs with
  | nil => exact decode_nil
  | cons c cs ih =>
    obtain ⟨b, octets, hchar, hhead⟩ := readHead_encodeChar c (encode cs)
    rw [encode_cons, hchar, List.cons_append, decode_cons, hhead, ih, List.map_cons]

theorem decodeLossy_encode (cs : List Char) : decodeLossy (encode cs) = cs := by
  rw [decodeLossy, decode_encode, List.map_map]
  exact List.map_id cs

/-! ## Octets that are read as a text -/

/-- The code point of a character. -/
theorem toNat_ofNat_of_valid {n : Nat} (h : n < 0xd800 ∨ (0xdfff < n ∧ n < 0x110000)) :
    (Char.ofNat n).toNat = n := by
  have hvalid : n.isValidChar := h
  rw [Char.ofNat, dif_pos hvalid]
  rfl

theorem encodeChar_of_toNat {c : Char} {n : Nat} (h : c.toNat = n) :
    encodeChar c =
      if n < 0x80 then [n]
      else if n < 0x800 then [0xc0 + n / 64, 0x80 + n % 64]
      else if n < 0x10000 then [0xe0 + n / 4096, 0x80 + n / 64 % 64, 0x80 + n % 64]
      else [0xf0 + n / 262144, 0x80 + n / 4096 % 64, 0x80 + n / 64 % 64, 0x80 + n % 64] := by
  rw [← h, encodeChar]

/-- An octet that was read as a following one is in its range. -/
theorem of_readTails_succ {k low high bits n : Nat} {octets left : List Nat}
    (h : readTails (k + 1) low high bits octets = (some n, left)) :
    ∃ b rest, octets = b :: rest ∧ low ≤ b ∧ b ≤ high ∧
      readTails k 0x80 0xbf (bits * 64 + (b - 0x80)) rest = (some n, left) := by
  cases octets with
  | nil => cases h
  | cons b rest =>
    rw [readTails] at h
    split at h
    · rename_i hrange
      exact ⟨b, rest, rfl, hrange.1, hrange.2, h⟩
    · cases h

theorem of_readTails_zero {low high bits n : Nat} {octets left : List Nat}
    (h : readTails 0 low high bits octets = (some n, left)) : n = bits ∧ octets = left := by
  rw [readTails] at h
  cases h
  exact ⟨rfl, rfl⟩

/-- What the first octet of a character announces.  The ranges of the second octet leave out
forms that are too long, halves of pairs, and what is beyond the last character. -/
theorem lead?_cases {b : Nat} {l : Lead} (h : lead? b = some l) :
    (l.tails = 0 ∧ b < 0x80 ∧ l.bits = b) ∨
    (l.tails = 1 ∧ 0xc2 ≤ b ∧ b < 0xe0 ∧ l.bits = b - 0xc0 ∧ 0x80 ≤ l.low ∧ l.high ≤ 0xbf) ∨
    (l.tails = 2 ∧ 0xe0 ≤ b ∧ b < 0xf0 ∧ l.bits = b - 0xe0 ∧ 0x80 ≤ l.low ∧ l.high ≤ 0xbf ∧
      (b = 0xe0 → 0xa0 ≤ l.low) ∧ (b = 0xed → l.high ≤ 0x9f)) ∨
    (l.tails = 3 ∧ 0xf0 ≤ b ∧ b < 0xf5 ∧ l.bits = b - 0xf0 ∧ 0x80 ≤ l.low ∧ l.high ≤ 0xbf ∧
      (b = 0xf0 → 0x90 ≤ l.low) ∧ (b = 0xf4 → l.high ≤ 0x8f)) := by
  unfold lead? at h
  repeat' split at h
  all_goals cases h
  all_goals dsimp only; omega

/-- Octets read as a character are its form. -/
theorem encodeChar_of_readHead {b : Nat} {rest left : List Nat} {c : Char}
    (h : readHead b rest = (some c, left)) : b :: rest = encodeChar c ++ left := by
  unfold readHead at h
  cases hlead : lead? b with
  | none =>
    rw [hlead] at h
    cases h
  | some l =>
    rw [hlead] at h
    dsimp only at h
    rcases htails : readTails l.tails l.low l.high l.bits rest with ⟨n?, after⟩
    rw [htails] at h
    cases n? with
    | none => cases h
    | some n =>
      cases h
      obtain ⟨hcount, hb, hbits⟩ | ⟨hcount, hlow, hhigh, hbits, hl, hh⟩ |
        ⟨hcount, hlow, hhigh, hbits, hl, hh, hfirst, hlast⟩ |
        ⟨hcount, hlow, hhigh, hbits, hl, hh, hfirst, hlast⟩ := lead?_cases hlead
      · rw [hcount, hbits] at htails
        obtain ⟨hn, rfl⟩ := of_readTails_zero htails
        rw [encodeChar_of_toNat (toNat_ofNat_of_valid (by omega)), if_pos (by omega), hn]
        rfl
      · rw [hcount, hbits] at htails
        obtain ⟨d, rest, rfl, hd, hd', htails⟩ := of_readTails_succ htails
        obtain ⟨hn, rfl⟩ := of_readTails_zero htails
        rw [encodeChar_of_toNat (toNat_ofNat_of_valid (by omega)), if_neg (by omega), if_pos (by omega)]
        simp only [List.cons_append, List.nil_append, List.cons.injEq, and_true]
        omega
      · rw [hcount, hbits] at htails
        obtain ⟨d, rest, rfl, hd, hd', htails⟩ := of_readTails_succ htails
        obtain ⟨e, rest, rfl, he, he', htails⟩ := of_readTails_succ htails
        obtain ⟨hn, rfl⟩ := of_readTails_zero htails
        rw [encodeChar_of_toNat (toNat_ofNat_of_valid (by omega)), if_neg (by omega), if_neg (by omega), if_pos (by omega)]
        simp only [List.cons_append, List.nil_append, List.cons.injEq, and_true]
        omega
      · rw [hcount, hbits] at htails
        obtain ⟨d, rest, rfl, hd, hd', htails⟩ := of_readTails_succ htails
        obtain ⟨e, rest, rfl, he, he', htails⟩ := of_readTails_succ htails
        obtain ⟨f, rest, rfl, hf, hf', htails⟩ := of_readTails_succ htails
        obtain ⟨hn, rfl⟩ := of_readTails_zero htails
        rw [encodeChar_of_toNat (toNat_ofNat_of_valid (by omega)), if_neg (by omega), if_neg (by omega), if_neg (by omega)]
        simp only [List.cons_append, List.nil_append, List.cons.injEq, and_true]
        omega

/-- Octets that are read as characters only are the form of these. -/
theorem encode_of_decode {cs : List Char} {octets : List Nat}
    (h : decode octets = cs.map some) : encode cs = octets := by
  induction cs generalizing octets with
  | nil =>
    cases octets with
    | nil => rfl
    | cons b rest =>
      rw [decode_cons] at h
      cases h
  | cons c cs ih =>
    cases octets with
    | nil =>
      rw [decode_nil] at h
      cases h
    | cons b rest =>
      rw [decode_cons, List.map_cons] at h
      obtain ⟨hhead, htail⟩ := List.cons.inj h
      rw [encode_cons, ih htail]
      exact (encodeChar_of_readHead (Prod.ext hhead rfl)).symm

/-- The text of octets is the one text that they are the form of. -/
theorem decodeStrict?_eq_some_iff {octets : List Nat} {cs : List Char} :
    decodeStrict? octets = some cs ↔ encode cs = octets := by
  have hsome : ∀ xs : List (Option Char), xs.mapM id = some cs ↔ xs = cs.map some := by
    intro xs
    induction xs generalizing cs with
    | nil => cases cs <;> simp
    | cons x xs ih =>
      cases cs <;> simp [List.mapM_cons, Option.bind_eq_some_iff, ih]
  rw [decodeStrict?, hsome]
  refine ⟨encode_of_decode, fun h => ?_⟩
  rw [← h, decode_encode]

/-- Octets have no text exactly if they are the form of none. -/
theorem decodeStrict?_eq_none_iff {octets : List Nat} :
    decodeStrict? octets = none ↔ ∀ cs, encode cs ≠ octets := by
  simp only [Option.eq_none_iff_forall_ne_some, ne_eq, decodeStrict?_eq_some_iff]

end Storyline.Text.Utf8
