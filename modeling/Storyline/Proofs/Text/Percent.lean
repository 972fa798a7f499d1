import Storyline.Proofs.Text.Utf8
import Storyline.Text.Percent

/-!
# Percent-encoded text is read back

* `decodeFrom_encode`: a written form after octets that are waiting;
* `decode_encode`: the reading of a written form;
* `decode_append_encode`: the same after plain characters;
* `encode_injective`: two texts never have the same written form.
-/

namespace Storyline.Text.Percent

/-- The character stands for itself in a written form: it is of ASCII, and no percent
sign. -/
def IsPlain (c : Char) : Prop := c.toNat < 0x80 ∧ c ≠ '%'

theorem decodeFrom_plain {c : Char} (h : IsPlain c) (pending : List Nat) (cs : List Char) :
    decodeFrom pending (c :: cs) = decodeFrom (c.toNat :: pending) cs := by
  rw [decodeFrom]
  · rw [if_pos h.1]
  · rintro a b rest hc -
    exact h.2 hc

theorem decodeFrom_encodeOctet {n : Nat} (h : n < 256) (pending : List Nat) (cs : List Char) :
    decodeFrom pending (encodeOctet n ++ cs) = decodeFrom (n :: pending) cs := by
  show decodeFrom pending ('%' :: hexDigitUpper (n / 16) :: hexDigitUpper (n % 16) :: cs) = _
  rw [decodeFrom, hexValue?_hexDigitUpper (by omega), hexValue?_hexDigitUpper (by omega)]
  have hsum : n / 16 * 16 + n % 16 = n := by omega
  dsimp only
  rw [hsum]

/-- Encoded octets wait after those before them. -/
theorem decodeFrom_encodeOctets {ns : List Nat} (h : ∀ n ∈ ns, n < 256) (pending : List Nat)
    (cs : List Char) :
    decodeFrom pending (ns.flatMap encodeOctet ++ cs) =
      decodeFrom (ns.reverse ++ pending) cs := by
  induction ns generalizing pending with
  | nil => rfl
  | cons n ns ih =>
    rw [List.flatMap_cons, List.append_assoc, decodeFrom_encodeOctet (h n (List.mem_cons_self ..)),
      ih (fun m hm => h m (List.mem_cons_of_mem n hm)), List.reverse_cons, List.append_assoc]
    rfl

theorem lt_of_mem_encodeChar {c : Char} {n : Nat} (h : n ∈ Utf8.encodeChar c) : n < 256 := by
  have hvalid := Utf8.toNat_valid c
  unfold Utf8.encodeChar at h
  dsimp only at h
  split at h
  · rw [List.mem_singleton] at h
    omega
  · split at h
    · simp only [List.mem_cons, List.not_mem_nil, or_false] at h
      omega
    · split at h <;> simp only [List.mem_cons, List.not_mem_nil, or_false] at h <;> omega

/-- Letters and digits are of ASCII. -/
theorem toNat_lt_of_isAlphanum {c : Char} (h : c.isAlphanum = true) : c.toNat < 0x80 := by
  have hranges : ((decide (c.val ≥ 65 ∧ c.val ≤ 90) || (c.val ≥ 97 && c.val ≤ 122)) ||
      (c.val ≥ 48 && c.val ≤ 57)) = true := h
  simp only [Bool.or_eq_true, Bool.and_eq_true, decide_eq_true_eq, ge_iff_le,
    UInt32.le_iff_toNat_le] at hranges
  have hcodes : ((65 ≤ c.toNat ∧ c.toNat ≤ 90) ∨ (97 ≤ c.toNat ∧ c.toNat ≤ 122)) ∨
      (48 ≤ c.toNat ∧ c.toNat ≤ 57) := hranges
  omega

theorem isPlain_of_isUnreserved {c : Char} (h : isUnreserved c = true) : IsPlain c := by
  constructor
  · simp only [isUnreserved, Bool.or_eq_true, decide_eq_true_eq] at h
    rcases h with (((h | rfl) | rfl) | rfl) | rfl
    · exact toNat_lt_of_isAlphanum h
    all_goals decide
  · rintro rfl
    revert h
    decide

section

variable {safe : Char → Bool} (hsafe : ∀ c, safe c = true → IsPlain c)

include hsafe

theorem decodeFrom_encodeChar (c : Char) (pending : List Nat) (cs : List Char) :
    decodeFrom pending (encodeChar safe c ++ cs) =
      decodeFrom ((Utf8.encodeChar c).reverse ++ pending) cs := by
  unfold encodeChar
  split
  · rename_i h
    have hplain : IsPlain c := by
      rcases Bool.or_eq_true _ _ ▸ h with h | h
      · exact isPlain_of_isUnreserved h
      · exact hsafe c h
    have hoctet : Utf8.encodeChar c = [c.toNat] := by
      unfold Utf8.encodeChar
      exact if_pos hplain.1
    rw [hoctet]
    exact decodeFrom_plain hplain pending cs
  · exact decodeFrom_encodeOctets (fun _ hn => lt_of_mem_encodeChar hn) pending cs

/-- A written form after octets that are waiting. -/
theorem decodeFrom_encode (cs : List Char) (pending : List Nat) :
    decodeFrom pending (encode safe cs) =
      Utf8.decodeLossy (pending.reverse ++ Utf8.encode cs) := by
  induction cs generalizing pending with
  | nil =>
    rw [encode_nil, decodeFrom]
    exact congrArg Utf8.decodeLossy (List.append_nil _).symm
  | cons c cs ih =>
    rw [encode_cons, decodeFrom_encodeChar hsafe, ih, Utf8.encode_cons, List.reverse_append,
      List.reverse_reverse, List.append_assoc]

/-- A written form is read as the text. -/
theorem decode_encode (cs : List Char) : decode (encode safe cs) = cs := by
  rw [decode, decodeFrom_encode hsafe]
  exact Utf8.decodeLossy_encode cs

theorem decodeFrom_append_encode {ps : List Char} (hps : ∀ c ∈ ps, IsPlain c) (cs : List Char)
    (pending : List Nat) :
    decodeFrom pending (ps ++ encode safe cs) =
      Utf8.decodeLossy (pending.reverse ++ Utf8.encode (ps ++ cs)) := by
  induction ps generalizing pending with
  | nil => exact decodeFrom_encode hsafe cs pending
  | cons p ps ih =>
    have hp := hps p (List.mem_cons_self ..)
    have hoctet : Utf8.encodeChar p = [p.toNat] := by
      unfold Utf8.encodeChar
      exact if_pos hp.1
    have hencode : Utf8.encode (p :: ps ++ cs) = [p.toNat] ++ Utf8.encode (ps ++ cs) := by
      rw [List.cons_append, Utf8.encode_cons, hoctet]
    show decodeFrom pending (p :: (ps ++ encode safe cs)) = _
    rw [decodeFrom_plain hp, ih fun c hc => hps c (List.mem_cons_of_mem p hc), hencode,
      List.reverse_cons, List.append_assoc]

/-- A written form after plain characters is read as the text after them. -/
theorem decode_append_encode {ps : List Char} (hps : ∀ c ∈ ps, IsPlain c) (cs : List Char) :
    decode (ps ++ encode safe cs) = ps ++ cs := by
  rw [decode, decodeFrom_append_encode hsafe hps]
  exact Utf8.decodeLossy_encode (ps ++ cs)

theorem encode_injective {cs ds : List Char} (h : encode safe cs = encode safe ds) : cs = ds := by
  rw [← decode_encode hsafe cs, h, decode_encode hsafe]

end

/-- Characters that are all plain. -/
theorem plain_of_all {ps : List Char}
    (h : ps.all (fun c => decide (c.toNat < 0x80) && c != '%') = true) :
    ∀ c ∈ ps, IsPlain c := by
  intro c hc
  have hplain := List.all_eq_true.mp h c hc
  rw [Bool.and_eq_true, decide_eq_true_eq, bne_iff_ne] at hplain
  exact hplain

/-- Where nothing is safe, nothing has to be plain. -/
theorem plain_of_none : ∀ c : Char, (fun _ => false) c = true → IsPlain c := nofun

/-- Plain characters are read as they are. -/
theorem decode_plain {ps : List Char} (hps : ∀ c ∈ ps, IsPlain c) : decode ps = ps := by
  have happend := decode_append_encode plain_of_none hps []
  rwa [encode_nil, List.append_nil] at happend

end Storyline.Text.Percent
