import Storyline.Text.Hex
import Storyline.Text.Utf8

/-!
# Percent-encoded text

Each octet of a character outside a safe class is written as a percent sign and
two capital hexadecimal digits.

- `encode`: the written form, for a class of further safe characters;
- `decode`: the reading.  A percent sign without two digits after it stands for
  itself, and octets that form no character become replacement characters.
-/

namespace Storyline.Text.Percent

/-- Letters, digits, and the four marks that are never encoded. -/
def isUnreserved (c : Char) : Bool :=
  c.isAlphanum || c = '_' || c = '.' || c = '-' || c = '~'

/-- One octet as a percent sign and two digits. -/
def encodeOctet (n : Nat) : List Char := ['%', hexDigitUpper (n / 16), hexDigitUpper (n % 16)]

/-- One character: itself, or its octets. -/
def encodeChar (safe : Char → Bool) (c : Char) : List Char :=
  if isUnreserved c || safe c then [c] else (Utf8.encodeChar c).flatMap encodeOctet

/-- The written form of a text. -/
def encode (safe : Char → Bool) (cs : List Char) : List Char := cs.flatMap (encodeChar safe)

/-- Read a written form.  The octets met since the last character beyond ASCII
wait in `pending`, the latest first; they are read as a text where the run of
ASCII ends. -/
def decodeFrom (pending : List Nat) : List Char → List Char
  | [] => Utf8.decodeLossy pending.reverse
  | '%' :: a :: b :: cs =>
    match hexValue? a, hexValue? b with
    | some x, some y => decodeFrom ((x * 16 + y) :: pending) cs
    | _, _ => decodeFrom (0x25 :: pending) (a :: b :: cs)
  | c :: cs =>
    if c.toNat < 0x80 then decodeFrom (c.toNat :: pending) cs
    else Utf8.decodeLossy pending.reverse ++ c :: decodeFrom [] cs

/-- The text that a written form stands for. -/
def decode (cs : List Char) : List Char := decodeFrom [] cs

/-- The octets that a written form stands for, characters beyond ASCII in their
own octets. -/
def decodeOctets : List Char → List Nat
  | [] => []
  | '%' :: a :: b :: cs =>
    match hexValue? a, hexValue? b with
    | some x, some y => (x * 16 + y) :: decodeOctets cs
    | _, _ => 0x25 :: decodeOctets (a :: b :: cs)
  | c :: cs => Utf8.encodeChar c ++ decodeOctets cs

@[simp] theorem encode_nil (safe : Char → Bool) : encode safe [] = [] := rfl

theorem encode_cons (safe : Char → Bool) (c : Char) (cs : List Char) :
    encode safe (c :: cs) = encodeChar safe c ++ encode safe cs := by
  simp [encode]

theorem encode_append (safe : Char → Bool) (cs ds : List Char) :
    encode safe (cs ++ ds) = encode safe cs ++ encode safe ds := by
  simp [encode]

/-- A text of unreserved characters is its own written form. -/
theorem encode_of_unreserved (safe : Char → Bool) {cs : List Char}
    (h : ∀ c ∈ cs, isUnreserved c = true) : encode safe cs = cs := by
  induction cs with
  | nil => rfl
  | cons c cs ih =>
    have hc : encodeChar safe c = [c] := by simp [encodeChar, h c]
    rw [encode_cons, hc, ih fun d hd => h d (List.mem_cons_of_mem c hd)]
    rfl

end Storyline.Text.Percent
