/-!
# Characters as octets

The UTF-8 form of a text, over octets given as natural numbers.

- `encode`: the octets of a text;
- `decode`: the characters of a list of octets, where every stretch that no
  character starts with is one `none`;
- `decodeStrict?`: the text, if nothing is broken;
- `decodeLossy`: the text, where the replacement character stands for each broken
  stretch.

A broken stretch is as long as it can be and still be the start of a character,
and at least one octet.
-/

namespace Storyline.Text.Utf8

/-- The octets of one character. -/
def encodeChar (c : Char) : List Nat :=
  let n := c.toNat
  if n < 0x80 then [n]
  else if n < 0x800 then [0xc0 + n / 64, 0x80 + n % 64]
  else if n < 0x10000 then [0xe0 + n / 4096, 0x80 + n / 64 % 64, 0x80 + n % 64]
  else [0xf0 + n / 262144, 0x80 + n / 4096 % 64, 0x80 + n / 64 % 64, 0x80 + n % 64]

/-- The octets of a text. -/
def encode (cs : List Char) : List Nat := cs.flatMap encodeChar

/-- What a first octet announces: how many octets follow, the range of the next
one, and the bits it contributes itself. -/
structure Lead where
  tails : Nat
  low : Nat
  high : Nat
  bits : Nat

/-- The announcement of a first octet, if it can start a character. -/
def lead? (b : Nat) : Option Lead :=
  if b < 0x80 then some ⟨0, 0x80, 0xbf, b⟩
  else if b < 0xc2 then none
  else if b < 0xe0 then some ⟨1, 0x80, 0xbf, b - 0xc0⟩
  else if b = 0xe0 then some ⟨2, 0xa0, 0xbf, 0⟩
  else if b = 0xed then some ⟨2, 0x80, 0x9f, 0xd⟩
  else if b < 0xf0 then some ⟨2, 0x80, 0xbf, b - 0xe0⟩
  else if b = 0xf0 then some ⟨3, 0x90, 0xbf, 0⟩
  else if b < 0xf4 then some ⟨3, 0x80, 0xbf, b - 0xf0⟩
  else if b = 0xf4 then some ⟨3, 0x80, 0x8f, 4⟩
  else none

/-- Read `count` following octets, the next one between `low` and `high`, onto the
bits read so far.  The result is the code point, or `none` where an octet is out
of range, and the octets left over. -/
def readTails (count low high bits : Nat) (octets : List Nat) : Option Nat × List Nat :=
  match count, octets with
  | 0, rest => (some bits, rest)
  | _ + 1, [] => (none, [])
  | k + 1, b :: rest =>
    if low ≤ b ∧ b ≤ high then readTails k 0x80 0xbf (bits * 64 + (b - 0x80)) rest
    else (none, b :: rest)

theorem length_readTails_le (count low high bits : Nat) (octets : List Nat) :
    (readTails count low high bits octets).2.length ≤ octets.length := by
  induction count generalizing low high bits octets with
  | zero => simp [readTails]
  | succ k ih =>
    cases octets with
    | nil => simp [readTails]
    | cons b rest =>
      simp only [readTails]
      split
      · exact Nat.le_succ_of_le (ih ..)
      · simp

/-- The character that starts a nonempty list of octets, `none` if the start is
broken, and the octets after it. -/
def readHead (b : Nat) (rest : List Nat) : Option Char × List Nat :=
  match lead? b with
  | none => (none, rest)
  | some l =>
    match readTails l.tails l.low l.high l.bits rest with
    | (some n, left) => (some (Char.ofNat n), left)
    | (none, left) => (none, left)

theorem length_readHead_le (b : Nat) (rest : List Nat) :
    (readHead b rest).2.length ≤ rest.length := by
  unfold readHead
  split
  · simp
  · rename_i l _
    have h := length_readTails_le l.tails l.low l.high l.bits rest
    split <;> rename_i e <;> rw [e] at h <;> exact h

/-- The characters of the octets, `none` for each broken stretch. -/
def decode : List Nat → List (Option Char)
  | [] => []
  | b :: rest =>
    (readHead b rest).1 :: decode (readHead b rest).2
termination_by octets => octets.length
decreasing_by exact Nat.lt_succ_of_le (length_readHead_le b rest)

/-- The text of the octets, if all of them belong to characters. -/
def decodeStrict? (octets : List Nat) : Option (List Char) := (decode octets).mapM id

/-- The text of the octets, broken stretches replaced. -/
def decodeLossy (octets : List Nat) : List Char := (decode octets).map (·.getD '\ufffd')

@[simp] theorem decode_nil : decode [] = [] := by rw [decode]

theorem decode_cons (b : Nat) (rest : List Nat) :
    decode (b :: rest) = (readHead b rest).1 :: decode (readHead b rest).2 := by rw [decode]

end Storyline.Text.Utf8
