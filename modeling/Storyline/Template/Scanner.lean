/-!
# Scanning with an eye on the end

A scanner reads something from the front of a text, or fails.  Besides, it says
whether the text ended at a place where more of what is being read could have
stood.  A template that is cut off there counts as unfinished and not as wrong, so
this mark is kept even when the scanner fails.

- `Attempt`: what comes of scanning;
- `Scanner`: scanners, a monad with alternatives;
- `Scanner.run`, `Scanner.many`: repetitions, the places where the end is met.
-/

namespace Storyline.Template

/-- What comes of scanning: whether the end was met, and what was read with the
characters after it. -/
structure Attempt (α : Type) where
  metEnd : Bool
  found : Option (α × List Char)

/-- A way to read something from the front of a text. -/
def Scanner (α : Type) := List Char → Attempt α

namespace Scanner

variable {α β : Type}

/-- Read nothing. -/
def done (a : α) : Scanner α := fun cs => ⟨false, .some (a, cs)⟩

/-- Read nothing and fail. -/
def fail : Scanner α := fun _ => ⟨false, none⟩

/-- Read one thing and then another that may depend on it. -/
def andThen (p : Scanner α) (f : α → Scanner β) : Scanner β := fun cs =>
  let first := p cs
  match first.found with
  | none => ⟨first.metEnd, none⟩
  | some (a, rest) =>
    let second := f a rest
    ⟨first.metEnd || second.metEnd, second.found⟩

/-- Read the one thing or, where that fails, the other. -/
def orElse (p q : Scanner α) : Scanner α := fun cs =>
  let first := p cs
  match first.found with
  | some _ => first
  | none =>
    let second := q cs
    ⟨first.metEnd || second.metEnd, second.found⟩

instance : Monad Scanner where
  pure := done
  bind := andThen

instance : OrElse (Scanner α) := ⟨fun p q => orElse p (q ())⟩

/-- One given character. -/
def char (c : Char) : Scanner Unit
  | [] => ⟨false, none⟩
  | d :: cs => ⟨false, if d = c then some ((), cs) else none⟩

/-- Given characters, one after another. -/
def word (w : List Char) : Scanner Unit := w.forM char

/-- The longest front whose characters satisfy `p`. -/
def run (p : Char → Bool) : Scanner (List Char) := fun cs =>
  ⟨(cs.dropWhile p).isEmpty, some (cs.takeWhile p, cs.dropWhile p)⟩

/-- The longest front whose characters satisfy `p`, of which there has to be one. -/
def someRun (p : Char → Bool) : Scanner (List Char)
  | [] => ⟨false, none⟩
  | c :: cs => if p c then run p (c :: cs) else ⟨false, none⟩

/-- Fail where `p` reads something, and read nothing elsewhere. -/
def refuse (p : Scanner α) : Scanner Unit := fun cs =>
  let first := p cs
  ⟨first.metEnd, if first.found.isSome then none else some ((), cs)⟩

/-- Read something if it is there. -/
def optional (p : Scanner α) : Scanner (Option α) :=
  (do return Option.some (← p)) <|> pure none

/-- Things read one after another, at most `fuel` of them, up to the first one that
fails. -/
def manyWithin (p : Scanner α) : Nat → Scanner (List α)
  | 0, cs => ⟨cs.isEmpty, some ([], cs)⟩
  | fuel + 1, cs =>
    let first := p cs
    match first.found with
    | none => ⟨first.metEnd || cs.isEmpty, some ([], cs)⟩
    | some (a, rest) =>
      let others := manyWithin p fuel rest
      ⟨first.metEnd || others.metEnd, others.found.map fun (as, rest) => (a :: as, rest)⟩

/-- Things read one after another up to the first one that fails; each is at least
one character long. -/
def many (p : Scanner α) : Scanner (List α) := fun cs => manyWithin p cs.length cs

/-- Many things, of which there has to be one. -/
def some (p : Scanner α) : Scanner (List α) := do
  let a ← p
  let as ← many p
  return a :: as

end Scanner

end Storyline.Template
