import Storyline.Flag
import Storyline.Text.Blank

/-!
# Conditions

A condition is a list of clauses joined by `&&`, and it holds when every clause
holds.  A clause names a flag that has to be set, names one after `!` that must not
be set, or compares the spelling of a flag with a literal after `===`.

- `Clause`: the three forms;
- `Clause.ofChars`: the clause that a stretch of text is;
- `Clause.holds`: its meaning against flags;
- `allHold`: clauses one after another, up to the first that does not hold;
- `evaluate`: the meaning of a condition.

A condition without text holds always.  There are no brackets and no alternative;
blanks around names, marks and literals mean nothing.  A comparison with a flag that
has no spelling is a fault, unless a clause before it does not hold.
-/

namespace Storyline.Condition

/-- One clause of a condition. -/
inductive Clause where
  | set (name : String)
  | unset (name : String)
  | equals (name : String) (literal : String)
  deriving DecidableEq, Repr

/-- The stretches of a text between double ampersands. -/
def splitClauses : List Char → List (List Char)
  | [] => [[]]
  | '&' :: '&' :: cs => [] :: splitClauses cs
  | c :: cs =>
    match splitClauses cs with
    | [] => [[c]]
    | s :: ss => (c :: s) :: ss

/-- The text before the first `===` and the text after it. -/
def splitEquals? : List Char → Option (List Char × List Char)
  | [] => none
  | '=' :: '=' :: '=' :: cs => some ([], cs)
  | c :: cs => (splitEquals? cs).map fun (a, b) => (c :: a, b)

/-- A quotation mark of either kind. -/
def isQuote (c : Char) : Bool := c = '\'' || c = '"'

/-- The clause written by a stretch of text. -/
def Clause.ofChars (cs : List Char) : Clause :=
  let cs := Text.trim Text.isBlank cs
  match cs with
  | '!' :: name => .unset (String.ofList (Text.trim Text.isBlank name))
  | _ =>
    match splitEquals? cs with
    | some (name, literal) =>
      .equals (String.ofList (Text.trim Text.isBlank name))
        (String.ofList (Text.trim isQuote (Text.trim Text.isBlank literal)))
    | none => .set (String.ofList cs)

/-- A flag that is missing counts as not set. -/
def isSet (flags : Flags) (name : String) : Bool := (flags.get? name).any FlagValue.isTrue

/-- The meaning of a clause. -/
def Clause.holds (flags : Flags) : Clause → Except FlagValue.Fault Bool
  | .set name => .ok (isSet flags name)
  | .unset name => .ok (! isSet flags name)
  | .equals name literal => (spellingOf (flags.get? name)).map (· == literal)

/-- Clauses hold one after another.  After one that does not, none is looked at. -/
def allHold (flags : Flags) : List Clause → Except FlagValue.Fault Bool
  | [] => .ok true
  | c :: cs => do if ← c.holds flags then allHold flags cs else return false

/-- The clauses of a condition. -/
def clauses (expression : String) : List Clause :=
  (splitClauses expression.toList).map Clause.ofChars

/-- A condition holds when all its clauses do; one without text holds always. -/
def evaluate (expression : Option String) (flags : Flags) : Except FlagValue.Fault Bool :=
  match expression with
  | none => .ok true
  | some e => if e = "" then .ok true else allHold flags (clauses e)

@[simp] theorem evaluate_none (flags : Flags) : evaluate none flags = .ok true := rfl

@[simp] theorem evaluate_empty (flags : Flags) : evaluate (some "") flags = .ok true := rfl

/-- A condition is the conjunction of its clauses. -/
theorem evaluate_some {e : String} (h : e ≠ "") (flags : Flags) :
    evaluate (some e) flags = allHold flags (clauses e) := if_neg h

end Storyline.Condition
