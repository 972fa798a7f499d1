import Storyline.Table
import Storyline.Text.Blank

/-!
# Files of variables

A file of variables has a line for each, `NAME=value`, possibly with the word
`export` before it and a comment behind it.  A name or value may stand in quotes;
a quoted value may run over several lines.  A line that is none of this is skipped.

- `EnvFile.bindings`: the names of a file with their values;
- `EnvFile.expand`: a value with references to variables filled in;
- `EnvFile.load`: variables together with those of a file;
- `EnvFile.mentioned`: the variables that a file depends on or sets.

A variable that is set stays as it is, and is what references see.
-/

namespace Storyline.EnvFile

open Text

/-- A step through a file.  A step that fails leaves the characters from which it
could not go on. -/
abbrev Reading (α : Type) := StateT (List Char) (Except (List Char)) α

/-- A blank inside a line. -/
def isGap (c : Char) : Bool := isBlank c && c != '\n'

/-- A character of a name without quotes. -/
def isNameChar (c : Char) : Bool := ! isBlank c && c != '=' && c != '#'

/-- Line breaks in one spelling. -/
def unifyBreaks : List Char → List Char
  | [] => []
  | '\r' :: '\n' :: cs => '\n' :: unifyBreaks cs
  | c :: cs => (if c = '\r' then '\n' else c) :: unifyBreaks cs

/-- No carriage return is left where line breaks have one spelling. -/
theorem not_mem_unifyBreaks (cs : List Char) : '\r' ∉ unifyBreaks cs := by
  fun_induction unifyBreaks cs with
  | case1 => simp
  | case2 cs ih =>
    rw [List.mem_cons, not_or]
    exact ⟨by decide, ih⟩
  | case3 c cs _ ih =>
    rw [List.mem_cons, not_or]
    refine ⟨?_, ih⟩
    split
    · decide
    · rename_i h
      exact fun hc => h hc.symm

/-- Go past the characters that satisfy `p`. -/
def skip (p : Char → Bool) : Reading Unit := modify (·.dropWhile p)

/-- Fail here. -/
def stuck {α : Type} : Reading α := do throw (← get)

/-- Go past the word `export` and the blanks behind it. -/
def skipExport : Reading Unit := do
  let word := "export".toList
  let cs ← get
  if word.isPrefixOf cs && (cs.drop word.length).head?.any isGap then
    set (cs.drop word.length)
    skip isGap

/-- A name, with or without quotes; a comment has none. -/
def readName : Reading (Option String) := do
  match ← get with
  | '#' :: _ => return none
  | '\'' :: cs =>
    let name := cs.takeWhile (· != '\'')
    match name, cs.drop name.length with
    | _ :: _, _ :: rest =>
      set rest
      return some (String.ofList name)
    | _, _ => stuck
  | cs =>
    let name := cs.takeWhile isNameChar
    if name.isEmpty then stuck
    set (cs.drop name.length)
    return some (String.ofList name)

/-- What stands before the closing quote, and what stands behind it.  A quote behind
a backslash does not close, unless there is no other one. -/
def quoted? (q : Char) : List Char → Option (List Char × List Char)
  | [] => none
  | '\\' :: c :: cs =>
    if c = q then
      match quoted? q cs with
      | some (body, rest) => some ('\\' :: c :: body, rest)
      | none => some (['\\'], cs)
    else (quoted? q (c :: cs)).map fun (body, rest) => ('\\' :: body, rest)
  | c :: cs =>
    if c = q then some ([], cs)
    else (quoted? q cs).map fun (body, rest) => (c :: body, rest)

/-- The characters that a letter behind a backslash stands for in double quotes. -/
def doubleEscapes : List (Char × Char) :=
  [('\\', '\\'), ('\'', '\''), ('"', '"'), ('a', '\x07'), ('b', '\x08'), ('f', '\x0c'),
   ('n', '\n'), ('r', '\r'), ('t', '\t'), ('v', '\x0b')]

/-- The characters that may be escaped in single quotes. -/
def singleEscapes : List (Char × Char) := [('\\', '\\'), ('\'', '\'')]

/-- The text of a quoted value. -/
def unescape (escapes : List (Char × Char)) : List Char → List Char
  | '\\' :: c :: cs =>
    match escapes.lookup c with
    | some d => d :: unescape escapes cs
    | none => '\\' :: unescape escapes (c :: cs)
  | c :: cs => c :: unescape escapes cs
  | [] => []

/-- A line up to the comment at its end. -/
def beforeComment : List Char → List Char
  | [] => []
  | c :: cs =>
    if isBlank c && (cs.dropWhile isBlank).head? = some '#' then [] else c :: beforeComment cs

/-- A value. -/
def readValue : Reading String := do
  let between (q : Char) (escapes : List (Char × Char)) (cs : List Char) : Reading String :=
    match quoted? q cs with
    | some (body, rest) => do
      set rest
      return String.ofList (unescape escapes body)
    | none => stuck
  match ← get with
  | '\'' :: cs => between '\'' singleEscapes cs
  | '"' :: cs => between '"' doubleEscapes cs
  | cs =>
    skip (· != '\n')
    return String.ofList (trimEnd isBlank (beforeComment (cs.takeWhile (· != '\n'))))

/-- The end of a line, with a comment or without. -/
def endLine : Reading Unit := do
  let cs := (← get).dropWhile isGap
  let cs := if cs.head? = some '#' then cs.dropWhile (· != '\n') else cs
  match cs with
  | [] => set cs
  | '\n' :: cs => set cs
  | _ => stuck

/-- A name with its value, if it has one. -/
abbrev Binding := String × Option String

/-- One line, or one value that runs over several. -/
def readBinding : Reading (Option Binding) := do
  skipExport
  let name ← readName
  skip isGap
  let value ←
    if (← get).head? = some '=' then do
      modify (·.drop 1)
      skip isGap
      some <$> readValue
    else pure none
  endLine
  return name.map (·, value)

/-- The bindings among at most `fuel` lines. -/
def bindingsWithin : Nat → List Char → List Binding
  | 0, _ => []
  | fuel + 1, cs =>
    match cs.dropWhile isBlank with
    | [] => []
    | cs =>
      match readBinding cs with
      | .ok (binding, rest) => binding.toList ++ bindingsWithin fuel rest
      | .error rest => bindingsWithin fuel ((rest.dropWhile (· != '\n')).drop 1)

/-- The bindings of a file, in its order.  Every line has a character at least. -/
def bindings (s : String) : List Binding :=
  let cs := unifyBreaks s.toList
  bindingsWithin cs.length cs

/-- A reference `${name}` or `${name:-value}` at the front: the name, the value it
has when there is no such variable, and the number of characters. -/
def reference? (cs : List Char) : Option (String × String × Nat) :=
  match cs with
  | '$' :: '{' :: cs =>
    let name := cs.takeWhile fun c => c != '}' && c != ':'
    match cs.drop name.length with
    | '}' :: _ => some (String.ofList name, "", name.length + 3)
    | ':' :: '-' :: rest =>
      let value := rest.takeWhile (· != '}')
      if value.length < rest.length then
        some (String.ofList name, String.ofList value, name.length + value.length + 5)
      else none
    | _ => none
  | _ => none

/-- A text behind its first `skipped` characters, with its references filled in. -/
def expandFrom (valueOf : String → String → String) : Nat → List Char → List Char
  | _, [] => []
  | skipped + 1, _ :: cs => expandFrom valueOf skipped cs
  | 0, c :: cs =>
    match reference? (c :: cs) with
    | some (name, value, length) =>
      (valueOf name value).toList ++ expandFrom valueOf (length - 1) cs
    | none => c :: expandFrom valueOf 0 cs

/-- A text with its references filled in. -/
def expand (valueOf : String → String → String) (s : String) : String :=
  String.ofList (expandFrom valueOf 0 s.toList)

/-- The names in the references of a text. -/
def referencesIn : List Char → List String
  | [] => []
  | c :: cs => ((reference? (c :: cs)).map (·.1)).toList ++ referencesIn cs

/-- The names that a file binds or refers to. -/
def mentioned (file : String) : List String :=
  (bindings file).flatMap fun b => b.1 :: (b.2.map fun s => referencesIn s.toList).getD []

/-- What a reference stands for: the variable of that name, else the binding above of
that name, else the value given for its absence. -/
def referent (env : Table String) (above : Table (Option String)) (name value : String) : String :=
  match env.get? name, above.get? name with
  | some s, _ => s
  | none, some binding => binding.getD ""
  | none, none => value

/-- The bindings with their references filled in, each from those above it. -/
def resolve (env : Table String) (bs : List Binding) : Table (Option String) :=
  bs.foldl (fun above b => above.insert b.1 (b.2.map (expand (referent env above)))) ∅

/-- Variables together with those of a file. -/
def load (env : Table String) (file : String) : Table String :=
  (resolve env (bindings file)).entries.foldl (fun all b =>
    match b.2 with
    | some value => if (env.get? b.1).isSome then all else all.insert b.1 value
    | none => all) env

@[simp] theorem load_empty (env : Table String) : load env "" = env := rfl

/-- A text without dollar signs stands for itself. -/
theorem expandFrom_of_not_mem (valueOf : String → String → String) {cs : List Char}
    (h : '$' ∉ cs) : expandFrom valueOf 0 cs = cs := by
  induction cs with
  | nil => rfl
  | cons c cs ih =>
    rw [List.mem_cons, not_or] at h
    have hr : reference? (c :: cs) = none := by
      unfold reference?
      split
      · rename_i heq
        exact absurd (List.cons.inj heq).1.symm h.1
      · rfl
    simp only [expandFrom, hr, ih h.2]

end Storyline.EnvFile
