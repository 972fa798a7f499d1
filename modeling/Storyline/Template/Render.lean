import Storyline.Json.Leaves
import Storyline.Json.Reader
import Storyline.Template.Reader
import Storyline.Template.Scope

/-!
# Rendering templates

A template is rendered against an object.  Values are shown as authors expect them,
blocks render one of their bodies, and a few names are helpers.

- `Fault`: why a template cannot be rendered;
- `showValue`: the text of a value;
- `renderPieces`: the text of pieces in a scope;
- `render?`: the text of a source.
-/

namespace Storyline.Template

/-- Why rendering fails: a helper or an operation is called with the wrong arguments,
something that is asked for does not exist, or a whole number is too long to be shown. -/
inductive Fault where
  | badCall
  | notFound
  | numberTooLong
  deriving DecidableEq, Repr

/-- The characters that are escaped, and what is shown instead. -/
def escapeChar : Char → List Char
  | '&' => "&amp;".toList
  | '"' => "&quot;".toList
  | '\'' => "&#x27;".toList
  | '\x60' => "&#x60;".toList
  | '<' => "&lt;".toList
  | '>' => "&gt;".toList
  | c => [c]

/-- A text with its special characters escaped. -/
def escapeText (s : String) : String := String.ofList (s.toList.flatMap escapeChar)

/-- A value as it is shown: nothing for null, and truth values in small letters. -/
def showJson : Json → String
  | .null => ""
  | .bool b => if b then "true" else "false"
  | v => v.display

/-- The text of a value. -/
def showValue : Value → Except Fault String
  | .json v => if v.fits (some Json.maxDigits) then .ok (showJson v) else .error .numberTooLong
  | .scope s =>
    if s.here.fits (some Json.maxDigits) then .ok s.here.display else .error .numberTooLong
  | .operation => .error .badCall

/-- A value that counts as something; an operation always does. -/
def Value.isTruthy : Value → Bool
  | .json v => v.isTruthy
  | .scope s => s.here.isTruthy
  | .operation => true

/-- The helpers that choose or repeat a body. -/
def blockHelpers : List String := ["if", "unless", "with", "each"]

/-- The character of a text at an index, which counts from the end if it is
negative. -/
def charAt? (s : String) (i : Int) : Option Char :=
  if 0 ≤ i then s.toList[i.toNat]?
  else if (-i).toNat ≤ s.length then s.toList[s.length - (-i).toNat]? else none

/-- A character as a value. -/
def charValue (c : Option Char) : Value := .json (c.elim .null fun c => .str (String.ofList [c]))

/-- What a value has at a key. -/
def lookup (root : Json) (v key : Value) : Value :=
  match v, key with
  | .json (.obj ms), .json (.str k) => .json ((Json.Members.get? k ms).getD .null)
  | .json (.str s), .json (.int i) => charValue (charAt? s i)
  | .json (.str s), .json (.bool b) => charValue (charAt? s (if b then 1 else 0))
  | .scope s, .json (.str k) => s.member root k
  | _, _ => .json .null

/-- The value of a helper that is called for its value. -/
def helperValue? (root : Json) (name : String) (arguments : List Value) :
    Option (Except Fault Value) :=
  if name = "lookup" then
    match arguments with
    | [v, key] => some (.ok (lookup root v key))
    | _ => some (.error .badCall)
  else if name = "log" then
    some (if arguments.length = 1 then .ok (.json .null) else .error .badCall)
  else if name = "helperMissing" then
    match arguments with
    | [] => some (.error .badCall)
    | [_] => some (.ok (.json .null))
    | _ => some (.error .notFound)
  else if name = "blockHelperMissing" || blockHelpers.contains name then some (.error .badCall)
  else none

mutual

/-- The value of an argument.  One with a name is known to no helper. -/
def evaluate (root : Json) (s : Scope) : Argument → Except Fault Value
  | .path p => .ok (resolve root s p)
  | .text mark written => .ok (.json (.str ((unescape? mark written).getD "")))
  | .int n => .ok (.json (.int n))
  | .bool b => .ok (.json (.bool b))
  | .null => .ok (.json .null)
  | .named _ _ => .error .badCall
  | .call p arguments =>
    match evaluateAll root s arguments with
    | .error f => .error f
    | .ok values =>
      ((helperName? p).bind (helperValue? root · values)).getD (.error .notFound)

/-- The values of arguments. -/
def evaluateAll (root : Json) (s : Scope) : List Argument → Except Fault (List Value)
  | [] => .ok []
  | a :: as => do
    let v ← evaluate root s a
    let vs ← evaluateAll root s as
    return v :: vs

end

/-- The value of a path that is to be shown.  What is given to a value that is there
is ignored, and what is given to a name that is not there is a fault. -/
def valueOf (root : Json) (s : Scope) (p : Path) (arguments : List Argument) :
    Except Fault Value := do
  let given := evaluateAll root s arguments
  let name := helperName? p
  match name with
  | some n =>
    if (helperValue? root n []).isSome then
      let values ← given
      return ← (helperValue? root n values).getD (.error .notFound)
  | none => pure ()
  match resolve root s p with
  | .operation => throw .badCall
  | .json .null =>
    if name.isSome then
      let values ← given
      if values.isEmpty then return .json .null else throw .notFound
    else return .json .null
  | v => return v

/-- The elements that a value repeats over, each with its key if it has one.  A value
without elements of its own has none. -/
def elements : Value → List (Option String × Json)
  | .json (.obj ms) => ms.map fun m => (some m.1, m.2)
  | .json (.str s) => s.toList.map fun c => (none, .str (String.ofList [c]))
  | _ => []

/-- The scopes of the elements of a value, inside another scope. -/
def elementScopes (s : Scope) (v : Value) : List Scope :=
  let es := elements v
  es.zipIdx.map fun ((key, v), i) =>
    .mk v (some s) (some ⟨i, key, i = 0, i + 1 = es.length⟩)

/-- The scope in which a value is the one spoken of. -/
def scopeOf : Value → Scope
  | .json v => .mk v none none
  | .scope s => s
  | .operation => .mk .null none none

/-- Which body a block renders, and in which scopes. -/
inductive Plan where
  | main (s : Scope)
  | other (s : Scope)
  | each (ss : List Scope)
  | nothing

/-- The plan of a block for a value: the other case for what counts as nothing, where
an empty text counts as something. -/
def sectionPlan (s : Scope) : Value → Except Fault Plan
  | .operation => .error .badCall
  | .json (.str t) => .ok (.main (scopeOf (.json (.str t))))
  | .json (.bool true) => .ok (.main s)
  | v => .ok (if v.isTruthy then .main (scopeOf v) else .other s)

/-- The plan of a block that a helper runs. -/
def helperPlan? (s : Scope) (name : String) (values : List Value) : Option (Except Fault Plan) :=
  if blockHelpers.contains name || name = "blockHelperMissing" then
    match values with
    | [v] =>
      if name = "blockHelperMissing" then some (sectionPlan s v)
      else if name = "each" then
        some (.ok (if (elements v).isEmpty then .other s else .each (elementScopes s v)))
      else if name = "unless" then some (.ok (if v.isTruthy then .nothing else .main s))
      else
        match v with
        | .operation => some (.error .badCall)
        | v =>
          if name = "with" then some (.ok (.main (scopeOf v)))
          else some (.ok (if v.isTruthy then .main s else .other s))
    | _ => some (.error .badCall)
  else if name = "log" || name = "helperMissing" then
    match values with
    | [] => some (.ok .nothing)
    | _ => some (.error (if name = "log" then .badCall else .notFound))
  else if name = "lookup" then
    match values with
    | [_] => some (.ok .nothing)
    | _ => some (.error .badCall)
  else none

/-- The plan of a block.  What is given to a block that no helper runs is ignored. -/
def planOf (root : Json) (s : Scope) (name : String) (arguments : List Argument) :
    Except Fault Plan :=
  if (helperPlan? s name []).isSome then do
    let values ← evaluateAll root s arguments
    (helperPlan? s name values).getD (.error .notFound)
  else sectionPlan s (s.member root name)

/-- Texts one after another; those of elements at which something is called wrongly
are left out. -/
def joinElements : List (Except Fault String) → Except Fault String
  | [] => .ok ""
  | .error .badCall :: rest => joinElements rest
  | .error f :: _ => .error f
  | .ok t :: rest => (joinElements rest).map (t ++ ·)

/-- Carry out a plan with the ways to render the two bodies. -/
def Plan.run (main other : Scope → Except Fault String) : Plan → Except Fault String
  | .main s => main s
  | .other s => other s
  | .each ss => joinElements (ss.map main)
  | .nothing => .ok ""

mutual

/-- The text of a piece. -/
def renderPiece (root : Json) (s : Scope) : Piece → Except Fault String
  | .text t => .ok t
  | .comment => .ok ""
  | .inclusion => .error .notFound
  | .value escaped p arguments => do
    let v ← valueOf root s p arguments
    let t ← showValue v
    return if escaped then escapeText t else t
  | .block inverted name arguments body other => do
    let plan ← planOf root s name arguments
    if inverted then
      plan.run (fun s => renderPieces root s other) (fun s => renderPieces root s body)
    else
      plan.run (fun s => renderPieces root s body) (fun s => renderPieces root s other)

/-- The text of pieces. -/
def renderPieces (root : Json) (s : Scope) : List Piece → Except Fault String
  | [] => .ok ""
  | p :: ps => do
    let t ← renderPiece root s p
    let ts ← renderPieces root s ps
    return t ++ ts

end

/-- The text of a source rendered against an object, unless something is wrong. -/
def render? (source : String) (root : Json) : Option String :=
  (read? source).bind fun ps => (renderPieces root (.mk root none none) ps).toOption

end Storyline.Template
